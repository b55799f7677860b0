import DatagramLink.Text.Pattern.Escape
import DatagramLink.Text.Pattern.Reader.State

/-!
# Reading sets

A set stands between brackets: characters, ranges, classes and sets within, joined by `&&`, `--` and
`~~`.
-/

namespace DatagramLink
namespace Text
namespace Pattern

/-- The classes that have a name, as ASCII has them. -/
def namedRanges? (name : String) : Option (List (Nat × Nat)) :=
  match name with
  | "alnum" => some [(0x30, 0x39), (0x41, 0x5A), (0x61, 0x7A)]
  | "alpha" => some [(0x41, 0x5A), (0x61, 0x7A)]
  | "ascii" => some [(0x00, 0x7F)]
  | "blank" => some [(0x09, 0x09), (0x20, 0x20)]
  | "cntrl" => some [(0x00, 0x1F), (0x7F, 0x7F)]
  | "digit" => some digitRanges
  | "graph" => some [(0x21, 0x7E)]
  | "lower" => some [(0x61, 0x7A)]
  | "print" => some [(0x20, 0x7E)]
  | "punct" => some [(0x21, 0x2F), (0x3A, 0x40), (0x5B, 0x60), (0x7B, 0x7E)]
  | "space" => some spaceRanges
  | "upper" => some [(0x41, 0x5A)]
  | "word" => some wordRanges
  | "xdigit" => some [(0x30, 0x39), (0x41, 0x46), (0x61, 0x66)]
  | _ => none

namespace Reader

/-! ## Opening and closing -/

/-- The dashes that a set begins with, which stand for themselves. -/
def pushDashes (set : OpenSet) (dashes : List (Char × Span)) : OpenSet :=
  dashes.foldl (fun set (c, span) => set.push (.member (.literal ⟨span, c, false⟩))) set

/-- Opens a set, from its bracket.  Dashes at its beginning stand for themselves, and so does a
closing bracket. -/
def openSet (r : Reader) : Except Fault Reader :=
  let start := r.scan.place
  let inside := r.scan.next r.spaced
  let isNegated := inside.head? = some '^'
  let first := if isNegated then inside.next r.spaced else inside
  match first.readWhile r.spaced (· == '-') with
  | (dashes, behind) =>
    let opened (behind : Scan) (members : List (Char × Span)) : Except Fault Reader :=
      let set := pushDashes ⟨behind.since start, isNegated, none, ⟨first.span, []⟩⟩ members
      .ok { r with scan := behind, sets := set :: r.sets }
    match behind.head? with
    | none =>
      .error ⟨.setUnclosed, if dashes.isEmpty then behind.since start else ⟨start, start⟩, none⟩
    | some ']' =>
      let second := behind.next r.spaced
      if !dashes.isEmpty then opened behind dashes
      else if second.isDone then .error ⟨.setUnclosed, second.since start, none⟩
      else opened second [(']', behind.charSpan)]
    | some _ => opened behind dashes

/-- The fault of a set that has no end. -/
def setUnclosed (r : Reader) : Fault :=
  match r.sets with
  | [] => r.faultBefore .setUnclosed
  | set :: _ => ⟨.setUnclosed, set.span, none⟩

/-- Closes the innermost set, at its bracket. -/
def closeSet (r : Reader) : Reader :=
  let behind := r.scan.advance
  match r.sets with
  | [] => r.withScan behind
  | set :: outer =>
    let span := behind.since set.span.start
    match outer with
    | [] => { r with scan := behind, sets := [] }.push (.set span set.isNegated set.content)
    | parent :: rest =>
      let inner := .bracketed span set.isNegated set.content
      { r with scan := behind, sets := parent.push inner :: rest }

def inSet (r : Reader) (scan : Scan) (change : OpenSet → OpenSet) : Reader :=
  match r.sets with
  | [] => r.withScan scan
  | set :: rest => { r with scan, sets := change set :: rest }

/-! ## Members -/

/-- Reads a class with a name, from its bracket; none if there is no such class. -/
def namedClass? (s : Scan) : Option (SetForm × Scan) :=
  match s.rest with
  | '[' :: ':' :: rest =>
    let isNegated := rest.head? = some '^'
    let caret := if isNegated then 1 else 0
    let name := (rest.drop caret).takeWhile (· != ':')
    let behind := s.advanceBy (name.length + caret + 4)
    if (rest.drop (caret + name.length)).take 2 = [':', ']'] then
      (namedRanges? (String.ofList name)).map fun ranges =>
        (.named (behind.since s.place) ranges isNegated, behind)
    else
      none
  | _ => none

/-- Reads what may be a bound of a range. -/
def readBound (spaced : Bool) (s : Scan) : Except Fault (Atom × Scan) :=
  match s.rest with
  | '\\' :: _ => readEscape spaced s
  | c :: _ => .ok (.member (.literal ⟨s.charSpan, c, false⟩), s.advance)
  | [] => .error ⟨.setUnclosed, s.span, none⟩

def range (first second : Atom) : Except Fault SetForm :=
  match first, second with
  | .member (.literal low), .member (.literal high) =>
    if low.char ≤ high.char then .ok (.range (low.span.through high.span) low high)
    else .error ⟨.setRange, low.span.through high.span, none⟩
  | .member (.literal _), other | other, _ => .error ⟨.setBound, other.span, none⟩

/-- Reads a member of a set: a range or an item alone. -/
def readMember (r : Reader) : Except Fault Reader := do
  let (first, behind) ← readBound r.spaced r.scan
  let dash := behind.skip r.spaced
  if dash.isDone then
    throw r.setUnclosed
  if dash.head? ≠ some '-' || dash.second? r.spaced = some ']' ||
      dash.second? r.spaced = some '-' then
    match first with
    | .member m => return r.inSet dash (·.push (.member m))
    | other => throw ⟨.setEscape, other.span, none⟩
  else
    let bound := dash.next r.spaced
    if bound.isDone then
      throw r.setUnclosed
    let (second, behind) ← readBound r.spaced bound
    let form ← range first second
    return r.inSet behind (·.push form)

/-- Joins what was read of the innermost set with what follows an operator of two characters. -/
def joinSet (r : Reader) (op : SetOperation) : Reader :=
  let behind := r.scan.advanceBy 2
  r.inSet behind (·.join op behind.span)

/-- Reads the next piece of the innermost set. -/
def stepSet (r : Reader) : Except Fault Reader :=
  match r.scan.rest with
  | '[' :: _ =>
    match namedClass? r.scan with
    | some (form, behind) => .ok (r.inSet behind (·.push form))
    | none => r.openSet
  | ']' :: _ => .ok r.closeSet
  | '&' :: '&' :: _ => .ok (r.joinSet .intersection)
  | '-' :: '-' :: _ => .ok (r.joinSet .difference)
  | '~' :: '~' :: _ => .ok (r.joinSet .symmetricDifference)
  | _ => r.readMember

end Reader
end Pattern
end Text
end DatagramLink
