import DatagramLink.Text.Letter
import DatagramLink.Text.Pattern.Reader.State

/-!
# Reading groups

A group stands between parentheses.  Behind the opening one a question mark may follow, and then a
name or switches.  Switches without a group hold for the rest of the group that they stand in.
-/

namespace DatagramLink
namespace Text
namespace Pattern
namespace Reader

/-! ## Names -/

/-- Whether a character may stand in a name. -/
def isNameChar (isFirst : Bool) (c : Char) : Bool :=
  c == '_' || isLetter c ||
    (!isFirst && (isNumeral c || c == '.' || c == '[' || c == ']'))

/-- Where the first character stands that cannot be in a name. -/
def badNameChar? (name : List (Char × Span)) : Option Span :=
  match name with
  | [] => none
  | (first, span) :: rest =>
    if isNameChar true first then (rest.find? (!isNameChar false ·.1)).map (·.2) else some span

/-- Reads a name and the angle bracket behind it. -/
def readName (r : Reader) (s : Scan) : Except Fault (List Char × Span × Scan) :=
  match s.readWhile false (· != '>') with
  | (chars, last) =>
    let name := chars.map (·.1)
    let span := last.since s.place
    match badNameChar? chars with
    | some bad => .error ⟨.nameInvalid, bad, none⟩
    | none =>
      if last.isDone then .error ⟨.nameUnclosed, last.span, none⟩
      else if name.isEmpty then .error ⟨.nameEmpty, span, none⟩
      else
        match r.names.lookup name with
        | some other => .error ⟨.nameRepeated, span, some other⟩
        | none => .ok (name, span, last.advance)

/-! ## Switches -/

def switch? : Char → Option Switch
  | 'i' => some .caseless
  | 'm' => some .multiline
  | 's' => some .dotAll
  | 'U' => some .lazy
  | 'u' => some .unicode
  | 'R' => some .returns
  | 'x' => some .spaced
  | _ => none

/-- Switches that were read, and the letters and dashes with their places, the last one first. -/
structure SwitchRun where
  settings : List Setting := []
  seen : List (Char × Span) := []

namespace SwitchRun

/-- Whether a dash was read, which turns off what follows. -/
def isOff (run : SwitchRun) : Bool := (run.seen.lookup '-').isSome

def add (run : SwitchRun) (c : Char) (span : Span) : Except Fault SwitchRun :=
  if c == '-' then
    match run.seen.lookup c with
    | some other => .error ⟨.negationRepeated, span, some other⟩
    | none => .ok { run with seen := (c, span) :: run.seen }
  else
    match switch? c, run.seen.lookup c with
    | none, _ => .error ⟨.switchUnknown, span, none⟩
    | some _, some other => .error ⟨.switchRepeated, span, some other⟩
    | some switch, none =>
      .ok ⟨run.settings ++ [(switch, !run.isOff)], (c, span) :: run.seen⟩

/-- Reads switches up to a colon or a closing parenthesis. -/
def read (run : SwitchRun) (place : Place) : List Char → Except Fault (SwitchRun × Scan)
  | [] => .error ⟨.switchesUnclosed, ⟨place, place⟩, none⟩
  | c :: rest =>
    if c == ':' || c == ')' then
      match run.seen with
      | ('-', span) :: _ => .error ⟨.negationDangling, span, none⟩
      | _ => .ok (run, ⟨place, c :: rest⟩)
    else do
      (← run.add c ⟨place, place.after c⟩).read (place.after c) rest

end SwitchRun

/-! ## Opening and closing -/

/-- The last value of the switch for spaced patterns. -/
def spacedAfter (spaced : Bool) (settings : List Setting) : Bool :=
  settings.foldl (fun now (switch, on) => if switch = .spaced then on else now) spaced

/-- Opens a group of which the opening ends in front of a scan. -/
def openGroup (r : Reader) (number : Option Nat) (settings : List Setting) (inside : Scan) :
    Reader :=
  let opening := ⟨r.scan.charSpan, number, settings, r.spaced⟩
  { r with
    scan := inside
    spaced := spacedAfter r.spaced settings
    level := .startAt (some opening) inside.place
    outer := r.level :: r.outer }

def openNumbered (r : Reader) (inside : Scan) : Reader :=
  { r with groups := r.groups + 1 }.openGroup (some (r.groups + 1)) [] inside

/-- Opens a group whose name stands in front. -/
def openNamed (r : Reader) (s : Scan) : Except Fault Reader := do
  let (name, span, inside) ← r.readName s
  return { r with names := (name, span) :: r.names }.openNumbered inside

/-- Reads switches behind the question mark at `mark`, and what they are for: a group, or the rest
of this one. -/
def openSwitched (r : Reader) (mark : Scan) : Except Fault Reader :=
  if mark.advance.isDone then
    .error (r.faultHere .groupUnclosed)
  else do
    let (run, last) ← SwitchRun.read {} mark.advance.place mark.advance.rest
    let behind := last.advance
    if last.head? = some ':' then
      return r.openGroup none run.settings behind
    else if run.seen.isEmpty then
      throw ⟨.operandMissing, mark.span, none⟩
    else
      return { r with scan := behind, spaced := spacedAfter r.spaced run.settings }.push
        (.switches (behind.since r.scan.place) run.settings)

/-- Reads the opening of a group, from its parenthesis. -/
def readOpening (r : Reader) : Except Fault Reader :=
  let inside := r.scan.next r.spaced
  let lookAround (count : Nat) : Except Fault Reader :=
    .error ⟨.lookAround, (inside.advanceBy count).since r.scan.place, none⟩
  match inside.rest with
  | '?' :: '=' :: _ | '?' :: '!' :: _ => lookAround 2
  | '?' :: '<' :: '=' :: _ | '?' :: '<' :: '!' :: _ => lookAround 3
  | '?' :: 'P' :: '<' :: _ => r.openNamed (inside.advanceBy 3)
  | '?' :: '<' :: _ => r.openNamed (inside.advanceBy 2)
  | '?' :: _ => r.openSwitched inside
  | _ => .ok (r.openNumbered inside)

/-- Closes the innermost group, at its parenthesis. -/
def closeGroup (r : Reader) : Except Fault Reader :=
  match r.level.opening, r.outer with
  | some opening, parent :: outer =>
    let behind := r.scan.advance
    let form := .group (behind.since opening.span.start) opening.number opening.settings
      (r.level.form r.scan.place)
    .ok { r with
      scan := behind, spaced := opening.spacedOutside, level := parent.push form, outer }
  | _, _ => .error (r.faultHere .groupUnopened)

/-- Ends a branch, at the bar behind it. -/
def nextBranch (r : Reader) : Reader :=
  let behind := r.scan.advance
  { r with scan := behind, level := r.level.nextBranch r.scan.place behind.place }

end Reader
end Pattern
end Text
end DatagramLink
