import DatagramLink.Text.Decimal
import DatagramLink.Text.Pattern.Reader.State

/-!
# Reading repetitions

What stands behind a part of a pattern and says how often that part occurs: a sign, or counts in
braces.  A question mark behind it asks for as few occurrences as possible.
-/

namespace DatagramLink
namespace Text
namespace Pattern
namespace Reader

def maxCount : Nat := 0xFFFFFFFF

/-- Reads a number with blanks around it: the number, or what is wrong with it. -/
def readCount (spaced : Bool) (s : Scan) : Except Fault Nat × Scan :=
  let (_, first) := s.readWhile false isBlank
  let (digits, last) := first.readWhile spaced Char.isDigit
  let (_, behind) := last.readWhile spaced isBlank
  let span := last.since first.place
  let count := match digits? (digits.map (·.1)) with
    | none => .error ⟨.countMissing, span, none⟩
    | some n => if n ≤ maxCount then .ok n else .error ⟨.countTooLarge, span, none⟩
  (count, behind)

/-- Reads counts behind the opening brace: the least and the most, and where the closing brace
should be. -/
def readCounts (r : Reader) (s : Scan) : Except Fault (Nat × Option Nat × Scan) :=
  let unclosed (s : Scan) : Fault := ⟨.countUnclosed, s.since r.scan.place, none⟩
  if s.isDone then
    .error (unclosed s)
  else
    match readCount r.spaced s with
    | (least, behind) =>
      if behind.isDone then
        .error (unclosed behind)
      else if behind.head? ≠ some ',' then do
        let least ← least
        return (least, some least, behind)
      else
        let second := behind.next r.spaced
        if second.isDone then
          .error (unclosed second)
        else if second.head? = some '}' then do
          return (← least, none, second)
        else do
          let least ← least
          let (most, last) := readCount r.spaced second
          return (least, some (← most), last)

/-- Repeats the last form; `behind` is where the sign or the braces end. -/
def repeatLast (r : Reader) (least : Nat) (most : Option Nat) (behind : Scan) :
    Except Fault Reader :=
  let isLazy := behind.head? = some '?'
  let last := if isLazy then behind.advance else behind
  match r.level.forms with
  | form :: before =>
    if most.all (least ≤ ·) then
      let span := ⟨form.span.start, last.place⟩
      let form := .repetition span least most isLazy form
      .ok { r with scan := last, level := { r.level with forms := form :: before } }
    else
      .error ⟨.countsReversed, last.since r.scan.place, none⟩
  | [] => .error (r.faultBefore .operandMissing)

def readRepetition (r : Reader) : Except Fault Reader :=
  if !(r.level.forms.head?.any Form.isRepeatable) then
    .error (r.faultBefore .operandMissing)
  else
    match r.scan.head? with
    | some '{' => do
      let (least, most, last) ← r.readCounts (r.scan.next r.spaced)
      if last.head? = some '}' then
        r.repeatLast least most (last.next r.spaced)
      else
        throw ⟨.countUnclosed, last.since r.scan.place, none⟩
    | some '?' => r.repeatLast 0 (some 1) r.scan.advance
    | some '+' => r.repeatLast 1 none r.scan.advance
    | _ => r.repeatLast 0 none r.scan.advance

end Reader
end Pattern
end Text
end DatagramLink
