import DatagramLink.Text.Pattern.Reader.Group
import DatagramLink.Text.Pattern.Reader.Repetition
import DatagramLink.Text.Pattern.Reader.Set

/-!
# Reading patterns

The form of a regular expression, or the first fault in it.  Reading goes from left to right, one
piece at a time.
-/

namespace DatagramLink
namespace Text
namespace Pattern
namespace Reader

/-- Reads an atom: an escape, a sign with a meaning or a character that stands for itself. -/
def readAtom (r : Reader) : Except Fault Reader := do
  let span := r.scan.charSpan
  let plain (atom : Atom) : Except Fault Reader :=
    .ok ((r.withScan r.scan.advance).push (.atom atom))
  match r.scan.rest with
  | '\\' :: _ =>
    let (atom, behind) ← readEscape r.spaced r.scan
    return (r.withScan behind).push (.atom atom)
  | '.' :: _ => plain (.dot span)
  | '^' :: _ => plain (.boundary span .lineStart)
  | '$' :: _ => plain (.boundary span .lineEnd)
  | c :: _ => plain (.member (.literal ⟨span, c, false⟩))
  | [] => return r

/-- Reads the next piece outside of sets. -/
def stepForm (r : Reader) : Except Fault Reader :=
  match r.scan.head? with
  | some '(' => r.readOpening
  | some ')' => r.closeGroup
  | some '|' => .ok r.nextBranch
  | some '[' => r.openSet
  | some '?' | some '*' | some '+' | some '{' => r.readRepetition
  | _ => r.readAtom

def step (r : Reader) : Except Fault Reader := if r.sets.isEmpty then r.stepForm else r.stepSet

/-- The form of what was read, at the end. -/
def finish (r : Reader) : Except Fault Form :=
  match r.sets, r.level.opening with
  | _ :: _, _ => .error r.setUnclosed
  | [], some opening => .error ⟨.groupUnclosed, opening.span, none⟩
  | [], none => .ok (r.level.form r.scan.place)

/-- Reads on, at most `fuel` pieces. -/
def run (r : Reader) : Nat → Except Fault Form
  | 0 => r.skip.finish
  | fuel + 1 => if r.skip.scan.isDone then r.skip.finish else do (← r.skip.step).run fuel

end Reader

/-- Reads a pattern.  Every piece has a character, so there are no more pieces than characters. -/
def Form.read (pattern : String) : Except Fault Form :=
  { scan := { rest := pattern.toList } : Reader }.run pattern.length

end Pattern
end Text
end DatagramLink
