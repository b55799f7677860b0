import DatagramLink.Text.Pattern.Depth
import DatagramLink.Text.Pattern.Footprint
import DatagramLink.Text.Pattern.Meaning
import DatagramLink.Text.Pattern.Reader

/-!
# Patterns

Whether a text is a regular expression that can be used: its form and its meaning have no fault, no
table of characters is missing, and an automaton for it is not too large.
-/

namespace DatagramLink
namespace Text
namespace Pattern

/-- The most bytes that an automaton may take. -/
def sizeLimit : Nat := 10485760

/-- Why a text cannot be used as a pattern. -/
inductive Problem where
  | fault (f : Fault)
  | tooLarge
  /-- Boundaries of words are asked for, and no table of the characters of words is at hand. -/
  | wordsUnavailable
  deriving DecidableEq, Repr

/-- The problem of a pattern in words. -/
def Problem.message (problem : Problem) (pattern : String) : String :=
  match problem with
  | .fault f => f.report pattern
  | .tooLarge => s!"Compiled regex exceeds size limit of {sizeLimit} bytes."
  | .wordsUnavailable => "error building NFA"

/-- The expression that a text stands for. -/
def expr (pattern : String) : Except Fault Expr := do
  let form ← Form.read pattern
  match form.depthFault? with
  | some fault => throw fault
  | none => form.meaning

/-- Why an expression cannot be used, if it cannot. -/
def Expr.problem? (e : Expr) : Option Problem :=
  if sizeLimit < e.automatonSize .forward then some .tooLarge
  else if e.shape.needsWords then some .wordsUnavailable
  else if sizeLimit < e.automatonSize .backward then some .tooLarge
  else none

/-- Why a text cannot be used as a pattern, if it cannot. -/
def problem? (pattern : String) : Option Problem :=
  match expr pattern with
  | .error fault => some (.fault fault)
  | .ok e => e.problem?

end Pattern
end Text
end DatagramLink
