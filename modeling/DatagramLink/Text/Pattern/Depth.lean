import DatagramLink.Text.Pattern.Fault
import DatagramLink.Text.Pattern.Form

/-!
# The depth of patterns

Groups, sets, repetitions, choices and sequences within one another make a pattern deep, and it may
not be deeper than `depthLimit`.
-/

namespace DatagramLink
namespace Text
namespace Pattern

mutual

/-- The first part of a set that lies too deep, below `depth` others. -/
def SetForm.tooDeep? (depth : Nat) : SetForm → Option Span
  | .empty _ | .member _ | .range _ _ _ | .named _ _ _ => none
  | .bracketed span _ content =>
    if depth = depthLimit then some span else content.tooDeep? (depth + 1)
  | .union span items =>
    if depth = depthLimit then some span else SetForm.anyTooDeep? (depth + 1) items
  | .operation span _ left right =>
    if depth = depthLimit then some span
    else (left.tooDeep? (depth + 1)).or (right.tooDeep? (depth + 1))

/-- The first part of some sets that lies too deep. -/
def SetForm.anyTooDeep? (depth : Nat) : List SetForm → Option Span
  | [] => none
  | form :: rest => (form.tooDeep? depth).or (SetForm.anyTooDeep? depth rest)

end

mutual

/-- The first part of a form that lies too deep, below `depth` others. -/
def Form.tooDeep? (depth : Nat) : Form → Option Span
  | .empty _ | .switches _ _ | .atom _ => none
  | .set span _ content =>
    if depth = depthLimit then some span else content.tooDeep? (depth + 1)
  | .repetition span _ _ _ form | .group span _ _ form =>
    if depth = depthLimit then some span else form.tooDeep? (depth + 1)
  | .choice span forms | .sequence span forms =>
    if depth = depthLimit then some span else Form.anyTooDeep? (depth + 1) forms

/-- The first part of some forms that lies too deep. -/
def Form.anyTooDeep? (depth : Nat) : List Form → Option Span
  | [] => none
  | form :: rest => (form.tooDeep? depth).or (Form.anyTooDeep? depth rest)

end

/-- The fault of a pattern that is too deep. -/
def Form.depthFault? (form : Form) : Option Fault :=
  (form.tooDeep? 0).map fun span => ⟨.tooDeep, span, none⟩

end Pattern
end Text
end DatagramLink
