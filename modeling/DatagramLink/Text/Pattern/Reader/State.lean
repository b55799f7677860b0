import DatagramLink.Text.Pattern.Fault
import DatagramLink.Text.Pattern.Form
import DatagramLink.Text.Pattern.Scan

/-!
# The state of reading a pattern

A reader in the middle of a pattern keeps what was read at every level that is still open: groups
within groups, and sets within sets at the innermost of them.
-/

namespace DatagramLink
namespace Text
namespace Pattern

/-! ## Sets -/

/-- Members of a set, one behind the other. -/
structure Union where
  span : Span
  /-- The last one first. -/
  items : List SetForm := []

namespace Union

def push (u : Union) (item : SetForm) : Union :=
  ⟨if u.items.isEmpty then item.span else u.span.through item.span, item :: u.items⟩

def form (u : Union) : SetForm :=
  match u.items with
  | [] => .empty u.span
  | [item] => item
  | items => .union u.span items.reverse

end Union

/-- A set whose end was not read yet. -/
structure OpenSet where
  /-- The opening. -/
  span : Span
  isNegated : Bool
  /-- What the members are joined with. -/
  left : Option (SetOperation × SetForm) := none
  members : Union

namespace OpenSet

/-- What was read of the set so far. -/
def content (s : OpenSet) : SetForm :=
  match s.left with
  | none => s.members.form
  | some (op, left) =>
    .operation (left.span.through s.members.form.span) op left s.members.form

def push (s : OpenSet) (item : SetForm) : OpenSet := { s with members := s.members.push item }

/-- Joins what was read so far with what follows. -/
def join (s : OpenSet) (op : SetOperation) (behind : Span) : OpenSet :=
  { s with left := some (op, s.content), members := ⟨behind, []⟩ }

end OpenSet

/-! ## Groups -/

/-- The opening of a group. -/
structure Opening where
  span : Span
  /-- The number of a group that is remembered. -/
  number : Option Nat
  settings : List Setting
  /-- Whether the pattern is spaced outside. -/
  spacedOutside : Bool

/-- What was read of a group, or of the whole pattern. -/
structure Level where
  /-- The opening; none for the whole pattern. -/
  opening : Option Opening := none
  /-- Where the first branch starts. -/
  start : Place := {}
  /-- The branches before this one, the last one first. -/
  branches : List Form := []
  /-- Where this branch starts. -/
  branchStart : Place := {}
  /-- What this branch has so far, the last one first. -/
  forms : List Form := []

namespace Level

/-- A level that starts at a place. -/
def startAt (opening : Option Opening) (place : Place) : Level :=
  { opening, start := place, branchStart := place }

def push (l : Level) (form : Form) : Level := { l with forms := form :: l.forms }

/-- This branch, if it ends at a place. -/
def branch (l : Level) (stop : Place) : Form :=
  .inSequence ⟨l.branchStart, stop⟩ l.forms.reverse

/-- Ends this branch at a place and starts the next one behind. -/
def nextBranch (l : Level) (stop behind : Place) : Level :=
  { l with branches := l.branch stop :: l.branches, branchStart := behind, forms := [] }

/-- All branches, if the last one ends at a place. -/
def form (l : Level) (stop : Place) : Form :=
  if l.branches.isEmpty then l.branch stop
  else .choice ⟨l.start, stop⟩ (l.branch stop :: l.branches).reverse

end Level

/-! ## Readers -/

/-- A reader in the middle of a pattern. -/
structure Reader where
  scan : Scan
  /-- Whether blanks and comments are skipped. -/
  spaced : Bool := false
  /-- The innermost level. -/
  level : Level := {}
  /-- The levels outside of it, innermost first. -/
  outer : List Level := []
  /-- The open sets, innermost first. -/
  sets : List OpenSet := []
  /-- The number of groups that are remembered. -/
  groups : Nat := 0
  /-- The names of groups and where they stand. -/
  names : List (List Char × Span) := []

namespace Reader

def faultHere (r : Reader) (flaw : Flaw) : Fault := ⟨flaw, r.scan.charSpan, none⟩

/-- A fault in front of the next character. -/
def faultBefore (r : Reader) (flaw : Flaw) : Fault := ⟨flaw, r.scan.span, none⟩

def withScan (r : Reader) (scan : Scan) : Reader := { r with scan }

def skip (r : Reader) : Reader := r.withScan (r.scan.skip r.spaced)

/-- Adds a form to the innermost level. -/
def push (r : Reader) (form : Form) : Reader := { r with level := r.level.push form }

end Reader
end Pattern
end Text
end DatagramLink
