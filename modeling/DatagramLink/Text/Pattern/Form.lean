import DatagramLink.Text.Pattern.Place

/-!
# Forms of patterns

What a regular expression is made of, as it is written: every part with its place in the text.
-/

namespace DatagramLink
namespace Text
namespace Pattern

/-- What a pattern may switch on and off for the rest of a group. -/
inductive Switch where
  /-- Case is ignored. -/
  | caseless
  /-- Lines have starts and ends of their own. -/
  | multiline
  /-- The dot stands for line ends too. -/
  | dotAll
  /-- Repetitions are lazy unless a question mark follows. -/
  | lazy
  /-- Text is made of characters, not of bytes. -/
  | unicode
  /-- Lines may end with a carriage return too. -/
  | returns
  /-- Blanks and comments are skipped. -/
  | spaced
  deriving DecidableEq, Repr

/-- A switch and whether it is on. -/
abbrev Setting := Switch × Bool

/-- Which boundary of words. -/
inductive Edge where
  | any
  | none
  | start
  | stop
  | startHalf
  | stopHalf
  deriving DecidableEq, Repr

/-- A condition on a place in the text. -/
inductive Boundary where
  | textStart
  | textEnd
  | lineStart
  | lineEnd
  | word (edge : Edge)
  deriving DecidableEq, Repr

/-- A character that stands for itself. -/
structure Literal where
  span : Span
  char : Char
  /-- Whether it is given by the two hexadecimal digits of a byte. -/
  isByte : Bool := false
  deriving DecidableEq, Repr

/-- What can stand alone or be a member of a set. -/
inductive Member where
  | literal (l : Literal)
  /-- A class with a letter of its own: digits, blanks or characters of words. -/
  | shorthand (span : Span) (ranges : List (Nat × Nat)) (isNegated : Bool)
  /-- The characters with a property. -/
  | property (span : Span)
  deriving DecidableEq, Repr

/-- The smallest parts outside of sets. -/
inductive Atom where
  | member (m : Member)
  | dot (span : Span)
  | boundary (span : Span) (b : Boundary)
  deriving DecidableEq, Repr

/-- How two sets become one. -/
inductive SetOperation where
  | intersection
  | difference
  | symmetricDifference
  deriving DecidableEq, Repr

/-- What stands between the brackets of a set, and the parts of that. -/
inductive SetForm where
  | empty (span : Span)
  | member (m : Member)
  | range (span : Span) (low high : Literal)
  /-- A class with a name in brackets. -/
  | named (span : Span) (ranges : List (Nat × Nat)) (isNegated : Bool)
  | bracketed (span : Span) (isNegated : Bool) (content : SetForm)
  | union (span : Span) (items : List SetForm)
  | operation (span : Span) (op : SetOperation) (left right : SetForm)

/-- A pattern and its parts. -/
inductive Form where
  | empty (span : Span)
  | switches (span : Span) (settings : List Setting)
  | atom (a : Atom)
  | set (span : Span) (isNegated : Bool) (content : SetForm)
  | repetition (span : Span) (least : Nat) (most : Option Nat) (isLazy : Bool) (form : Form)
  /-- A group: its number if it is remembered, and what it sets for its inside. -/
  | group (span : Span) (number : Option Nat) (settings : List Setting) (form : Form)
  | choice (span : Span) (forms : List Form)
  | sequence (span : Span) (forms : List Form)

namespace Member

def span : Member → Span
  | .literal l => l.span
  | .shorthand span _ _ | .property span => span

end Member

namespace Atom

def span : Atom → Span
  | .member m => m.span
  | .dot span | .boundary span _ => span

end Atom

namespace SetForm

/-- Where a part of a set stands. -/
def span : SetForm → Span
  | .member m => m.span
  | .empty span | .range span _ _ | .named span _ _ | .bracketed span _ _ | .union span _
  | .operation span _ _ _ => span

end SetForm

namespace Form

/-- Where a part of a pattern stands. -/
def span : Form → Span
  | .atom a => a.span
  | .empty span | .switches span _ | .set span _ _ | .repetition span _ _ _ _
  | .group span _ _ _ | .choice span _ | .sequence span _ => span

def inSequence (span : Span) : List Form → Form
  | [] => .empty span
  | [form] => form
  | forms => .sequence span forms

def isRepeatable : Form → Bool
  | .empty _ | .switches _ _ => false
  | _ => true

end Form
end Pattern
end Text
end DatagramLink
