/-!
# Places in a text

Where something stands in a text of several lines.  Lines and columns count from zero, and a line
ends behind its line feed.
-/

namespace DatagramLink
namespace Text
namespace Pattern

/-- A place between the characters of a text. -/
structure Place where
  /-- The number of characters in front. -/
  index : Nat := 0
  line : Nat := 0
  column : Nat := 0
  deriving DecidableEq, Repr

def Place.after (p : Place) (c : Char) : Place :=
  if c = '\n' then ⟨p.index + 1, p.line + 1, 0⟩ else ⟨p.index + 1, p.line, p.column + 1⟩

/-- The characters between two places. -/
structure Span where
  start : Place
  stop : Place
  deriving DecidableEq, Repr

namespace Span

/-- Whether all of it is in one line. -/
def isOneLine (s : Span) : Bool := s.start.line == s.stop.line

/-- Everything from the start of one span to the end of another. -/
def through (a b : Span) : Span := ⟨a.start, b.stop⟩

end Span

end Pattern
end Text
end DatagramLink
