import DatagramLink.Text.Blank
import DatagramLink.Text.Pattern.Place

/-!
# Scanning a pattern

What is left of a pattern, and where that starts.  In a spaced pattern blanks may stand between
characters, and comments from a number sign to the end of the line.
-/

namespace DatagramLink
namespace Text
namespace Pattern

/-- What is left of a pattern. -/
structure Scan where
  place : Place := {}
  rest : List Char
  deriving DecidableEq

namespace Scan

def head? (s : Scan) : Option Char := s.rest.head?

def isDone (s : Scan) : Bool := s.rest.isEmpty

/-- No characters, here. -/
def span (s : Scan) : Span := ⟨s.place, s.place⟩

/-- The next character, if there is one. -/
def charSpan (s : Scan) : Span :=
  match s.rest with
  | [] => s.span
  | c :: _ => ⟨s.place, s.place.after c⟩

def since (s : Scan) (start : Place) : Span := ⟨start, s.place⟩

def advance (s : Scan) : Scan :=
  match s.rest with
  | [] => s
  | c :: rest => ⟨s.place.after c, rest⟩

/-- Goes on behind a number of characters. -/
def advanceBy (s : Scan) : Nat → Scan
  | 0 => s
  | count + 1 => s.advance.advanceBy count

/-- Skips blanks and comments; `inComment` tells whether this is the middle of one. -/
def skipFrom (inComment : Bool) (place : Place) : List Char → Scan
  | [] => ⟨place, []⟩
  | c :: rest =>
    if inComment then skipFrom (c != '\n') (place.after c) rest
    else if isBlank c then skipFrom false (place.after c) rest
    else if c == '#' then skipFrom true (place.after c) rest
    else ⟨place, c :: rest⟩

def skip (spaced : Bool) (s : Scan) : Scan := if spaced then skipFrom false s.place s.rest else s

/-- Goes on behind the next character and what means nothing there. -/
def next (spaced : Bool) (s : Scan) : Scan := s.advance.skip spaced

theorem length_skipFrom_le (inComment : Bool) (place : Place) (chars : List Char) :
    (skipFrom inComment place chars).rest.length ≤ chars.length := by
  induction chars generalizing inComment place with
  | nil => exact Nat.le_refl _
  | cons c rest ih =>
    rw [skipFrom]
    split
    · exact Nat.le_succ_of_le (ih ..)
    · split
      · exact Nat.le_succ_of_le (ih ..)
      · split
        · exact Nat.le_succ_of_le (ih ..)
        · exact Nat.le_refl _

theorem length_next_lt (spaced : Bool) {s : Scan} {c : Char} {rest : List Char}
    (h : s.rest = c :: rest) : (s.next spaced).rest.length < s.rest.length := by
  have hadvance : s.advance.rest = rest := by simp [advance, h]
  rw [next, skip, h, List.length_cons]
  split
  · exact Nat.lt_succ_of_le (hadvance ▸ length_skipFrom_le ..)
  · exact Nat.lt_succ_of_le (hadvance ▸ Nat.le_refl _)

/-- Reads characters while they pass a test: each with its place. -/
def readWhile (spaced : Bool) (test : Char → Bool) (s : Scan) : List (Char × Span) × Scan :=
  match _hrest : s.rest with
  | [] => ([], s)
  | c :: _ =>
    if test c then
      match readWhile spaced test (s.next spaced) with
      | (chars, behind) => ((c, s.charSpan) :: chars, behind)
    else
      ([], s)
termination_by s.rest.length
decreasing_by exact length_next_lt spaced _hrest

/-- The first character that is neither blank nor starts a comment; within a comment every character
counts. -/
def firstVisible? (inComment : Bool) : List Char → Option Char
  | [] => none
  | c :: rest =>
    if isBlank c then firstVisible? inComment rest
    else if c == '#' && !inComment then firstVisible? true rest
    else some c

/-- The character behind the next one and what means nothing there. -/
def second? (spaced : Bool) (s : Scan) : Option Char :=
  if spaced then (firstVisible? false s.rest.tail).or s.rest.tail.head? else s.rest.tail.head?

end Scan
end Pattern
end Text
end DatagramLink
