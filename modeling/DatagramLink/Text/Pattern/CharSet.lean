/-!
# Sets of characters

A set of code points or bytes, given by the numbers at which membership turns: from the first up to
the second its members lie, from the second up to the third they do not, and so on.  Two sets are
joined by going through the turns of both.
-/

namespace DatagramLink
namespace Text
namespace Pattern

/-- A set of numbers. -/
structure CharSet where
  /-- Where membership turns, in increasing order. -/
  turns : List Nat := []
  deriving DecidableEq, Repr

namespace CharSet

/-- A turn between two values, if they differ. -/
def turn (place : Nat) (before after : Bool) (rest : List Nat) : List Nat :=
  if before == after then rest else place :: rest

/-- The turns of a joined set, where `a` and `b` tell on which side of the turns to come each of
the sets is. -/
def joinTurns (join : Bool → Bool → Bool) (a b : Bool) (xs ys : List Nat) : List Nat :=
  match xs, ys with
  | [], [] => []
  | x :: xs, [] => turn x (join a b) (join (!a) b) (joinTurns join (!a) b xs [])
  | [], y :: ys => turn y (join a b) (join a (!b)) (joinTurns join a (!b) [] ys)
  | x :: xs, y :: ys =>
    if x < y then turn x (join a b) (join (!a) b) (joinTurns join (!a) b xs (y :: ys))
    else if y < x then turn y (join a b) (join a (!b)) (joinTurns join a (!b) (x :: xs) ys)
    else turn x (join a b) (join (!a) (!b)) (joinTurns join (!a) (!b) xs ys)
termination_by xs.length + ys.length

/-- The numbers for which membership in two sets makes `join` true; `join` is false where neither
has the number. -/
def joined (join : Bool → Bool → Bool) (s t : CharSet) : CharSet :=
  ⟨joinTurns join false false s.turns t.turns⟩

def union (s t : CharSet) : CharSet := s.joined (· || ·) t

def intersection (s t : CharSet) : CharSet := s.joined (· && ·) t

def difference (s t : CharSet) : CharSet := s.joined (fun a b => a && !b) t

def symmetricDifference (s t : CharSet) : CharSet := s.joined (· != ·) t

/-- The numbers from `low` to `high`. -/
def range (low high : Nat) : CharSet := if low ≤ high then ⟨[low, high + 1]⟩ else {}

/-- The numbers in some ranges, ends included. -/
def ofRanges (ranges : List (Nat × Nat)) : CharSet :=
  ranges.foldl (fun s (low, high) => s.union (range low high)) {}

/-- The ranges of a set, ends included. -/
def ranges (s : CharSet) : List (Nat × Nat) := pairs s.turns
where
  /-- Each turn with the one behind it. -/
  pairs : List Nat → List (Nat × Nat)
    | low :: stop :: rest => (low, stop - 1) :: pairs rest
    | _ => []

def isEmpty (s : CharSet) : Bool := s.turns.isEmpty

/-- The only member of a set that has just one. -/
def single? (s : CharSet) : Option Nat :=
  match s.ranges with
  | [(low, high)] => if low = high then some low else none
  | _ => none

def isAscii (s : CharSet) : Bool := s.turns.all (· ≤ 0x80)

/-- All characters: the code points but the surrogates. -/
def characters : CharSet := ⟨[0, 0xD800, 0xE000, 0x110000]⟩

def bytes : CharSet := ⟨[0, 0x100]⟩

/-- A set with both cases of every ASCII letter in it. -/
def foldCase (s : CharSet) : CharSet :=
  let lower := s.intersection (range 0x61 0x7A)
  let upper := s.intersection (range 0x41 0x5A)
  (s.union ⟨lower.turns.map (· - 0x20)⟩).union ⟨upper.turns.map (· + 0x20)⟩

end CharSet
end Pattern
end Text
end DatagramLink
