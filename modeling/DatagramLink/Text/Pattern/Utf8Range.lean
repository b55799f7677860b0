/-!
# Ranges of characters in UTF-8

A range of characters as ranges of bytes: sequences of byte ranges, in increasing order, that
together stand for exactly the encodings of the characters.
-/

namespace DatagramLink
namespace Text
namespace Pattern

/-- The bytes from the first number to the second. -/
abbrev ByteRange := Nat × Nat

namespace ByteRange

def continuation : ByteRange := (0x80, 0xBF)

/-- The encodings of the numbers from `low` to `high` in one byte that carries `mark` and `count`
bytes that continue it. -/
def sequences (mark : Nat) : Nat → Nat → Nat → List (List ByteRange)
  | 0, low, high => [[(mark + low, mark + high)]]
  | count + 1, low, high =>
    let size := 64 ^ (count + 1)
    let inBlock (block first last : Nat) : List (List ByteRange) :=
      (sequences 0x80 count first last).map ((mark + block, mark + block) :: ·)
    if low / size = high / size then
      inBlock (low / size) (low % size) (high % size)
    else
      let isWholeAtStart := low % size = 0
      let isWholeAtEnd := high % size = size - 1
      let first := if isWholeAtStart then low / size else low / size + 1
      let stop := if isWholeAtEnd then high / size + 1 else high / size
      (if isWholeAtStart then [] else inBlock (low / size) (low % size) (size - 1)) ++
        (if first < stop then
          [(mark + first, mark + (stop - 1)) :: List.replicate (count + 1) continuation]
        else []) ++
        (if isWholeAtEnd then [] else inBlock (high / size) 0 (high % size))

/-- Ranges of code points whose encodings have the same length: the ends, the mark of the first byte
and the number of bytes behind it. -/
def blocks : List (Nat × Nat × Nat × Nat) :=
  [(0x00, 0x7F, 0x00, 0), (0x80, 0x7FF, 0xC0, 1), (0x800, 0xD7FF, 0xE0, 2),
    (0xE000, 0xFFFF, 0xE0, 2), (0x10000, 0x10FFFF, 0xF0, 3)]

/-- The encodings of the characters from `low` to `high`. -/
def ofCharacters (low high : Nat) : List (List ByteRange) :=
  blocks.flatMap fun (least, most, mark, count) =>
    if max low least ≤ min high most then
      sequences mark count (max low least) (min high most)
    else
      []

end ByteRange
end Pattern
end Text
end DatagramLink
