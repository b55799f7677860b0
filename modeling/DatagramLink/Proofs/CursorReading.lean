import DatagramLink.Cursor

/-!
# Reading what was written

A cursor's rest is what its reads see.  Each read below is stated on a rest that
starts with a known piece: the read hands out that piece, and the rest behind it
is what is left.  The bytes themselves never change, so chains of reads are
followed through the rest alone.
-/

namespace DatagramLink

instance instLawfulBEqBytes : LawfulBEq ByteArray where
  eq_of_beq := by
    intro left right heq
    exact ByteArray.ext (eq_of_beq (α := Array UInt8) heq)
  rfl := by
    intro bytes
    exact BEq.rfl (α := Array UInt8)

namespace Cursor

def skip (c : Cursor) (count : Nat) : Cursor :=
  { c with position := c.position + count }

def InBounds (c : Cursor) : Prop := c.position ≤ c.bytes.size

theorem inBounds_ofBytes (bytes : ByteArray) : (ofBytes bytes).InBounds :=
  Nat.zero_le _

@[simp] theorem remaining_ofBytes (bytes : ByteArray) :
    (ofBytes bytes).remaining = bytes := by
  simp [ofBytes, remaining]

@[simp] theorem rewind_ofBytes (bytes : ByteArray) :
    (ofBytes bytes).rewind = ofBytes bytes := rfl

@[simp] theorem skip_skip (c : Cursor) (first second : Nat) :
    (c.skip first).skip second = c.skip (first + second) := by
  simp [skip, Nat.add_assoc]

theorem size_remaining (c : Cursor) :
    c.remaining.size = c.bytes.size - c.position := by
  simp [remaining]

theorem remaining_skip (c : Cursor) (count : Nat) :
    (c.skip count).remaining = c.remaining.extract count c.remaining.size := by
  rw [size_remaining]
  simp only [remaining, skip, ByteArray.extract_extract]
  congr 1
  omega

theorem remaining_skip_of_append
    {c : Cursor} {piece rest : ByteArray}
    (hrest : c.remaining = piece ++ rest) :
    (c.skip piece.size).remaining = rest := by
  rw [remaining_skip, hrest, ByteArray.size_append]
  exact ByteArray.extract_append_eq_right rfl rfl

theorem InBounds.skip
    {c : Cursor} (hin : c.InBounds) {piece rest : ByteArray}
    (hrest : c.remaining = piece ++ rest) :
    (c.skip piece.size).InBounds := by
  have hsize := congrArg ByteArray.size hrest
  rw [size_remaining, ByteArray.size_append] at hsize
  unfold InBounds at *
  simp only [Cursor.skip]
  omega

/-- A read hands out the piece that the rest starts with. -/
theorem read_of_append
    {c : Cursor} (hin : c.InBounds) {piece rest : ByteArray}
    (hrest : c.remaining = piece ++ rest) :
    c.read piece.size = (.ok piece, c.skip piece.size) := by
  have hbound : c.position + piece.size ≤ c.bytes.size := hin.skip hrest
  have hpiece :
      c.bytes.extract c.position (c.position + piece.size) = piece := by
    calc
      c.bytes.extract c.position (c.position + piece.size) =
          c.remaining.extract 0 piece.size := by
            rw [remaining, ByteArray.extract_extract, Nat.add_zero,
              Nat.min_eq_left hbound]
      _ = piece := by
            rw [hrest]
            exact ByteArray.extract_append_eq_left rfl
  simp only [read, if_pos hbound, hpiece, skip]

/-! ## Words -/

def word16 (word : UInt16) : ByteArray := Bytes.littleEndian 2 word.toNat

def word32 (word : UInt32) : ByteArray := Bytes.littleEndian 4 word.toNat

@[simp] theorem size_word16 (word : UInt16) : (word16 word).size = 2 :=
  Bytes.size_littleEndian 2 _

@[simp] theorem size_word32 (word : UInt32) : (word32 word).size = 4 :=
  Bytes.size_littleEndian 4 _

theorem toNat_word16 (word : UInt16) : Bytes.toNat (word16 word) = word.toNat := by
  rw [word16, Bytes.toNat_littleEndian]
  exact Nat.mod_eq_of_lt word.toNat_lt

theorem toNat_word32 (word : UInt32) : Bytes.toNat (word32 word) = word.toNat := by
  rw [word32, Bytes.toNat_littleEndian]
  exact Nat.mod_eq_of_lt word.toNat_lt

theorem readWord16_of_append
    {c : Cursor} (hin : c.InBounds) {word : UInt16} {rest : ByteArray}
    (hrest : c.remaining = word16 word ++ rest) :
    c.readWord16 = (.ok word, c.skip 2) := by
  have hread := read_of_append hin hrest
  rw [size_word16] at hread
  simp [readWord16, hread, Except.map, toNat_word16]

theorem readWord32_of_append
    {c : Cursor} (hin : c.InBounds) {word : UInt32} {rest : ByteArray}
    (hrest : c.remaining = word32 word ++ rest) :
    c.readWord32 = (.ok word, c.skip 4) := by
  have hread := read_of_append hin hrest
  rw [size_word32] at hread
  simp [readWord32, hread, Except.map, toNat_word32]

end Cursor
end DatagramLink
