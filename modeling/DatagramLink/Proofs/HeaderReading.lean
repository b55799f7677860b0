import DatagramLink.Proofs.HeaderCodec

/-!
# What a header was read from

A header that was read is spelled by the front of the datagram: `Header.bytes` of what
was read, followed by what is left to read, is the datagram itself.  So a reader accepts
no other spelling of a header than the one that a writer uses, and statements about what
arrives can name the bytes instead of the reader.
-/

namespace DatagramLink

namespace Bytes

theorem littleEndianList_ofLittleEndianList (bytes : List UInt8) :
    littleEndianList bytes.length (ofLittleEndianList bytes) = bytes := by
  induction bytes with
  | nil => rfl
  | cons byte rest ih =>
      have hlow : UInt8.ofNat (byte.toNat + 256 * ofLittleEndianList rest) = byte := by
        apply UInt8.toNat_inj.mp
        have hbyte := byte.toNat_lt
        rw [UInt8.toNat_ofNat']
        omega
      have hhigh : (byte.toNat + 256 * ofLittleEndianList rest) / 256 =
          ofLittleEndianList rest := by
        have hbyte := byte.toNat_lt
        omega
      rw [List.length_cons, littleEndianList, ofLittleEndianList, hlow, hhigh, ih]

/-- A run of bytes is the number that it spells, written in as many bytes. -/
theorem littleEndian_toNat (bytes : ByteArray) :
    littleEndian bytes.size (toNat bytes) = bytes := by
  have hlist := littleEndianList_ofLittleEndianList bytes.data.toList
  rw [Array.length_toList] at hlist
  apply ByteArray.ext
  change (littleEndianList bytes.data.size (toNat bytes)).toByteArray.data = bytes.data
  rw [toNat, hlist]
  simp

theorem toNat_lt (bytes : ByteArray) : toNat bytes < capacity bytes.size := by
  have hwritten := toNat_littleEndian bytes.size (toNat bytes)
  have hpositive : 0 < capacity bytes.size := by
    induction bytes.size with
    | zero => decide
    | succ width ih => exact Nat.mul_pos (by decide) ih
  rw [littleEndian_toNat] at hwritten
  rw [hwritten]
  exact Nat.mod_lt _ hpositive

end Bytes

namespace Cursor

variable {c rest : Cursor}

/-- A read takes its piece off the front of what is left. -/
theorem eq_append_of_read
    {count : Nat} {piece : ByteArray} (hread : c.read count = (.ok piece, rest)) :
    piece.size = count ∧ c.remaining = piece ++ rest.remaining := by
  unfold read at hread
  split at hread
  · next hbound =>
      cases hread
      constructor
      · rw [ByteArray.size_extract]
        omega
      · unfold remaining
        rw [ByteArray.extract_append_extract, Nat.min_eq_left (Nat.le_add_right _ _),
          Nat.max_eq_right hbound]
  · cases hread

/-- Two bytes are the word that they spell. -/
theorem word16_toNat {piece : ByteArray} (hsize : piece.size = 2) :
    word16 (UInt16.ofNat (Bytes.toNat piece)) = piece := by
  have hlt := Bytes.toNat_lt piece
  rw [hsize] at hlt
  have hvalue : (UInt16.ofNat (Bytes.toNat piece)).toNat = Bytes.toNat piece := by
    rw [UInt16.toNat_ofNat']
    exact Nat.mod_eq_of_lt hlt
  rw [word16, hvalue, ← hsize, Bytes.littleEndian_toNat]

/-- Four bytes are the word that they spell. -/
theorem word32_toNat {piece : ByteArray} (hsize : piece.size = 4) :
    word32 (UInt32.ofNat (Bytes.toNat piece)) = piece := by
  have hlt := Bytes.toNat_lt piece
  rw [hsize] at hlt
  have hvalue : (UInt32.ofNat (Bytes.toNat piece)).toNat = Bytes.toNat piece := by
    rw [UInt32.toNat_ofNat']
    exact Nat.mod_eq_of_lt hlt
  rw [word32, hvalue, ← hsize, Bytes.littleEndian_toNat]

theorem eq_append_of_readWord16
    {word : UInt16} (hread : c.readWord16 = (.ok word, rest)) :
    c.remaining = word16 word ++ rest.remaining := by
  unfold readWord16 at hread
  cases hbytes : c.read 2 with
  | mk result left =>
      rw [hbytes] at hread
      cases result with
      | error cause => cases hread
      | ok piece =>
          cases hread
          obtain ⟨hsize, happend⟩ := eq_append_of_read hbytes
          rw [word16_toNat hsize]
          exact happend

theorem eq_append_of_readWord32
    {word : UInt32} (hread : c.readWord32 = (.ok word, rest)) :
    c.remaining = word32 word ++ rest.remaining := by
  unfold readWord32 at hread
  cases hbytes : c.read 4 with
  | mk result left =>
      rw [hbytes] at hread
      cases result with
      | error cause => cases hread
      | ok piece =>
          cases hread
          obtain ⟨hsize, happend⟩ := eq_append_of_read hbytes
          rw [word32_toNat hsize]
          exact happend

theorem InBounds.read (hin : c.InBounds) (count : Nat) : (c.read count).2.InBounds := by
  unfold Cursor.read
  split
  · next hbound => exact hbound
  · exact hin

theorem InBounds.readWord16 (hin : c.InBounds) : c.readWord16.2.InBounds :=
  hin.read 2

theorem InBounds.readWord32 (hin : c.InBounds) : c.readWord32.2.InBounds :=
  hin.read 4

end Cursor

namespace Header

variable {c rest : Cursor}

theorem inBounds_readQport (hin : c.InBounds) (withQport : Bool) :
    (read.readQport withQport c).2.InBounds := by
  cases withQport with
  | false => exact hin
  | true => exact hin.readWord16

theorem inBounds_readFragment (hin : c.InBounds) (isFragment : Bool) :
    (read.readFragment isFragment c).2.InBounds := by
  cases isFragment with
  | false => exact hin
  | true =>
      have hstart := hin.readWord16
      cases hword : c.readWord16 with
      | mk result left =>
          rw [hword] at hstart
          cases result with
          | error cause =>
              simp only [read.readFragment, hword]
              exact hstart
          | ok start =>
              simp only [read.readFragment, hword]
              exact hstart.readWord16

theorem inBounds_read (hin : c.InBounds) (withQport : Bool) :
    (read withQport c).2.InBounds := by
  have hword := hin.readWord32
  unfold read
  split
  · next heq =>
      rw [heq] at hword
      exact hword
  · next word afterWord heq =>
      rw [heq] at hword
      have hqport := inBounds_readQport hword withQport
      split
      · next heq =>
          rw [heq] at hqport
          exact hqport
      · next qport afterQport heq =>
          rw [heq] at hqport
          have hlast := inBounds_readFragment hqport (word &&& Sequence.fragmentBit != 0)
          split <;> rename_i heq <;> rw [heq] at hlast <;> exact hlast

theorem eq_append_of_readQport
    {withQport : Bool} {qport : Option UInt16}
    (hread : read.readQport withQport c = (.ok qport, rest)) :
    qport.isSome = withQport ∧ c.remaining = qportBytes qport ++ rest.remaining := by
  cases withQport with
  | false =>
      cases hread
      exact ⟨rfl, ByteArray.empty_append.symm⟩
  | true =>
      cases hword : c.readWord16 with
      | mk result left =>
          simp only [read.readQport, hword] at hread
          cases result with
          | error cause => cases hread
          | ok word =>
              cases hread
              exact ⟨rfl, Cursor.eq_append_of_readWord16 hword⟩

theorem eq_append_of_readFragment
    {isFragment : Bool} {fragment : Option Fragment}
    (hread : read.readFragment isFragment c = (.ok fragment, rest)) :
    fragment.isSome = isFragment ∧ c.remaining = fragmentBytes fragment ++ rest.remaining := by
  cases isFragment with
  | false =>
      cases hread
      exact ⟨rfl, ByteArray.empty_append.symm⟩
  | true =>
      cases hstart : c.readWord16 with
      | mk result left =>
          simp only [read.readFragment, hstart] at hread
          cases result with
          | error cause => cases hread
          | ok start =>
              cases hlength : left.readWord16 with
              | mk result last =>
                  simp only [hlength] at hread
                  cases result with
                  | error cause => cases hread
                  | ok length =>
                      cases hread
                      refine ⟨rfl, ?_⟩
                      rw [Cursor.eq_append_of_readWord16 hstart,
                        Cursor.eq_append_of_readWord16 hlength, fragmentBytes,
                        ByteArray.append_assoc]

/-- The leading word is made of the sequence and the kind that are read off it. -/
theorem word_of_parts {h : Header} {word : UInt32}
    (hsequence : h.sequence = word &&& Sequence.mask)
    (hkind : h.fragment.isSome = (word &&& Sequence.fragmentBit != 0)) :
    h.sequence < Sequence.fragmentBit ∧ h.word = word := by
  have hword := word.toNat_lt
  have hlow : h.sequence.toNat = word.toNat % 2147483648 := by
    rw [hsequence, Sequence.toNat_and_mask]
  have hlt : h.sequence < Sequence.fragmentBit := by
    rw [UInt32.lt_iff_toNat_lt, hlow]
    exact Nat.mod_lt _ (by decide)
  refine ⟨hlt, UInt32.toNat_inj.mp ?_⟩
  rw [toNat_word hlt, hlow, hkind, Sequence.and_fragmentBit_ne_zero]
  simp only [decide_eq_true_eq]
  split <;> omega

/-- What was read spells the front of what there was to read. -/
theorem eq_bytes_append_of_read
    {withQport : Bool} {h : Header} (hread : read withQport c = (.ok h, rest)) :
    c.remaining = h.bytes ++ rest.remaining ∧ h.sequence < Sequence.fragmentBit ∧
      h.qport.isSome = withQport := by
  unfold read at hread
  cases hword : c.readWord32 with
  | mk result afterWord =>
      rw [hword] at hread
      cases result with
      | error cause => cases hread
      | ok word =>
          simp only at hread
          cases hqport : read.readQport withQport afterWord with
          | mk result afterQport =>
              rw [hqport] at hread
              cases result with
              | error cause => cases hread
              | ok qport =>
                  simp only at hread
                  cases hfragment : read.readFragment
                      (word &&& Sequence.fragmentBit != 0) afterQport with
                  | mk result last =>
                      rw [hfragment] at hread
                      cases result with
                      | error cause => cases hread
                      | ok fragment =>
                          cases hread
                          obtain ⟨hsome, hqportBytes⟩ := eq_append_of_readQport hqport
                          obtain ⟨hkind, hfragmentBytes⟩ :=
                            eq_append_of_readFragment hfragment
                          obtain ⟨hlt, hparts⟩ := word_of_parts
                            (h := ⟨word &&& Sequence.mask, qport, fragment⟩) rfl hkind
                          refine ⟨?_, hlt, hsome⟩
                          rw [bytes_eq, hparts, Cursor.eq_append_of_readWord32 hword,
                            hqportBytes, hfragmentBytes]
                          simp only [ByteArray.append_assoc]

end Header
end DatagramLink
