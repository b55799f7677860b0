import DatagramLink.Proofs.HeaderReading

/-!
# Which datagrams hold a header

Writing and reading a header undo each other.  A header that was written is read back
with the cursor at the payload, and a datagram from which a header is read starts with
the bytes of that header.  Reading fails on short datagrams alone: the leading word
says how long the header is, and a datagram with as many bytes holds one.  On the
datagrams of a channel the qport that is read in place is the one of the header.
-/

namespace DatagramLink

namespace Bytes

theorem exists_append_of_le {count : Nat} {bytes : ByteArray} (hsize : count ≤ bytes.size) :
    ∃ piece rest, piece.size = count ∧ bytes = piece ++ rest := by
  refine ⟨bytes.extract 0 count, bytes.extract count bytes.size, ?_, ?_⟩
  · rw [ByteArray.size_extract]
    omega
  · rw [ByteArray.extract_append_extract, Nat.min_eq_left (Nat.zero_le _),
      Nat.max_eq_right hsize, ByteArray.extract_zero_size]

end Bytes

namespace Cursor

theorem exists_word16_append {bytes : ByteArray} (hsize : 2 ≤ bytes.size) :
    ∃ word rest, bytes = word16 word ++ rest := by
  obtain ⟨piece, rest, hpiece, happend⟩ := Bytes.exists_append_of_le hsize
  exact ⟨_, rest, by rw [word16_toNat hpiece, happend]⟩

theorem exists_word32_append {bytes : ByteArray} (hsize : 4 ≤ bytes.size) :
    ∃ word rest, bytes = word32 word ++ rest := by
  obtain ⟨piece, rest, hpiece, happend⟩ := Bytes.exists_append_of_le hsize
  exact ⟨_, rest, by rw [word32_toNat hpiece, happend]⟩

end Cursor

namespace Header

/-! ## How long a header is -/

/-- The number that the first four bytes spell. -/
def leadingWord (datagram : ByteArray) : Nat :=
  Bytes.toNat (datagram.extract 0 4)

/-- How many bytes a header takes whose first word is the datagram's. -/
def requiredSize (withQport : Bool) (datagram : ByteArray) : Nat :=
  4 + (if withQport then 2 else 0) + (if 2 ^ 31 ≤ leadingWord datagram then 4 else 0)

theorem leadingWord_append (word : UInt32) (rest : ByteArray) :
    leadingWord (Cursor.word32 word ++ rest) = word.toNat := by
  have hfront : (Cursor.word32 word ++ rest).extract 0 4 = Cursor.word32 word :=
    ByteArray.extract_append_eq_left (Cursor.size_word32 word).symm
  rw [leadingWord, hfront, Cursor.toNat_word32]

/-- A written header has the size that its first word announces. -/
theorem requiredSize_bytes_append {h : Header} (hsequence : h.sequence < Sequence.fragmentBit)
    (payload : ByteArray) :
    requiredSize h.qport.isSome (h.bytes ++ payload) = h.encodedSize := by
  have hlt : h.sequence.toNat < 2147483648 := hsequence
  have hkind : 2 ^ 31 ≤ leadingWord (h.bytes ++ payload) ↔ h.fragment.isSome = true := by
    rw [bytes_eq, ByteArray.append_assoc, leadingWord_append, toNat_word hsequence]
    cases h.fragment with
    | none => simpa using hlt
    | some fragment => simp
  simp only [requiredSize, encodedSize, hkind]

/-! ## Every datagram that is long enough holds a header -/

theorem exists_qportBytes_append {withQport : Bool} {bytes : ByteArray}
    (hsize : (if withQport then 2 else 0) ≤ bytes.size) :
    ∃ qport rest, bytes = qportBytes qport ++ rest ∧ qport.isSome = withQport := by
  cases withQport with
  | false => exact ⟨none, bytes, by simp [qportBytes], rfl⟩
  | true =>
      obtain ⟨qport, rest, happend⟩ := Cursor.exists_word16_append (by simpa using hsize)
      exact ⟨some qport, rest, happend, rfl⟩

theorem exists_fragmentBytes_append {isFragment : Bool} {bytes : ByteArray}
    (hsize : (if isFragment then 4 else 0) ≤ bytes.size) :
    ∃ fragment rest, bytes = fragmentBytes fragment ++ rest ∧
      fragment.isSome = isFragment := by
  cases isFragment with
  | false => exact ⟨none, bytes, by simp [fragmentBytes], rfl⟩
  | true =>
      replace hsize : 4 ≤ bytes.size := by simpa using hsize
      have hfirst : 2 ≤ bytes.size := by omega
      obtain ⟨start, behind, hstart⟩ := Cursor.exists_word16_append hfirst
      have hbehind : 2 ≤ behind.size := by
        rw [hstart, ByteArray.size_append, Cursor.size_word16] at hsize
        omega
      obtain ⟨length, rest, hlength⟩ := Cursor.exists_word16_append hbehind
      refine ⟨some ⟨start, length⟩, rest, ?_, rfl⟩
      rw [hstart, hlength, fragmentBytes, ByteArray.append_assoc]

theorem exists_bytes_append {withQport : Bool} {datagram : ByteArray}
    (hsize : requiredSize withQport datagram ≤ datagram.size) :
    ∃ h payload, datagram = bytes h ++ payload ∧ h.sequence < Sequence.fragmentBit ∧
      h.qport.isSome = withQport := by
  unfold requiredSize at hsize
  have hlead : 4 ≤ datagram.size := by omega
  obtain ⟨word, behind, hword⟩ := Cursor.exists_word32_append hlead
  rw [hword, leadingWord_append, ByteArray.size_append, Cursor.size_word32] at hsize
  have hroom : (if withQport then 2 else 0) ≤ behind.size := by omega
  obtain ⟨qport, behindQport, hqport, hstamp⟩ := exists_qportBytes_append hroom
  have hqportSize : (qportBytes qport).size = if withQport then 2 else 0 := by
    rw [← hstamp]
    cases qport <;> simp [qportBytes]
  rw [hqport, ByteArray.size_append, hqportSize] at hsize
  have hplace : (if decide (2 ^ 31 ≤ word.toNat) then 4 else 0) ≤ behindQport.size := by
    simp only [decide_eq_true_eq]
    omega
  obtain ⟨fragment, payload, hfragment, hkind⟩ := exists_fragmentBytes_append hplace
  obtain ⟨hsequence, hparts⟩ := word_of_parts
    (h := ⟨word &&& Sequence.mask, qport, fragment⟩) rfl
    (hkind.trans (Sequence.and_fragmentBit_ne_zero word).symm)
  refine ⟨_, payload, ?_, hsequence, hstamp⟩
  rw [bytes_eq, hparts, hword, hqport, hfragment]
  simp only [ByteArray.append_assoc]

/-! ## Reading is the inverse of writing -/

/-- What can be read of a datagram are the headers that it starts with. -/
theorem read_eq_ok_iff {withQport : Bool} {datagram : ByteArray} {h : Header} {rest : Cursor} :
    read withQport (.ofBytes datagram) = (.ok h, rest) ↔
      h.sequence < Sequence.fragmentBit ∧ h.qport.isSome = withQport ∧
        rest = (Cursor.ofBytes datagram).skip h.encodedSize ∧
        ∃ payload, datagram = h.bytes ++ payload := by
  constructor
  · intro hread
    obtain ⟨happend, hsequence, hstamp⟩ := eq_bytes_append_of_read hread
    rw [Cursor.remaining_ofBytes] at happend
    refine ⟨hsequence, hstamp, ?_, rest.remaining, happend⟩
    have hback := read_bytes_append hsequence rest.remaining
    rw [← happend, hstamp, hread] at hback
    exact congrArg Prod.snd hback
  · rintro ⟨hsequence, rfl, rfl, payload, rfl⟩
    exact read_bytes_append hsequence payload

/-- Reading fails on datagrams that are shorter than their header. -/
theorem read_fails_iff (withQport : Bool) (datagram : ByteArray) :
    (∃ cause, (read withQport (.ofBytes datagram)).1 = .error cause) ↔
      datagram.size < requiredSize withQport datagram := by
  constructor
  · rintro ⟨cause, hcause⟩
    by_contra hlong
    obtain ⟨h, payload, rfl, hsequence, rfl⟩ := exists_bytes_append (Nat.le_of_not_lt hlong)
    rw [read_bytes_append hsequence] at hcause
    cases hcause
  · intro hshort
    cases hread : read withQport (.ofBytes datagram) with
    | mk result rest =>
        cases result with
        | error cause => exact ⟨cause, rfl⟩
        | ok h =>
            obtain ⟨hsequence, rfl, -, payload, rfl⟩ := read_eq_ok_iff.mp hread
            rw [requiredSize_bytes_append hsequence, ByteArray.size_append, size_bytes]
              at hshort
            omega

/-- A channel's datagram is routed by the qport of its header. -/
theorem peekQport_of_read {datagram : ByteArray} {h : Header} {rest : Cursor}
    (hchannel : isConnectionless datagram = false)
    (hread : read true (.ofBytes datagram) = (.ok h, rest)) :
    peekQport datagram = h.qport := by
  obtain ⟨-, hstamp, -, payload, rfl⟩ := read_eq_ok_iff.mp hread
  obtain ⟨qport, hqport⟩ := Option.isSome_iff_exists.mp hstamp
  rw [hqport]
  exact peekQport_bytes_append hchannel hqport

theorem size_lt_of_peekQport_eq_none {datagram : ByteArray}
    (hchannel : isConnectionless datagram = false) (hnone : peekQport datagram = none) :
    datagram.size < 6 := by
  by_contra hlong
  rw [peekQport, hchannel, if_neg (by simpa using hlong)] at hnone
  cases hnone

/-- Headers and the datagrams that hold one correspond: a written header is read back
in front of any payload, what is read was written, reading fails only where the bytes
run out, and a channel's datagram is routed by the qport that is read from it. -/
theorem read_inverts_encode :
    (∀ (h : Header) (payload : ByteArray), h.sequence < Sequence.fragmentBit →
      ∃ written rest, h.encode = .ok written ∧
        read h.qport.isSome (.ofBytes (written ++ payload)) = (.ok h, rest) ∧
        rest.position = h.encodedSize ∧ rest.remaining = payload) ∧
    (∀ (withQport : Bool) (datagram : ByteArray),
      (∀ h rest, read withQport (.ofBytes datagram) = (.ok h, rest) →
        h.encode = .ok (datagram.extract 0 rest.position) ∧ h.qport.isSome = withQport) ∧
      ((∃ cause, (read withQport (.ofBytes datagram)).1 = .error cause) ↔
        datagram.size < 4 ∨ datagram.size < requiredSize withQport datagram)) ∧
    ∀ datagram : ByteArray, isConnectionless datagram = false →
      (∀ h rest, read true (.ofBytes datagram) = (.ok h, rest) →
        peekQport datagram = h.qport) ∧
      (peekQport datagram = none →
        ∃ cause, (read true (.ofBytes datagram)).1 = .error cause) := by
  refine ⟨?written, ?reading, ?routing⟩
  case written =>
    intro h payload hsequence
    refine ⟨h.bytes, _, encode_eq_bytes hsequence, read_bytes_append hsequence payload, ?_,
      remaining_skip_bytes h payload⟩
    exact Nat.zero_add _
  case reading =>
    intro withQport datagram
    constructor
    · intro h rest hread
      obtain ⟨hsequence, hstamp, rfl, payload, rfl⟩ := read_eq_ok_iff.mp hread
      refine ⟨?_, hstamp⟩
      have hposition : ((Cursor.ofBytes (h.bytes ++ payload)).skip h.encodedSize).position =
          h.bytes.size := by
        rw [size_bytes]
        exact Nat.zero_add _
      rw [encode_eq_bytes hsequence, hposition, ByteArray.extract_append_eq_left rfl]
    · rw [read_fails_iff]
      unfold requiredSize
      omega
  case routing =>
    intro datagram hchannel
    refine ⟨fun h rest hread => peekQport_of_read hchannel hread, ?_⟩
    intro hnone
    have hshort := size_lt_of_peekQport_eq_none hchannel hnone
    rw [read_fails_iff]
    unfold requiredSize
    simp only [if_true]
    omega

/-- A fragment of a client with payload, a client's whole message, and a datagram that ends
inside the qport. -/
theorem read_inverts_encode_of_client_datagrams :
    (∃ written rest,
      encode ⟨0x01020304, some 0xBEEF, some ⟨1300, 400⟩⟩ = .ok written ∧
        read true (.ofBytes (written ++ "payload".toUTF8)) =
          (.ok ⟨0x01020304, some 0xBEEF, some ⟨1300, 400⟩⟩, rest) ∧
        rest.position = 10 ∧ rest.remaining = "payload".toUTF8) ∧
    (encode ⟨1, some 0x1234, none⟩ = .ok ⟨#[1, 0, 0, 0, 0x34, 0x12]⟩ ∧
      peekQport ⟨#[1, 0, 0, 0, 0x34, 0x12, 9]⟩ = some 0x1234) ∧
    (peekQport ⟨#[1, 0, 0, 0, 0x34]⟩ = none ∧
      ∃ cause, (read true (.ofBytes ⟨#[1, 0, 0, 0, 0x34]⟩)).1 = .error cause) := by
  have hread : read true (.ofBytes ⟨#[1, 0, 0, 0, 0x34, 0x12, 9]⟩) =
      (.ok ⟨1, some 0x1234, none⟩, ⟨⟨#[1, 0, 0, 0, 0x34, 0x12, 9]⟩, 6⟩) := rfl
  have hnone : peekQport ⟨#[1, 0, 0, 0, 0x34]⟩ = none := by decide
  obtain ⟨hwritten, hreading, hrouting⟩ := read_inverts_encode
  refine ⟨hwritten ⟨0x01020304, some 0xBEEF, some ⟨1300, 400⟩⟩ _ (by decide), ⟨?_, ?_⟩,
    hnone, (hrouting _ (by decide)).2 hnone⟩
  · exact ((hreading true _).1 _ _ hread).1
  · exact (hrouting _ (by decide)).1 _ _ hread

end Header
end DatagramLink
