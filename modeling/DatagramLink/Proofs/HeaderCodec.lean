import DatagramLink.Header
import DatagramLink.Proofs.CursorReading
import DatagramLink.Proofs.SequenceOrder

/-!
# Headers on the wire

Reading a written header gives the header back and leaves the cursor at the
payload.  The leading word keeps the sequence in its low 31 bits and the kind of
datagram in the last one; for a number that is sent it is never the marker of
connectionless datagrams.
-/

namespace DatagramLink
namespace Header

def bytes (h : Header) : ByteArray := (h.writeTo .empty).bytes

def qportBytes : Option UInt16 → ByteArray
  | none => ByteArray.empty
  | some qport => Cursor.word16 qport

def fragmentBytes : Option Fragment → ByteArray
  | none => ByteArray.empty
  | some fragment => Cursor.word16 fragment.start ++ Cursor.word16 fragment.length

theorem bytes_eq (h : Header) :
    h.bytes =
      Cursor.word32 h.word ++ (qportBytes h.qport ++ fragmentBytes h.fragment) := by
  rcases h with ⟨sequence, _ | qport, _ | fragment⟩ <;>
    simp [bytes, writeTo, Cursor.empty, Cursor.ofBytes, Cursor.writeWord16,
      Cursor.writeWord32, Cursor.write, Cursor.word16, Cursor.word32,
      qportBytes, fragmentBytes, ByteArray.append_assoc]

@[simp] theorem size_bytes (h : Header) : h.bytes.size = h.encodedSize := by
  rw [bytes_eq]
  rcases h with ⟨sequence, _ | qport, _ | fragment⟩ <;>
    simp [encodedSize, qportBytes, fragmentBytes]

theorem encode_eq_bytes {h : Header} (hsequence : h.sequence < Sequence.fragmentBit) :
    h.encode = .ok h.bytes := by
  simp [encode, hsequence, bytes]

theorem lt_fragmentBit_of_sendable {s : UInt32} (hs : Sequence.Sendable s) :
    s < Sequence.fragmentBit := by
  have hvalue := (Sequence.sendable_iff_toNat s).mp hs
  rw [UInt32.lt_iff_toNat_lt]
  have hbit : Sequence.fragmentBit.toNat = 2147483648 := rfl
  omega

/-! ## The leading word -/

theorem toNat_word {h : Header} (hsequence : h.sequence < Sequence.fragmentBit) :
    h.word.toNat =
      h.sequence.toNat + (if h.fragment.isSome then 2147483648 else 0) := by
  have hlt : h.sequence.toNat < 2147483648 := hsequence
  have hmask : (h.sequence &&& Sequence.mask).toNat = h.sequence.toNat := by
    rw [Sequence.toNat_and_mask]
    exact Nat.mod_eq_of_lt hlt
  rcases h with ⟨sequence, qport, _ | fragment⟩
  · simpa [word] using hmask
  · have hor := Nat.two_pow_add_eq_or_of_lt (i := 31) hlt 1
    simp only [word, UInt32.toNat_or, hmask, Option.isSome_some, if_true]
    rw [Nat.or_comm]
    change 2147483648 ||| sequence.toNat = _
    rw [Nat.add_comm]
    exact hor.symm

theorem word_and_mask {h : Header} (hsequence : h.sequence < Sequence.fragmentBit) :
    h.word &&& Sequence.mask = h.sequence := by
  have hlt : h.sequence.toNat < 2147483648 := hsequence
  apply UInt32.toNat_inj.mp
  rw [Sequence.toNat_and_mask, toNat_word hsequence]
  split <;> omega

theorem word_and_fragmentBit {h : Header}
    (hsequence : h.sequence < Sequence.fragmentBit) :
    (h.word &&& Sequence.fragmentBit != 0) = h.fragment.isSome := by
  have hlt : h.sequence.toNat < 2147483648 := hsequence
  rw [Sequence.and_fragmentBit_ne_zero, toNat_word hsequence]
  cases h.fragment with
  | none => simpa using hlt
  | some fragment => simp

/-! ## Reading -/

theorem readQport_of_append
    {c : Cursor} (hin : c.InBounds) {qport : Option UInt16} {rest : ByteArray}
    (hrest : c.remaining = qportBytes qport ++ rest) :
    read.readQport qport.isSome c =
      (.ok qport, c.skip (qportBytes qport).size) := by
  cases qport with
  | none => simp [read.readQport, qportBytes, Cursor.skip]
  | some qport =>
      have hread := Cursor.readWord16_of_append hin hrest
      simp [read.readQport, hread, Except.map, qportBytes]

theorem readFragment_of_append
    {c : Cursor} (hin : c.InBounds) {fragment : Option Fragment} {rest : ByteArray}
    (hrest : c.remaining = fragmentBytes fragment ++ rest) :
    read.readFragment fragment.isSome c =
      (.ok fragment, c.skip (fragmentBytes fragment).size) := by
  cases fragment with
  | none => simp [read.readFragment, fragmentBytes, Cursor.skip]
  | some fragment =>
      rw [fragmentBytes, ByteArray.append_assoc] at hrest
      have hstart := Cursor.readWord16_of_append hin hrest
      have hleft := Cursor.remaining_skip_of_append hrest
      have hinLeft := hin.skip hrest
      rw [Cursor.size_word16] at hleft hinLeft
      have hlength := Cursor.readWord16_of_append hinLeft hleft
      simp [read.readFragment, hstart, hlength, Except.map, fragmentBytes]

/-- A written header is read back, and the cursor is left at the payload. -/
theorem read_bytes_append {h : Header} (hsequence : h.sequence < Sequence.fragmentBit)
    (payload : ByteArray) :
    read h.qport.isSome (.ofBytes (h.bytes ++ payload)) =
      (.ok h, (Cursor.ofBytes (h.bytes ++ payload)).skip h.encodedSize) := by
  have hin := Cursor.inBounds_ofBytes (h.bytes ++ payload)
  have hrest : (Cursor.ofBytes (h.bytes ++ payload)).remaining =
      Cursor.word32 h.word ++ (qportBytes h.qport ++
        (fragmentBytes h.fragment ++ payload)) := by
    rw [Cursor.remaining_ofBytes, bytes_eq]
    simp only [ByteArray.append_assoc]
  have hword := Cursor.readWord32_of_append hin hrest
  have hrestQport := Cursor.remaining_skip_of_append hrest
  have hinQport := hin.skip hrest
  rw [Cursor.size_word32] at hrestQport hinQport
  have hqport := readQport_of_append hinQport hrestQport
  have hrestFragment := Cursor.remaining_skip_of_append hrestQport
  have hfragment :=
    readFragment_of_append (hinQport.skip hrestQport) hrestFragment
  have hsize : 4 + (qportBytes h.qport).size + (fragmentBytes h.fragment).size =
      h.encodedSize := by
    rw [← size_bytes, bytes_eq]
    simp [Nat.add_assoc]
  rw [read, hword]
  simp only
  rw [hqport]
  simp only
  rw [word_and_fragmentBit hsequence, hfragment]
  simp only [word_and_mask hsequence, Cursor.skip_skip, hsize]

theorem remaining_skip_bytes (h : Header) (payload : ByteArray) :
    ((Cursor.ofBytes (h.bytes ++ payload)).skip h.encodedSize).remaining =
      payload := by
  rw [← size_bytes]
  exact Cursor.remaining_skip_of_append (Cursor.remaining_ofBytes _)

/-! ## Kinds of datagrams -/

/-- A datagram whose sequence is one that is sent belongs to a channel. -/
theorem isConnectionless_bytes_append
    {h : Header} (hsequence : Sequence.Sendable h.sequence) (payload : ByteArray) :
    isConnectionless (h.bytes ++ payload) = false := by
  have hlt := lt_fragmentBit_of_sendable hsequence
  have hvalue := (Sequence.sendable_iff_toNat h.sequence).mp hsequence
  have hfront : (h.bytes ++ payload).extract 0 4 = Cursor.word32 h.word := by
    rw [bytes_eq, ByteArray.append_assoc]
    exact ByteArray.extract_append_eq_left (Cursor.size_word32 _).symm
  have hne : Cursor.word32 h.word ≠ connectionlessMarker := by
    intro heq
    have hword := congrArg Bytes.toNat heq
    rw [Cursor.toNat_word32, connectionlessMarker, Bytes.toNat_littleEndian,
      toNat_word hlt] at hword
    simp only [Bytes.capacity] at hword
    split at hword <;> omega
  rw [isConnectionless, hfront, beq_eq_false_iff_ne.mpr hne, Bool.and_false]

/-- The qport that a server routes by is the one of the header. -/
theorem peekQport_bytes_append
    {h : Header} {payload : ByteArray}
    (hchannel : isConnectionless (h.bytes ++ payload) = false) {qport : UInt16}
    (hqport : h.qport = some qport) :
    peekQport (h.bytes ++ payload) = some qport := by
  have hbytes : h.bytes ++ payload =
      Cursor.word32 h.word ++ (Cursor.word16 qport ++
        (fragmentBytes h.fragment ++ payload)) := by
    rw [bytes_eq, hqport]
    simp only [qportBytes, ByteArray.append_assoc]
  have hsize : ¬ (h.bytes ++ payload).size < 6 := by
    rw [hbytes]
    simp only [ByteArray.size_append, Cursor.size_word32, Cursor.size_word16]
    omega
  have hfield : (h.bytes ++ payload).extract 4 6 = Cursor.word16 qport := by
    have hword : (Cursor.word32 h.word).extract 4 6 = ByteArray.empty :=
      ByteArray.extract_eq_empty_iff.mpr (by simp)
    have hrest : (Cursor.word16 qport ++ (fragmentBytes h.fragment ++ payload)).extract
        0 2 = Cursor.word16 qport :=
      ByteArray.extract_append_eq_left (Cursor.size_word16 _).symm
    rw [hbytes, ByteArray.extract_append, hword, Cursor.size_word32,
      ByteArray.empty_append, hrest]
  have hguard : ¬ ((h.bytes ++ payload).size < 6 ||
      isConnectionless (h.bytes ++ payload)) = true := by
    rw [hchannel, Bool.or_false, decide_eq_true_eq]
    exact hsize
  rw [peekQport, if_neg hguard, hfield, Cursor.toNat_word16, UInt16.ofNat_toNat]

theorem isConnectionless_connectionless (payload : ByteArray) :
    isConnectionless (connectionless payload) = true := by
  have hsize : connectionlessMarker.size = 4 := Bytes.size_littleEndian 4 _
  have hfront : (connectionlessMarker ++ payload).extract 0 4 =
      connectionlessMarker :=
    ByteArray.extract_append_eq_left hsize.symm
  rw [isConnectionless, connectionless, hfront, ByteArray.size_append, hsize,
    beq_self_eq_true]
  simp

@[simp] theorem connectionlessPayload_connectionless (payload : ByteArray) :
    connectionlessPayload (connectionless payload) = some payload := by
  have hsize : connectionlessMarker.size = 4 := Bytes.size_littleEndian 4 _
  rw [connectionlessPayload, if_pos (isConnectionless_connectionless payload)]
  refine congrArg some ?_
  unfold connectionless
  exact ByteArray.extract_append_eq_right hsize.symm ByteArray.size_append

end Header
end DatagramLink
