import Mathlib.Algebra.Group.Nat.Defs
import DatagramLink.Message
import DatagramLink.Proofs.CursorReading

/-!
# Messages as bytes

Reading a written message gives the message back.  Lengths take eight bytes, so this
holds of every payload and text that fits into memory.
-/

namespace DatagramLink
namespace Message

/-! ## Fields -/

section
variable {c : Cursor} {rest : ByteArray}

theorem takeBytes_of_append
    (hin : c.InBounds) {piece : ByteArray} (hrest : c.remaining = piece ++ rest) :
    takeBytes piece.size c = .ok (piece, c.skip piece.size) := by
  rw [takeBytes, Cursor.read_of_append hin hrest]

theorem takeNat_of_append
    (hin : c.InBounds) {width value : Nat} (hvalue : value < Bytes.capacity width)
    (hrest : c.remaining = Bytes.littleEndian width value ++ rest) :
    takeNat width c = .ok (value, c.skip width) := by
  have htake := takeBytes_of_append hin hrest
  rw [Bytes.size_littleEndian] at htake
  rw [takeNat, htake]
  simp only [bind, Except.bind, pure, Except.pure]
  rw [Bytes.toNat_littleEndian, Nat.mod_eq_of_lt hvalue]

theorem takeRun_of_append
    (hin : c.InBounds) {run : ByteArray} (hsize : run.size < 2 ^ 64)
    (hrest : c.remaining = encodeRun run ++ rest) :
    takeRun c = .ok (run, c.skip (8 + run.size)) := by
  rw [encodeRun, ByteArray.append_assoc] at hrest
  have hlength := takeNat_of_append hin hsize hrest
  have hleft := Cursor.remaining_skip_of_append hrest
  have hinLeft := hin.skip hrest
  rw [Bytes.size_littleEndian] at hleft hinLeft
  have hbytes := takeBytes_of_append hinLeft hleft
  rw [Cursor.skip_skip] at hbytes
  rw [takeRun, hlength]
  exact hbytes

theorem takeText_of_append
    (hin : c.InBounds) {text : String} (hsize : text.toUTF8.size < 2 ^ 64)
    (hrest : c.remaining = encodeRun text.toUTF8 ++ rest) :
    takeText c = .ok text := by
  rw [encodeRun, ByteArray.append_assoc] at hrest
  have hlength := takeNat_of_append hin hsize hrest
  have hleft := Cursor.remaining_skip_of_append hrest
  have hinLeft := hin.skip hrest
  rw [Bytes.size_littleEndian] at hleft hinLeft
  rw [takeText, hlength]
  simp only [bind, Except.bind, Cursor.read_of_append hinLeft hleft]
  rw [Text.Utf8.decode_toUTF8]
  rfl

theorem takeSample_of_append
    (make : UInt32 → UInt64 → ByteArray → Message) (hin : c.InBounds) {id : UInt32}
    {timestamp : UInt64} {payload : ByteArray} (hsize : payload.size < 2 ^ 64)
    (hrest : c.remaining = encodeSample id timestamp payload ++ rest) :
    takeSample make c = .ok (make id timestamp payload) := by
  simp only [encodeSample, ByteArray.append_assoc] at hrest
  have hid := takeNat_of_append hin id.toNat_lt hrest
  have hleft := Cursor.remaining_skip_of_append hrest
  have hinLeft := hin.skip hrest
  rw [Bytes.size_littleEndian] at hleft hinLeft
  have htimestamp := takeNat_of_append hinLeft timestamp.toNat_lt hleft
  have hlast := Cursor.remaining_skip_of_append hleft
  have hinLast := hinLeft.skip hleft
  rw [Bytes.size_littleEndian] at hlast hinLast
  have hpayload := takeRun_of_append hinLast hsize hlast
  rw [takeSample, hid]
  simp only [bind, Except.bind, htimestamp, hpayload, pure, Except.pure,
    UInt32.ofNat_toNat, UInt64.ofNat_toNat]

end

/-! ## Messages -/

def run : Message → ByteArray
  | .probe _ _ payload => payload
  | .echo _ _ payload => payload
  | .disconnect reason => reason.toUTF8

/-- Behind its tag a message is read field by field, whatever follows it. -/
theorem decode_tag
    {tag : Nat} (htag : tag < Bytes.capacity 4) (fields rest : ByteArray) :
    ∃ c : Cursor, c.InBounds ∧ c.remaining = fields ++ rest ∧
      decode (Bytes.littleEndian 4 tag ++ fields ++ rest) = takeFields tag c := by
  have hbytes := Cursor.remaining_ofBytes (Bytes.littleEndian 4 tag ++ fields ++ rest)
  rw [ByteArray.append_assoc] at hbytes ⊢
  have hin := Cursor.inBounds_ofBytes (Bytes.littleEndian 4 tag ++ (fields ++ rest))
  have hread := takeNat_of_append hin htag hbytes
  have hleft := Cursor.remaining_skip_of_append hbytes
  have hinLeft := hin.skip hbytes
  rw [Bytes.size_littleEndian] at hleft hinLeft
  refine ⟨_, hinLeft, hleft, ?_⟩
  rw [decode, hread]
  rfl

/-- Reading undoes writing and ignores what follows. -/
theorem decode_encode_append (m : Message) (hsize : m.run.size < 2 ^ 64) (rest : ByteArray) :
    decode (m.encode ++ rest) = .ok m := by
  cases m with
  | probe id timestamp payload =>
      obtain ⟨c, hin, hrest, hdecode⟩ := decode_tag (show 0 < Bytes.capacity 4 by decide)
        (encodeSample id timestamp payload) rest
      rw [encode, hdecode]
      exact takeSample_of_append .probe hin hsize hrest
  | echo id timestamp payload =>
      obtain ⟨c, hin, hrest, hdecode⟩ := decode_tag (show 1 < Bytes.capacity 4 by decide)
        (encodeSample id timestamp payload) rest
      rw [encode, hdecode]
      exact takeSample_of_append .echo hin hsize hrest
  | disconnect reason =>
      obtain ⟨c, hin, hrest, hdecode⟩ := decode_tag (show 2 < Bytes.capacity 4 by decide)
        (encodeRun reason.toUTF8) rest
      rw [encode, hdecode, takeFields, takeText_of_append hin hsize hrest]
      rfl

theorem decode_encode (m : Message) (hsize : m.run.size < 2 ^ 64) :
    decode m.encode = .ok m := by
  have hread := decode_encode_append m hsize ByteArray.empty
  rwa [ByteArray.append_empty] at hread

theorem size_encodeSample (id : UInt32) (timestamp : UInt64) (payload : ByteArray) :
    (encodeSample id timestamp payload).size = 20 + payload.size := by
  simp only [encodeSample, encodeRun, ByteArray.size_append, Bytes.size_littleEndian]
  omega

theorem size_encode_probe (id : UInt32) (timestamp : UInt64) (payload : ByteArray) :
    (encode (.probe id timestamp payload)).size = 24 + payload.size := by
  rw [encode, ByteArray.size_append, Bytes.size_littleEndian, size_encodeSample]
  omega

theorem size_encode_echo (id : UInt32) (timestamp : UInt64) (payload : ByteArray) :
    (encode (.echo id timestamp payload)).size = 24 + payload.size := by
  rw [encode, ByteArray.size_append, Bytes.size_littleEndian, size_encodeSample]
  omega

end Message

@[simp] theorem size_probePayload (id : UInt32) (size : Nat) :
    (probePayload id size).size = size :=
  Bytes.size_generate size _

end DatagramLink
