import DatagramLink.Proofs.HeaderReading
import DatagramLink.Proofs.MessageCodec

/-!
# Which bytes hold a message

A message has one spelling, and no spelling starts another one.  Reading finds a message
at the front of some bytes exactly when they start with the bytes that writing it gives;
what follows is ignored, and bytes that stop inside a message hold none.
-/

namespace DatagramLink
namespace Message

theorem exists_of_bind_eq_ok {α β : Type} {first : Except DecodeError α}
    {next : α → Except DecodeError β} {result : β} (hboth : first >>= next = .ok result) :
    ∃ value, first = .ok value ∧ next value = .ok result := by
  cases first with
  | error cause => cases hboth
  | ok value => exact ⟨value, rfl, hboth⟩

/-! ## What fields were read from -/

section
variable {c d : Cursor}

theorem eq_append_of_takeBytes {count : Nat} {piece : ByteArray}
    (htake : takeBytes count c = .ok (piece, d)) :
    piece.size = count ∧ c.remaining = piece ++ d.remaining := by
  unfold takeBytes at htake
  split at htake
  · next hread =>
      cases htake
      exact Cursor.eq_append_of_read hread
  · cases htake

theorem eq_append_of_takeNat {width value : Nat} (htake : takeNat width c = .ok (value, d)) :
    value < Bytes.capacity width ∧
      c.remaining = Bytes.littleEndian width value ++ d.remaining := by
  obtain ⟨⟨piece, left⟩, hpiece, hvalue⟩ := exists_of_bind_eq_ok htake
  cases hvalue
  obtain ⟨hsize, happend⟩ := eq_append_of_takeBytes hpiece
  have hlt := Bytes.toNat_lt piece
  have hspelled := Bytes.littleEndian_toNat piece
  rw [hsize] at hlt hspelled
  rw [hspelled]
  exact ⟨hlt, happend⟩

theorem eq_append_of_takeRun {run : ByteArray} (htake : takeRun c = .ok (run, d)) :
    run.size < 2 ^ 64 ∧ c.remaining = encodeRun run ++ d.remaining := by
  obtain ⟨⟨size, left⟩, hlength, hrun⟩ := exists_of_bind_eq_ok htake
  obtain ⟨hlt, hfront⟩ := eq_append_of_takeNat hlength
  obtain ⟨rfl, hbehind⟩ := eq_append_of_takeBytes hrun
  rw [hfront, hbehind, encodeRun, ByteArray.append_assoc]
  exact ⟨hlt, rfl⟩

theorem eq_append_of_takeText {text : String} (htake : takeText c = .ok text) :
    text.toUTF8.size < 2 ^ 64 ∧ ∃ rest, c.remaining = encodeRun text.toUTF8 ++ rest := by
  obtain ⟨⟨size, left⟩, hlength, htext⟩ := exists_of_bind_eq_ok htake
  obtain ⟨hlt, hfront⟩ := eq_append_of_takeNat hlength
  cases hread : left.read size with
  | mk result last =>
      cases result with
      | error cause =>
          simp only [hread] at htext
          cases htext
      | ok piece =>
          simp only [hread] at htext
          obtain ⟨rfl, hbehind⟩ := Cursor.eq_append_of_read hread
          cases hdecode : Text.Utf8.decode piece with
          | error fault =>
              rw [hdecode] at htext
              cases htext
          | ok spelled =>
              rw [hdecode] at htext
              cases htext
              rw [Text.Utf8.toUTF8_of_decode hdecode, hfront, hbehind]
              refine ⟨hlt, last.remaining, ?_⟩
              rw [encodeRun, ByteArray.append_assoc]

theorem eq_append_of_takeSample {make : UInt32 → UInt64 → ByteArray → Message} {m : Message}
    (htake : takeSample make c = .ok m) :
    ∃ id timestamp payload, m = make id timestamp payload ∧ payload.size < 2 ^ 64 ∧
      ∃ rest, c.remaining = encodeSample id timestamp payload ++ rest := by
  obtain ⟨⟨id, afterId⟩, hid, htake⟩ := exists_of_bind_eq_ok htake
  obtain ⟨⟨timestamp, afterTime⟩, htime, htake⟩ := exists_of_bind_eq_ok htake
  obtain ⟨⟨payload, last⟩, hpayload, hmake⟩ := exists_of_bind_eq_ok htake
  cases hmake
  obtain ⟨hidLt, hidBytes⟩ := eq_append_of_takeNat hid
  obtain ⟨htimeLt, htimeBytes⟩ := eq_append_of_takeNat htime
  obtain ⟨hpayloadLt, hpayloadBytes⟩ := eq_append_of_takeRun hpayload
  have hidWord : (UInt32.ofNat id).toNat = id := UInt32.toNat_ofNat_of_lt' hidLt
  have htimeWord : (UInt64.ofNat timestamp).toNat = timestamp :=
    UInt64.toNat_ofNat_of_lt' htimeLt
  refine ⟨UInt32.ofNat id, UInt64.ofNat timestamp, payload, rfl, hpayloadLt,
    last.remaining, ?_⟩
  rw [encodeSample, hidWord, htimeWord, hidBytes, htimeBytes, hpayloadBytes]
  simp only [ByteArray.append_assoc]

end

/-! ## What messages were read from -/

theorem eq_append_of_decode {bytes : ByteArray} {m : Message}
    (hdecode : decode bytes = .ok m) :
    m.run.size < 2 ^ 64 ∧ ∃ rest, bytes = m.encode ++ rest := by
  obtain ⟨⟨tag, c⟩, htag, hfields⟩ := exists_of_bind_eq_ok hdecode
  obtain ⟨-, hfront⟩ := eq_append_of_takeNat htag
  rw [Cursor.remaining_ofBytes] at hfront
  change takeFields tag c = .ok m at hfields
  unfold takeFields at hfields
  split at hfields
  · obtain ⟨id, timestamp, payload, rfl, hsize, rest, hbehind⟩ :=
      eq_append_of_takeSample hfields
    refine ⟨hsize, rest, ?_⟩
    rw [hfront, hbehind, encode, ByteArray.append_assoc]
  · obtain ⟨id, timestamp, payload, rfl, hsize, rest, hbehind⟩ :=
      eq_append_of_takeSample hfields
    refine ⟨hsize, rest, ?_⟩
    rw [hfront, hbehind, encode, ByteArray.append_assoc]
  · cases htext : takeText c with
    | error cause =>
        rw [htext] at hfields
        cases hfields
    | ok reason =>
        rw [htext] at hfields
        cases hfields
        obtain ⟨hsize, rest, hbehind⟩ := eq_append_of_takeText htext
        refine ⟨hsize, rest, ?_⟩
        rw [hfront, hbehind, encode, ByteArray.append_assoc]
  · cases hfields

/-- A message is read from the bytes that start with its own. -/
theorem decode_eq_ok_iff {bytes : ByteArray} {m : Message} :
    decode bytes = .ok m ↔ m.run.size < 2 ^ 64 ∧ ∃ rest, bytes = m.encode ++ rest := by
  constructor
  · exact eq_append_of_decode
  · rintro ⟨hsize, rest, rfl⟩
    exact decode_encode_append m hsize rest

/-- Bytes start with at most one message. -/
theorem encode_append_injective {m n : Message} (hm : m.run.size < 2 ^ 64)
    (hn : n.run.size < 2 ^ 64) {after behind : ByteArray}
    (hsame : m.encode ++ after = n.encode ++ behind) :
    m = n ∧ after = behind := by
  have hleft := decode_encode_append m hm after
  rw [hsame, decode_encode_append n hn behind] at hleft
  cases hleft
  exact ⟨rfl, (ByteArray.append_right_inj m.encode).mp hsame⟩

/-- What stops inside a message is none. -/
theorem decode_of_cut {m : Message} (hm : m.run.size < 2 ^ 64) {front missing : ByteArray}
    (hcut : m.encode = front ++ missing) (hmissing : missing ≠ ByteArray.empty) :
    ∃ cause, decode front = .error cause := by
  cases hdecode : decode front with
  | error cause => exact ⟨cause, rfl⟩
  | ok n =>
      obtain ⟨hn, rest, rfl⟩ := decode_eq_ok_iff.mp hdecode
      rw [← ByteArray.append_empty (b := m.encode), ByteArray.append_assoc] at hcut
      obtain ⟨-, hnothing⟩ := encode_append_injective hm hn hcut
      have hsize := congrArg ByteArray.size hnothing
      rw [ByteArray.size_append] at hsize
      refine absurd (ByteArray.size_eq_zero_iff.mp ?_) hmissing
      simp only [ByteArray.size_empty] at hsize
      omega

/-- A message is read back from its own bytes with anything behind them; bytes from which a
message is read start with the ones that it is written as; and no shorter part of a
message's bytes is read at all.  An echo is as long as its probe.  The run of a message is
in memory, so its size fits into the 64 bits that it is written in. -/
theorem canonical_and_prefix_free :
    (∀ (m : Message) (rest : ByteArray), m.run.size < 2 ^ 64 →
      decode (m.encode ++ rest) = .ok m) ∧
    (∀ (bytes : ByteArray) (m : Message), decode bytes = .ok m →
      ∃ rest, bytes = m.encode ++ rest) ∧
    (∀ (m : Message) (front missing : ByteArray), m.run.size < 2 ^ 64 →
      m.encode = front ++ missing → missing ≠ ByteArray.empty →
        ∃ cause, decode front = .error cause) ∧
    ∀ (id : UInt32) (timestamp : UInt64) (payload : ByteArray),
      (encode (.echo id timestamp payload)).size =
        (encode (.probe id timestamp payload)).size := by
  refine ⟨?readBack, ?canonical, ?cut, ?echo⟩
  case readBack =>
    intro m rest hsize
    exact decode_eq_ok_iff.mpr ⟨hsize, rest, rfl⟩
  case canonical =>
    intro bytes m hdecode
    exact (decode_eq_ok_iff.mp hdecode).2
  case cut =>
    intro m front missing hsize hcut hmissing
    exact decode_of_cut hsize hcut hmissing
  case echo =>
    intro id timestamp payload
    rw [size_encode_echo, size_encode_probe]

/-- A probe with bytes behind it, a farewell with a byte behind it, and a farewell that stops
inside its text. -/
theorem canonical_and_prefix_free_of_farewell :
    decode (encode (.probe 7 9 "ping".toUTF8) ++ "tail".toUTF8) =
      .ok (.probe 7 9 "ping".toUTF8) ∧
    (decode ⟨#[2, 0, 0, 0, 2, 0, 0, 0, 0, 0, 0, 0, 111, 107, 255]⟩ =
        .ok (.disconnect "ok") ∧
      ∃ rest, ⟨#[2, 0, 0, 0, 2, 0, 0, 0, 0, 0, 0, 0, 111, 107, 255]⟩ =
        encode (.disconnect "ok") ++ rest) ∧
    (encode (.disconnect "ok") = ⟨#[2, 0, 0, 0, 2, 0, 0, 0, 0, 0, 0, 0, 111]⟩ ++ ⟨#[107]⟩ ∧
      ∃ cause, decode ⟨#[2, 0, 0, 0, 2, 0, 0, 0, 0, 0, 0, 0, 111]⟩ = .error cause) := by
  have hread : decode ⟨#[2, 0, 0, 0, 2, 0, 0, 0, 0, 0, 0, 0, 111, 107, 255]⟩ =
      .ok (.disconnect "ok") := rfl
  have hcut : encode (.disconnect "ok") =
      ⟨#[2, 0, 0, 0, 2, 0, 0, 0, 0, 0, 0, 0, 111]⟩ ++ ⟨#[107]⟩ := by decide
  obtain ⟨hback, hcanonical, hshort, -⟩ := canonical_and_prefix_free
  exact ⟨hback _ _ (by decide), ⟨hread, hcanonical _ _ hread⟩, hcut,
    hshort (.disconnect "ok") _ _ (by decide) hcut (by decide)⟩

end Message
end DatagramLink
