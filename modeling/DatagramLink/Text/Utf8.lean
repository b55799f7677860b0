/-!
# Reading text from bytes

UTF-8 as a machine that takes one byte at a time and refuses at the first byte that no character
can contain there.  `firstFault` reports where a byte string stops being text, and `lossy` reads
any byte string as text: every longest run of bytes that starts like a character but is none
becomes one replacement character.
-/

namespace DatagramLink
namespace Text
namespace Utf8

/-- Where bytes stop being UTF-8. -/
structure Fault where
  /-- Number of bytes in front of the fault; they are text. -/
  index : Nat
  /-- Length of the refused run, or nothing when the bytes end inside a character. -/
  length : Option Nat
  deriving DecidableEq, Repr

def Fault.message (f : Fault) : String :=
  match f.length with
  | some length => s!"invalid utf-8 sequence of {length} bytes from index {f.index}"
  | none => s!"incomplete utf-8 byte sequence from index {f.index}"

/-- How a character goes on after its first byte: the number of bytes still owed, and the least and
the greatest value of the next one. -/
structure Owed where
  count : Nat
  low : UInt8
  high : UInt8
  deriving DecidableEq, Repr

/-- What a first byte announces; nothing when no character starts with it. -/
def Owed.after (byte : UInt8) : Option Owed :=
  if byte < 0x80 then some ⟨0, 0x80, 0xBF⟩
  else if byte < 0xC2 then none
  else if byte < 0xE0 then some ⟨1, 0x80, 0xBF⟩
  else if byte = 0xE0 then some ⟨2, 0xA0, 0xBF⟩
  else if byte = 0xED then some ⟨2, 0x80, 0x9F⟩
  else if byte < 0xF0 then some ⟨2, 0x80, 0xBF⟩
  else if byte = 0xF0 then some ⟨3, 0x90, 0xBF⟩
  else if byte < 0xF4 then some ⟨3, 0x80, 0xBF⟩
  else if byte = 0xF4 then some ⟨3, 0x80, 0x8F⟩
  else none

/-- The first fault in `bytes`, given the index at which the current character starts, how many of
its bytes were taken and what is owed. -/
def faultFrom (start taken : Nat) (owed : Owed) : List UInt8 → Option Fault
  | [] => if owed.count = 0 then none else some ⟨start, none⟩
  | byte :: rest =>
    if owed.count = 0 then
      match Owed.after byte with
      | none => some ⟨start + taken, some 1⟩
      | some next => faultFrom (start + taken) 1 next rest
    else if owed.low ≤ byte && byte ≤ owed.high then
      faultFrom start (taken + 1) ⟨owed.count - 1, 0x80, 0xBF⟩ rest
    else
      some ⟨start, some taken⟩

/-- Where the bytes stop being UTF-8, if they do. -/
def firstFault (bytes : List UInt8) : Option Fault :=
  faultFrom 0 0 ⟨0, 0x80, 0xBF⟩ bytes

/-- The mark that stands for bytes that are no text. -/
def replacement : String := "\uFFFD"

/-- Reads bytes as text behind what was read before, with a replacement mark for every refused
run. -/
def lossyFrom (done : String) : List UInt8 → String
  | [] => done
  | byte :: rest =>
    let bytes := byte :: rest
    match firstFault bytes with
    | none => done ++ (String.fromUTF8? bytes.toByteArray).getD ""
    | some ⟨index, length⟩ =>
      let done := done ++ (String.fromUTF8? (bytes.take index).toByteArray).getD "" ++ replacement
      match length with
      | none => done
      | some length => lossyFrom done (rest.drop (index + length - 1))
termination_by bytes => bytes.length
decreasing_by exact Nat.lt_succ_of_le (List.drop_sublist _ _).length_le

/-- Bytes as text: unchanged where they are UTF-8, with replacement marks where they are not. -/
def lossy (bytes : ByteArray) : String :=
  match String.fromUTF8? bytes with
  | some text => text
  | none => lossyFrom "" bytes.data.toList

/-- Reads bytes that have to be text. -/
def decode (bytes : ByteArray) : Except Fault String :=
  match String.fromUTF8? bytes with
  | some text => .ok text
  | none => .error ((firstFault bytes.data.toList).getD ⟨0, none⟩)

theorem fromUTF8?_toUTF8 (text : String) : String.fromUTF8? text.toUTF8 = some text := by
  have h : text.toUTF8.IsValidUTF8 := text.isValidUTF8
  rw [String.fromUTF8?, dif_pos h]
  rfl

@[simp] theorem lossy_toUTF8 (text : String) : lossy text.toUTF8 = text := by
  rw [lossy, fromUTF8?_toUTF8]

@[simp] theorem decode_toUTF8 (text : String) : decode text.toUTF8 = .ok text := by
  rw [decode, fromUTF8?_toUTF8]

/-- Text that was read is spelled by the bytes that it was read from. -/
theorem toUTF8_of_decode {bytes : ByteArray} {text : String}
    (hdecode : decode bytes = .ok text) : text.toUTF8 = bytes := by
  unfold decode String.fromUTF8? at hdecode
  split at hdecode
  · next htext =>
      split at htext
      · cases htext
        cases hdecode
        rfl
      · cases htext
  · cases hdecode

end Utf8
end Text
end DatagramLink
