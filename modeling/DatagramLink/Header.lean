import DatagramLink.Cursor
import DatagramLink.Fault
import DatagramLink.Sequence

/-!
# Datagram headers

Every datagram of a channel starts with little-endian fields:

| offset | size | field                                                  |
|--------|------|--------------------------------------------------------|
| 0      | 4    | sequence; bit 31 is set on a fragment                  |
| 4      | 2    | qport, the client's identifier (client to server only) |
| then   | 2    | fragment start, low 16 bits (fragments only)           |
| then   | 2    | fragment length (fragments only)                       |

The rest is payload.  A datagram whose leading word is all ones is connectionless: it belongs to no
channel and has no header.
-/

namespace DatagramLink

def maxDatagramSize : Nat := 1400

/-- Size of a header with every field. -/
def maxHeaderSize : Nat := 10

/-- Payload of every fragment but the last one of its message. -/
def fragmentSize : Nat := 1300

/-- Largest message that travels in one datagram without fragment fields. -/
def maxUnfragmentedSize : Nat := maxDatagramSize - maxHeaderSize

/-- Largest message that a channel puts together. -/
def maxMessageSize : Nat := 8 * 1024 * 1024

/-- Which part of its message a fragment carries. -/
structure Fragment where
  /-- Offset in the message, low 16 bits. -/
  start : UInt16
  /-- Number of payload bytes. -/
  length : UInt16
  deriving DecidableEq, Repr

/-- A fragment that is not full ends its message. -/
def Fragment.isLast (f : Fragment) : Bool := f.length.toNat < fragmentSize

/-- The fields in front of a datagram's payload. -/
structure Header where
  /-- Sequence number of the message, without the fragment bit. -/
  sequence : UInt32
  /-- The client's identifier; servers do not write one. -/
  qport : Option UInt16
  /-- Present on the pieces of a split message. -/
  fragment : Option Fragment
  deriving DecidableEq, Repr

namespace Header

/-- The leading word: the sequence, with the fragment bit on a fragment. -/
def word (h : Header) : UInt32 :=
  match h.fragment with
  | none => h.sequence &&& Sequence.mask
  | some _ => (h.sequence &&& Sequence.mask) ||| Sequence.fragmentBit

/-- Number of bytes that the header takes. -/
def encodedSize (h : Header) : Nat :=
  4 + (if h.qport.isSome then 2 else 0) + (if h.fragment.isSome then 4 else 0)

def writeTo (h : Header) (c : Cursor) : Cursor :=
  let c := c.writeWord32 h.word
  let c := match h.qport with
    | none => c
    | some qport => c.writeWord16 qport
  match h.fragment with
  | none => c
  | some fragment => (c.writeWord16 fragment.start).writeWord16 fragment.length

/-- The header's bytes.  A sequence that uses bit 31 is refused, since that bit is the fragment
bit. -/
def encode (h : Header) : Except Fault ByteArray :=
  if h.sequence < Sequence.fragmentBit then
    .ok (h.writeTo .empty).bytes
  else
    .error .sequenceOutOfRange

/-- Reads a header and leaves the cursor at the payload; `withQport` tells whether a client sent
it.  When the bytes run out, the fields before the missing one stay consumed. -/
def read (withQport : Bool) (c : Cursor) : Except Truncated Header × Cursor :=
  match c.readWord32 with
  | (.error e, c) => (.error e, c)
  | (.ok word, c) =>
    match readQport withQport c with
    | (.error e, c) => (.error e, c)
    | (.ok qport, c) =>
      match readFragment (word &&& Sequence.fragmentBit != 0) c with
      | (.error e, c) => (.error e, c)
      | (.ok fragment, c) => (.ok ⟨word &&& Sequence.mask, qport, fragment⟩, c)
where
  /-- The qport, where one is expected. -/
  readQport : Bool → Cursor → Except Truncated (Option UInt16) × Cursor
    | false, c => (.ok none, c)
    | true, c =>
      let (result, c) := c.readWord16
      (result.map some, c)
  /-- The fragment fields, where the leading word announces them. -/
  readFragment : Bool → Cursor → Except Truncated (Option Fragment) × Cursor
    | false, c => (.ok none, c)
    | true, c =>
      match c.readWord16 with
      | (.error e, c) => (.error e, c)
      | (.ok start, c) =>
        let (result, c) := c.readWord16
        (result.map fun length => some ⟨start, length⟩, c)

end Header

/-! ## Connectionless datagrams -/

def connectionlessMarker : ByteArray := Bytes.littleEndian 4 0xFFFFFFFF

/-- Whether a datagram belongs to no channel. -/
def isConnectionless (datagram : ByteArray) : Bool :=
  4 ≤ datagram.size && datagram.extract 0 4 == connectionlessMarker

/-- The qport of a client's datagram, read in place: a server picks the channel by it. -/
def peekQport (datagram : ByteArray) : Option UInt16 :=
  if datagram.size < 6 || isConnectionless datagram then
    none
  else
    some (UInt16.ofNat (Bytes.toNat (datagram.extract 4 6)))

def connectionless (payload : ByteArray) : ByteArray :=
  connectionlessMarker ++ payload

/-- What follows the marker of a connectionless datagram. -/
def connectionlessPayload (datagram : ByteArray) : Option ByteArray :=
  if isConnectionless datagram then some (datagram.extract 4 datagram.size) else none

end DatagramLink
