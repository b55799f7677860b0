import DatagramLink.Cursor
import DatagramLink.Text.Decimal
import DatagramLink.Text.Utf8

/-!
# Messages

What client and server say to each other over a channel.  A message is written as a tag of four
bytes and its fields: identifiers take four bytes, times and lengths eight, least significant first,
and every run of bytes follows its length.  Reading ignores what follows a message.
-/

namespace DatagramLink

/-- A message of a channel. -/
inductive Message where
  /-- From a client: send this payload back. -/
  | probe (id : UInt32) (timestamp : UInt64) (payload : ByteArray)
  /-- From a server: the payload of a probe. -/
  | echo (id : UInt32) (timestamp : UInt64) (payload : ByteArray)
  /-- The sender ends the connection. -/
  | disconnect (reason : String)
  deriving DecidableEq

namespace Message

/-! ## Writing -/

/-- A run of bytes behind its length. -/
def encodeRun (bytes : ByteArray) : ByteArray := Bytes.littleEndian 8 bytes.size ++ bytes

/-- A payload behind its identifier and time. -/
def encodeSample (id : UInt32) (timestamp : UInt64) (payload : ByteArray) : ByteArray :=
  Bytes.littleEndian 4 id.toNat ++ (Bytes.littleEndian 8 timestamp.toNat ++ encodeRun payload)

def encode : Message → ByteArray
  | .probe id timestamp payload => Bytes.littleEndian 4 0 ++ encodeSample id timestamp payload
  | .echo id timestamp payload => Bytes.littleEndian 4 1 ++ encodeSample id timestamp payload
  | .disconnect reason => Bytes.littleEndian 4 2 ++ encodeRun reason.toUTF8

/-! ## Reading -/

/-- Why bytes are no message. -/
inductive DecodeError where
  /-- They end inside a number or a payload. -/
  | unexpectedEnd
  /-- They end inside a text. -/
  | textTooLong
  /-- No message has this tag. -/
  | unknownTag (tag : Nat)
  /-- A text is not UTF-8. -/
  | invalidText (fault : Text.Utf8.Fault)
  deriving DecidableEq, Repr

def DecodeError.message : DecodeError → String
  | .unexpectedEnd => "io error: unexpected end of file"
  | .textTooLong => "io error: "
  | .unknownTag tag => s!"invalid value: integer `{tag}`, expected variant index 0 <= i < 3"
  | .invalidText fault => "string is not valid utf8: " ++ fault.message

/-- The next `count` bytes. -/
def takeBytes (count : Nat) (c : Cursor) : Except DecodeError (ByteArray × Cursor) :=
  match c.read count with
  | (.ok bytes, c) => .ok (bytes, c)
  | (.error _, _) => .error .unexpectedEnd

/-- The next `width` bytes as a number. -/
def takeNat (width : Nat) (c : Cursor) : Except DecodeError (Nat × Cursor) := do
  let (bytes, c) ← takeBytes width c
  return (Bytes.toNat bytes, c)

/-- A run of bytes behind its length. -/
def takeRun (c : Cursor) : Except DecodeError (ByteArray × Cursor) := do
  let (size, c) ← takeNat 8 c
  takeBytes size c

/-- A run of bytes that has to be text. -/
def takeText (c : Cursor) : Except DecodeError String := do
  let (size, c) ← takeNat 8 c
  match c.read size with
  | (.error _, _) => .error .textTooLong
  | (.ok bytes, _) => (Text.Utf8.decode bytes).mapError .invalidText

/-- A payload behind its identifier and time. -/
def takeSample (make : UInt32 → UInt64 → ByteArray → Message) (c : Cursor) :
    Except DecodeError Message := do
  let (id, c) ← takeNat 4 c
  let (timestamp, c) ← takeNat 8 c
  let (payload, _) ← takeRun c
  return make (UInt32.ofNat id) (UInt64.ofNat timestamp) payload

def takeFields (tag : Nat) (c : Cursor) : Except DecodeError Message :=
  match tag with
  | 0 => takeSample .probe c
  | 1 => takeSample .echo c
  | 2 => (takeText c).map .disconnect
  | tag => .error (.unknownTag tag)

/-- Reads a message from the front of some bytes. -/
def decode (bytes : ByteArray) : Except DecodeError Message := do
  let (tag, c) ← takeNat 4 (.ofBytes bytes)
  takeFields tag c

end Message

/-! ## Probe payloads -/

/-- No run of bytes in memory is longer. -/
def maxPayloadSize : Nat := Text.maxSigned64

/-- What the payload of a probe is made from. -/
def probeSeed (id : UInt32) : UInt32 := id * 2654435761

/-- The payload of a probe.  It depends on the identifier, so that an echo can be checked without a
copy of what was sent. -/
def probePayload (id : UInt32) (size : Nat) : ByteArray :=
  Bytes.generate size fun index => (((probeSeed id + UInt32.ofNat index) * 31) >>> 3).toUInt8

end DatagramLink
