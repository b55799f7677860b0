import DatagramLink.Bytes

/-!
# Cursor buffers

A byte string with a read position.  Writes append and leave the position alone; a read hands out
the next bytes and moves past them, or fails and leaves everything as it was.
-/

namespace DatagramLink

/-- A read that asked for more bytes than were left. -/
structure Truncated where
  /-- Position of the failed read. -/
  offset : Nat
  /-- Number of bytes that it asked for. -/
  wanted : Nat
  /-- Size of the whole buffer. -/
  size : Nat
  deriving DecidableEq, Repr

def Truncated.message (t : Truncated) : String :=
  s!"truncated message: wanted {t.wanted} bytes at offset {t.offset}, only {t.size} available"

/-- A byte string and how many of its bytes have been read. -/
structure Cursor where
  bytes : ByteArray
  position : Nat
  deriving DecidableEq

namespace Cursor

def ofBytes (bytes : ByteArray) : Cursor := ⟨bytes, 0⟩

def empty : Cursor := ofBytes ByteArray.empty

def size (c : Cursor) : Nat := c.bytes.size

def isEmpty (c : Cursor) : Bool := c.bytes.size == 0

/-- The bytes that no read has consumed. -/
def remaining (c : Cursor) : ByteArray := c.bytes.extract c.position c.bytes.size

/-- Moves the read position back to the start. -/
def rewind (c : Cursor) : Cursor := { c with position := 0 }

def clear (_ : Cursor) : Cursor := empty

/-- Puts other bytes in place of the contents, unread. -/
def replace (_ : Cursor) (bytes : ByteArray) : Cursor := ofBytes bytes

def write (c : Cursor) (bytes : ByteArray) : Cursor :=
  { c with bytes := c.bytes ++ bytes }

/-- Appends a 16-bit word, least significant byte first. -/
def writeWord16 (c : Cursor) (word : UInt16) : Cursor :=
  c.write (Bytes.littleEndian 2 word.toNat)

/-- Appends a 32-bit word, least significant byte first. -/
def writeWord32 (c : Cursor) (word : UInt32) : Cursor :=
  c.write (Bytes.littleEndian 4 word.toNat)

/-- The next `count` bytes, or the reason why there are too few. -/
def read (c : Cursor) (count : Nat) : Except Truncated ByteArray × Cursor :=
  if c.position + count ≤ c.bytes.size then
    (.ok (c.bytes.extract c.position (c.position + count)),
      { c with position := c.position + count })
  else
    (.error ⟨c.position, count, c.bytes.size⟩, c)

/-- The next two bytes as a word. -/
def readWord16 (c : Cursor) : Except Truncated UInt16 × Cursor :=
  let (result, c) := c.read 2
  (result.map fun bytes => UInt16.ofNat (Bytes.toNat bytes), c)

/-- The next four bytes as a word. -/
def readWord32 (c : Cursor) : Except Truncated UInt32 × Cursor :=
  let (result, c) := c.read 4
  (result.map fun bytes => UInt32.ofNat (Bytes.toNat bytes), c)

end Cursor
end DatagramLink
