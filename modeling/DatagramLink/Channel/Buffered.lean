import DatagramLink.Channel.Receiving
import DatagramLink.Channel.Sending

/-!
# Channels with reused buffers

A channel that keeps one buffer for the message that it sends and one for the message that it puts
together.  A flag says whether fragments are unsent, and the place of the next one is kept whether
there is one or not; whether a message is being put together is known apart from the bytes
gathered so far.

Nothing in the fields ties the flag, the place and the buffers together: each operation clears what
it leaves behind.  `Channel` has one field for each direction instead, in which a message that is
not there takes no space.
-/

namespace DatagramLink

/-- Whether a message is being put together. -/
inductive Reassembly where
  | idle
  | fragments (sequence : UInt32)
  deriving DecidableEq, Repr

/-- One end of a connection, with its buffers. -/
structure BufferedChannel where
  side : Side
  remote : Address
  qport : UInt16
  outgoingSequence : UInt32 := Sequence.first
  incomingSequence : UInt32 := 0
  /-- Whether fragments of the last message are still to be sent. -/
  hasUnsent : Bool := false
  /-- Where the next fragment starts in the buffer. -/
  unsentStart : Nat := 0
  unsentBuffer : ByteArray := ByteArray.empty
  reassembly : Reassembly := .idle
  fragmentBuffer : ByteArray := ByteArray.empty
  showDrops : Bool := false
  tally : Tally := {}
  deriving DecidableEq

namespace BufferedChannel

/-- The channel apart from its flag, its buffers and what they are for. -/
def ends (c : BufferedChannel) : Channel where
  side := c.side
  remote := c.remote
  qport := c.qport
  showDrops := c.showDrops
  outgoing := { sequence := c.outgoingSequence }
  incoming := { sequence := c.incomingSequence, tally := c.tally }

/-! ## Sending -/

/-- Copies a message that has to be split into the buffer. -/
def load (c : BufferedChannel) (message : ByteArray) : BufferedChannel :=
  { c with hasUnsent := true, unsentStart := 0, unsentBuffer := message }

/-- Moves on by a fragment's length.  Behind the last fragment, which is not full, the next message
starts from a clear buffer. -/
def advance (c : BufferedChannel) (length : Nat) : BufferedChannel :=
  if c.unsentStart + length = c.unsentBuffer.size ∧ length ≠ fragmentSize then
    { c with
      outgoingSequence := Sequence.next c.outgoingSequence
      hasUnsent := false
      unsentStart := 0
      unsentBuffer := ByteArray.empty }
  else
    { c with unsentStart := c.unsentStart + length }

/-- The number of payload bytes in the fragment that comes next. -/
def nextLength (c : BufferedChannel) : Nat :=
  min fragmentSize (c.unsentBuffer.size - c.unsentStart)

/-- The fields of the fragment that comes next. -/
def nextFragment (c : BufferedChannel) : Fragment where
  start := UInt16.ofNat c.unsentStart
  length := UInt16.ofNat c.nextLength

/-- The payload of the fragment that comes next. -/
def nextPayload (c : BufferedChannel) : ByteArray :=
  c.unsentBuffer.extract c.unsentStart (c.unsentStart + c.nextLength)

/-- Sends the next fragment, if one is unsent. -/
def transmitNext (c : BufferedChannel) : Except Fault (Option Dispatch × BufferedChannel) :=
  if c.hasUnsent then do
    let header ← (c.ends.header (some c.nextFragment)).encode
    return (some (c.ends.dispatchOf (header ++ c.nextPayload)
        s!"fragment {c.unsentStart}..{c.unsentStart + c.nextLength} of {c.unsentBuffer.size}"),
      c.advance c.nextLength)
  else
    .ok (none, c)

/-- The channel after a message that left as one datagram; it did not pass through the buffer. -/
def finishWhole (c : BufferedChannel) : BufferedChannel :=
  { c with outgoingSequence := Sequence.next c.outgoingSequence }

/-- Starts to send a message: all of it, or its first fragment.  It is an error to start while
fragments of the message before it are unsent. -/
def transmit (c : BufferedChannel) (message : ByteArray) :
    Except Fault (Option Dispatch × BufferedChannel) :=
  if c.hasUnsent then
    .error .messageUnsent
  else if maxUnfragmentedSize < message.size then
    (c.load message).transmitNext
  else do
    let header ← (c.ends.header none).encode
    return (some (c.ends.dispatchOf (header ++ message) s!"size {message.size}"), c.finishWhole)

/-! ## Receiving -/

def discard (c : BufferedChannel) (source : Address) (cause : Discard) (cursor : Cursor) :
    Receipt × BufferedChannel :=
  (⟨.discarded cause, cursor, c.ends.noting (cause.records source)⟩,
    { c with tally := c.tally.discard cause })

/-- Takes a message as complete: the channel follows its source and its sequence. -/
def accept (c : BufferedChannel) (source : Address) (sequence : UInt32) (cursor : Cursor) :
    Receipt × BufferedChannel :=
  (⟨.delivered, cursor, c.ends.acceptRecords source sequence⟩,
    { c with
      remote := source
      incomingSequence := sequence
      tally := c.tally.deliver (Sequence.gap sequence c.incomingSequence) })

/-- Gives up a partial message in favour of another. -/
def abandon (c : BufferedChannel) (partialSequence sequence : UInt32) :
    List Record × BufferedChannel :=
  (c.ends.noting
    [.info (s!"{c.remote}: abandoned partial message {partialSequence} " ++
      s!"({c.fragmentBuffer.size} bytes) for {sequence}")],
    { c with
      tally := c.tally.abandon
      fragmentBuffer := ByteArray.empty
      reassembly := .idle })

/-- Starts to put a message together. -/
def begin (c : BufferedChannel) (sequence : UInt32) : BufferedChannel :=
  { c with fragmentBuffer := ByteArray.empty, reassembly := .fragments sequence }

/-- Takes a datagram that is a message of its own. -/
def receiveWhole (c : BufferedChannel) (source : Address) (sequence : UInt32) (cursor : Cursor) :
    Receipt × BufferedChannel :=
  match c.reassembly with
  | .idle => c.accept source sequence cursor
  | .fragments partialSequence =>
    match c.abandon partialSequence sequence with
    | (records, c) =>
      match c.accept source sequence cursor with
      | (receipt, c) => (receipt.after records, c)

/-- Makes a message the one that is put together.  Another partial message is given up. -/
def gather (c : BufferedChannel) (sequence : UInt32) : List Record × BufferedChannel :=
  match c.reassembly with
  | .idle => ([], c.begin sequence)
  | .fragments current =>
    if current = sequence then
      ([], c)
    else
      match c.abandon current sequence with
      | (records, c) => (records, c.begin sequence)

/-- Adds a fragment's payload to the buffer. -/
def extend (c : BufferedChannel) (payload : ByteArray) : BufferedChannel :=
  { c with fragmentBuffer := c.fragmentBuffer ++ payload }

/-- Takes the buffer out as a complete message if its last fragment was added. -/
def settle (c : BufferedChannel) (source : Address) (sequence : UInt32) (isLast : Bool)
    (cursor : Cursor) : Receipt × BufferedChannel :=
  if isLast then
    { c with fragmentBuffer := ByteArray.empty, reassembly := .idle }.accept source sequence
      (.ofBytes c.fragmentBuffer)
  else
    (⟨.gathered, cursor, []⟩, c)

/-- Adds a fragment to the message that is being put together, if it continues it. -/
def appendFragment (c : BufferedChannel) (source : Address) (sequence : UInt32)
    (fragment : Fragment) (cursor : Cursor) : Receipt × BufferedChannel :=
  if fragment.start ≠ UInt16.ofNat c.fragmentBuffer.size then
    c.discard source (.missingFragment sequence c.fragmentBuffer.size fragment.start) cursor
  else if maxMessageSize < c.fragmentBuffer.size + fragment.length.toNat then
    c.discard source (.illegalFragment fragment c.fragmentBuffer.size) cursor
  else
    match cursor.read fragment.length.toNat with
    | (.error cause, cursor) => c.discard source (.truncated cause) cursor
    | (.ok payload, cursor) =>
      (c.extend payload).settle source sequence fragment.isLast cursor

/-- Takes a datagram that is a fragment of a message. -/
def receiveFragment (c : BufferedChannel) (source : Address) (sequence : UInt32)
    (fragment : Fragment) (cursor : Cursor) : Receipt × BufferedChannel :=
  if fragmentSize < fragment.length.toNat ∨ cursor.remaining.size < fragment.length.toNat then
    c.discard source (.illegalFragment fragment c.fragmentBuffer.size) cursor
  else
    match c.gather sequence with
    | (records, c) =>
      match c.appendFragment source sequence fragment cursor with
      | (receipt, c) => (receipt.after records, c)

def receive (c : BufferedChannel) (source : Address) (datagram : Cursor) :
    Receipt × BufferedChannel :=
  if isConnectionless datagram.bytes then
    (⟨.connectionless, datagram, []⟩, c)
  else
    match Header.read (c.side == .server) datagram.rewind with
    | (.error cause, cursor) => c.discard source (.truncated cause) cursor
    | (.ok header, cursor) =>
      match c.ends.refusal? source header with
      | some cause => c.discard source cause cursor
      | none =>
        match header.fragment with
        | none => c.receiveWhole source header.sequence cursor
        | some fragment => c.receiveFragment source header.sequence fragment cursor

end BufferedChannel
end DatagramLink
