import DatagramLink.Channel
import DatagramLink.Journal

/-!
# Receiving over a channel

A datagram is dropped unless it comes from the channel's peer and belongs to a message newer than
the last complete one.  A server's end knows its peer by host and qport: the port may change on the
way, and the channel follows it as soon as a complete message came through.

The fragments of a message are gathered in order.  A fragment that does not continue what was
gathered is dropped, and a datagram of another message takes the place of the partial one.
-/

namespace DatagramLink

/-- What became of a datagram. -/
inductive Verdict where
  /-- It belongs to no channel. -/
  | connectionless
  /-- It was dropped. -/
  | discarded (cause : Discard)
  /-- It is a fragment of a message that is not complete yet. -/
  | gathered
  /-- A message is complete. -/
  | delivered
  deriving DecidableEq, Repr

/-- The outcome of receiving a datagram. -/
structure Receipt where
  verdict : Verdict
  /-- The datagram as far as it was read.  After a delivery, what is left to read is the message. -/
  cursor : Cursor
  records : List Record := []
  deriving DecidableEq

namespace Receipt

def isDelivered (r : Receipt) : Bool := r.verdict == .delivered

/-- The complete message, if there is one. -/
def message? (r : Receipt) : Option ByteArray :=
  if r.isDelivered then some r.cursor.remaining else none

/-- Reports something before the receipt's own records. -/
def after (r : Receipt) (records : List Record) : Receipt :=
  { r with records := records ++ r.records }

end Receipt

namespace Discard

def records (d : Discard) (source : Address) : List Record :=
  match d, d.detail? with
  | .stale sequence accepted, _ =>
    [.info s!"{source}: out of order packet {sequence} at {accepted}",
      .info s!"{source}: dropped packet ({d.reason})"]
  | .missingFragment sequence expected start, _ =>
    [.info (s!"{source}: dropped a message fragment, seq {sequence} " ++
        s!"expected offset {expected} got {start}"),
      .info s!"{source}: dropped packet ({d.reason})"]
  | _, some detail => [.warn s!"{source}: dropped packet ({d.reason}): {detail}"]
  | _, none => [.info s!"{source}: dropped packet ({d.reason})"]

end Discard

namespace Tally

def discard (t : Tally) (cause : Discard) : Tally :=
  { t with discarded := t.discarded + 1, lastDiscard := some cause }

/-- Counts a partial message that was given up. -/
def abandon (t : Tally) : Tally := { t with abandoned := t.abandoned + 1 }

/-- Counts a complete message that skipped `gap` sequences. -/
def deliver (t : Tally) (gap : Nat) : Tally :=
  { t with
    delivered := t.delivered + 1
    dropped := gap
    totalDropped := t.totalDropped + gap }

end Tally

namespace Channel

/-- Records that are kept only where drops are reported. -/
def noting (c : Channel) (records : List Record) : List Record :=
  if c.showDrops then records else []

def discard (c : Channel) (source : Address) (cause : Discard) (cursor : Cursor) :
    Receipt × Channel :=
  (⟨.discarded cause, cursor, c.noting (cause.records source)⟩,
    { c with incoming := { c.incoming with tally := c.incoming.tally.discard cause } })

/-- Whether a datagram can come from the channel's peer. -/
def recognizes (c : Channel) (source : Address) : Bool :=
  source == c.remote || (c.side == .server && source.sameHost c.remote)

/-- Why a datagram with this header is dropped without a look at its payload. -/
def refusal? (c : Channel) (source : Address) (header : Header) : Option Discard :=
  if c.side == .server && header.qport != some c.qport then
    some .wrongQport
  else if !c.recognizes source then
    some .wrongAddress
  else if !Sequence.newer header.sequence c.incoming.sequence then
    some (.stale header.sequence c.incoming.sequence)
  else
    none

/-! ## Complete messages -/

/-- The lines that report a complete message: a changed port always, skipped sequences where drops
are reported. -/
def acceptRecords (c : Channel) (source : Address) (sequence : UInt32) : List Record :=
  (if source == c.remote then
      []
    else
      [.info s!"{c.remote}: fixing up a translated port to {source}"]) ++
    c.noting
      (if Sequence.gap sequence c.incoming.sequence = 0 then
        []
      else
        [.info (s!"{source}: dropped {Sequence.gap sequence c.incoming.sequence} packets " ++
          s!"at {sequence}")])

/-- Takes a message as complete: the channel follows its source and its sequence. -/
def accept (c : Channel) (source : Address) (sequence : UInt32) (cursor : Cursor) :
    Receipt × Channel :=
  (⟨.delivered, cursor, c.acceptRecords source sequence⟩,
    { c with
      remote := source
      incoming :=
        { sequence
          assembly := .idle
          tally := c.incoming.tally.deliver (Sequence.gap sequence c.incoming.sequence) } })

/-- Gives up the partial message, if there is one, in favour of another. -/
def abandon (c : Channel) (sequence : UInt32) : List Record × Channel :=
  match c.incoming.assembly with
  | .idle => ([], c)
  | .gathering partialSequence bytes =>
    (c.noting
      [.info (s!"{c.remote}: abandoned partial message {partialSequence} " ++
        s!"({bytes.size} bytes) for {sequence}")],
      { c with
        incoming :=
          { c.incoming with assembly := .idle, tally := c.incoming.tally.abandon } })

/-- Takes a datagram that is a message of its own. -/
def receiveWhole (c : Channel) (source : Address) (sequence : UInt32) (cursor : Cursor) :
    Receipt × Channel :=
  match c.abandon sequence with
  | (records, c) =>
    match c.accept source sequence cursor with
    | (receipt, c) => (receipt.after records, c)

/-! ## Fragments -/

/-- Makes a message the one that is put together.  Another partial message is given up. -/
def gather (c : Channel) (sequence : UInt32) : List Record × Channel :=
  if c.incoming.assembly.sequence? = some sequence then
    ([], c)
  else
    match c.abandon sequence with
    | (records, c) =>
      (records,
        { c with
          incoming := { c.incoming with assembly := .gathering sequence ByteArray.empty } })

/-- Adds a fragment's payload to the partial message. -/
def extend (c : Channel) (payload : ByteArray) : Channel :=
  { c with incoming := { c.incoming with assembly := c.incoming.assembly.extend payload } }

/-- Takes the message as complete if its last fragment was added. -/
def settle (c : Channel) (source : Address) (sequence : UInt32) (isLast : Bool)
    (cursor : Cursor) : Receipt × Channel :=
  if isLast then
    c.accept source sequence (.ofBytes c.incoming.assembly.bytes)
  else
    (⟨.gathered, cursor, []⟩, c)

/-- Adds a fragment to the message that is being put together, if it continues it. -/
def appendFragment (c : Channel) (source : Address) (sequence : UInt32) (fragment : Fragment)
    (cursor : Cursor) : Receipt × Channel :=
  if fragment.start ≠ UInt16.ofNat c.incoming.assembly.bytes.size then
    c.discard source
      (.missingFragment sequence c.incoming.assembly.bytes.size fragment.start) cursor
  else if maxMessageSize < c.incoming.assembly.bytes.size + fragment.length.toNat then
    c.discard source (.illegalFragment fragment c.incoming.assembly.bytes.size) cursor
  else
    match cursor.read fragment.length.toNat with
    | (.error cause, cursor) => c.discard source (.truncated cause) cursor
    | (.ok payload, cursor) =>
      (c.extend payload).settle source sequence fragment.isLast cursor

/-- Takes a datagram that is a fragment of a message. -/
def receiveFragment (c : Channel) (source : Address) (sequence : UInt32) (fragment : Fragment)
    (cursor : Cursor) : Receipt × Channel :=
  if fragmentSize < fragment.length.toNat ∨ cursor.remaining.size < fragment.length.toNat then
    c.discard source (.illegalFragment fragment c.incoming.assembly.bytes.size) cursor
  else
    match c.gather sequence with
    | (records, c) =>
      match c.appendFragment source sequence fragment cursor with
      | (receipt, c) => (receipt.after records, c)

def receive (c : Channel) (source : Address) (datagram : Cursor) : Receipt × Channel :=
  if isConnectionless datagram.bytes then
    (⟨.connectionless, datagram, []⟩, c)
  else
    match Header.read (c.side == .server) datagram.rewind with
    | (.error cause, cursor) => c.discard source (.truncated cause) cursor
    | (.ok header, cursor) =>
      match c.refusal? source header with
      | some cause => c.discard source cause cursor
      | none =>
        match header.fragment with
        | none => c.receiveWhole source header.sequence cursor
        | some fragment => c.receiveFragment source header.sequence fragment cursor

end Channel
end DatagramLink
