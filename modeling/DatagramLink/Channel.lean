import DatagramLink.Address.Text
import DatagramLink.Header

/-!
# Channels

A channel is one end of a connection.  It numbers the messages that it sends, splits those that do
not fit into one datagram, and puts the other end's fragments together again.  Nothing is sent
twice: a message that lacks a fragment is given up as soon as another one arrives.

The two directions share only the peer's address.  `Outgoing` is what sending works on and
`Incoming` what receiving works on.
-/

namespace DatagramLink

/-! ## Dropped datagrams -/

/-- Why a channel drops a datagram. -/
inductive Discard where
  /-- Its sequence is not newer than the last accepted one. -/
  | stale (sequence accepted : UInt32)
  /-- It does not come from the channel's peer. -/
  | wrongAddress
  /-- It carries another client's qport. -/
  | wrongQport
  /-- It does not continue the message that is being put together. -/
  | missingFragment (sequence : UInt32) (expected : Nat) (start : UInt16)
  /-- It ends inside a field. -/
  | truncated (cause : Truncated)
  /-- Its fragment fields cannot be right. -/
  | illegalFragment (fragment : Fragment) (assembled : Nat)
  deriving DecidableEq, Repr

namespace Discard

def reason : Discard → String
  | .stale _ _ => "out of order or duplicated"
  | .wrongAddress => "unexpected source address"
  | .wrongQport => "qport mismatch"
  | .missingFragment _ _ _ => "missing fragment"
  | .truncated _ | .illegalFragment _ _ => "malformed header"

/-- What was wrong with a malformed datagram. -/
def detail? : Discard → Option String
  | .truncated cause => some cause.message
  | .illegalFragment fragment assembled =>
    some (s!"illegal fragment: start {fragment.start}, length {fragment.length}, " ++
      s!"assembled {assembled}")
  | _ => none

end Discard

/-! ## State -/

/-- What a channel has accepted and dropped so far. -/
structure Tally where
  /-- Complete messages. -/
  delivered : Nat := 0
  /-- Sequences that the last complete message skipped. -/
  dropped : Nat := 0
  /-- Sequences skipped in all. -/
  totalDropped : Nat := 0
  /-- Dropped datagrams. -/
  discarded : Nat := 0
  /-- Partial messages given up for another one. -/
  abandoned : Nat := 0
  /-- Why the last dropped datagram was dropped. -/
  lastDiscard : Option Discard := none
  deriving DecidableEq, Repr

/-- A message that is being put together. -/
inductive Assembly where
  | idle
  /-- The payloads of the fragments so far. -/
  | gathering (sequence : UInt32) (bytes : ByteArray)
  deriving DecidableEq

namespace Assembly

def isIdle : Assembly → Bool
  | .idle => true
  | .gathering _ _ => false

/-- The payloads so far; none when idle. -/
def bytes : Assembly → ByteArray
  | .idle => ByteArray.empty
  | .gathering _ bytes => bytes

/-- The sequence of the message that is being put together. -/
def sequence? : Assembly → Option UInt32
  | .idle => none
  | .gathering sequence _ => some sequence

def extend : Assembly → ByteArray → Assembly
  | .idle, _ => .idle
  | .gathering sequence bytes, payload => .gathering sequence (bytes ++ payload)

end Assembly

/-- A split message and where its next fragment starts. -/
structure Unsent where
  message : ByteArray
  start : Nat
  deriving DecidableEq

/-- The sending direction. -/
structure Outgoing where
  /-- The sequence of the message that is sent now or next. -/
  sequence : UInt32 := Sequence.first
  unsent : Option Unsent := none
  deriving DecidableEq

/-- The receiving direction. -/
structure Incoming where
  /-- The sequence of the last complete message; zero before the first one. -/
  sequence : UInt32 := 0
  assembly : Assembly := .idle
  tally : Tally := {}
  deriving DecidableEq

/-- One end of a connection. -/
structure Channel where
  /-- The side that owns this end. -/
  side : Side
  /-- Where the other end is. -/
  remote : Address
  /-- The client's identifier: written by a client's end and demanded by a server's end. -/
  qport : UInt16
  /-- Whether drops are reported. -/
  showDrops : Bool := false
  outgoing : Outgoing := {}
  incoming : Incoming := {}

namespace Channel

/-- Whether fragments of the last message are still to be sent. -/
def isBusy (c : Channel) : Bool := c.outgoing.unsent.isSome

/-- Whether part of a message has arrived. -/
def isGathering (c : Channel) : Bool := !c.incoming.assembly.isIdle

end Channel
end DatagramLink
