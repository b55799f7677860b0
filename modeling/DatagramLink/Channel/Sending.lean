import DatagramLink.Channel
import DatagramLink.Hub

/-!
# Sending over a channel

A message of at most `maxUnfragmentedSize` bytes leaves as one datagram.  A longer one leaves as
fragments of `fragmentSize` bytes, one a call, which share its sequence; the first fragment that is
not full ends it, so a message that fills its fragments exactly is followed by an empty one.

Sending produces dispatches, and a hub carries them (`Hub.dispatch`).  `pump` sends a queue of
messages within a budget of datagrams.
-/

namespace DatagramLink

/-- A datagram on its way out, and the line that reports it. -/
structure Dispatch where
  side : Side
  target : Address
  bytes : ByteArray
  note : Record
  deriving DecidableEq

namespace Hub

/-- Reports a dispatch and sends its datagram. -/
def dispatch (h : Hub) (d : Dispatch) (now : Instant) : Attempt Hub :=
  (h.report [d.note]).send d.side d.bytes d.target now

/-- Sends dispatches in order; the number of those sent is returned. -/
def dispatchAll (h : Hub) (ds : List Dispatch) (now : Instant) : Attempt (Nat × Hub) :=
  match ds with
  | [] => .done (0, h)
  | d :: rest =>
    match h.dispatch d now with
    | ⟨h, some fault⟩ => .stopped (0, h) fault
    | ⟨h, none⟩ => (h.dispatchAll rest now).map fun (count, h) => (count + 1, h)

end Hub

namespace Unsent

/-- The number of payload bytes in the fragment that comes next. -/
def nextLength (u : Unsent) : Nat := min fragmentSize (u.message.size - u.start)

/-- Where the fragment that comes next ends. -/
def nextStop (u : Unsent) : Nat := u.start + u.nextLength

/-- The fields of the fragment that comes next. -/
def nextFragment (u : Unsent) : Fragment where
  start := UInt16.ofNat u.start
  length := UInt16.ofNat u.nextLength

/-- The payload of the fragment that comes next. -/
def nextPayload (u : Unsent) : ByteArray := u.message.extract u.start u.nextStop

/-- What is unsent after the fragment that comes next: a fragment that is not full is the last. -/
def next? (u : Unsent) : Option Unsent :=
  if u.nextLength < fragmentSize then none else some { u with start := u.nextStop }

end Unsent

namespace Channel

/-- The header of the message that is sent now.  Only clients write their qport. -/
def header (c : Channel) (fragment : Option Fragment) : Header where
  sequence := c.outgoing.sequence
  qport := match c.side with
    | .client => some c.qport
    | .server => none
  fragment := fragment

def dispatchOf (c : Channel) (bytes : ByteArray) (what : String) : Dispatch where
  side := c.side
  target := c.remote
  bytes := bytes
  note := .debug s!"{c.side} send seq {c.outgoing.sequence} {what} to {c.remote}"

/-- The channel after the last datagram of a message. -/
def finishMessage (c : Channel) : Channel :=
  { c with outgoing := ⟨Sequence.next c.outgoing.sequence, none⟩ }

/-- The channel after the fragment that comes next. -/
def advance (c : Channel) (u : Unsent) : Channel :=
  match u.next? with
  | none => c.finishMessage
  | some rest => { c with outgoing := ⟨c.outgoing.sequence, some rest⟩ }

def sendFragment (c : Channel) (u : Unsent) : Except Fault (Dispatch × Channel) := do
  let header ← (c.header (some u.nextFragment)).encode
  return (c.dispatchOf (header ++ u.nextPayload)
      s!"fragment {u.start}..{u.nextStop} of {u.message.size}",
    c.advance u)

/-- Sends a message that fits into one datagram. -/
def sendWhole (c : Channel) (message : ByteArray) : Except Fault (Dispatch × Channel) := do
  let header ← (c.header none).encode
  return (c.dispatchOf (header ++ message) s!"size {message.size}", c.finishMessage)

/-- Starts to send a message: all of it, or its first fragment.  It is an error to start while
fragments of the message before it are unsent. -/
def transmit (c : Channel) (message : ByteArray) : Except Fault (Dispatch × Channel) :=
  if c.isBusy then
    .error .messageUnsent
  else if maxUnfragmentedSize < message.size then
    c.sendFragment ⟨message, 0⟩
  else
    c.sendWhole message

/-- Sends the next fragment, if one is unsent. -/
def transmitNext (c : Channel) : Except Fault (Option Dispatch × Channel) :=
  match c.outgoing.unsent with
  | none => .ok (none, c)
  | some u => (c.sendFragment u).map fun (dispatch, c) => (some dispatch, c)

/-- What remains after sending within a budget. -/
structure Pumped where
  channel : Channel
  /-- The messages that were not started. -/
  queue : List ByteArray
  /-- The datagrams sent, in order. -/
  dispatches : List Dispatch

/-- Sends up to `budget` datagrams: unsent fragments first, then a queue's messages in order. -/
def pump (c : Channel) (queue : List ByteArray) : Nat → Except Fault Pumped
  | 0 => .ok ⟨c, queue, []⟩
  | budget + 1 =>
    match c.outgoing.unsent, queue with
    | some u, queue => do
      let (dispatch, c) ← c.sendFragment u
      let rest ← c.pump queue budget
      return { rest with dispatches := dispatch :: rest.dispatches }
    | none, message :: queue => do
      let (dispatch, c) ← c.transmit message
      let rest ← c.pump queue budget
      return { rest with dispatches := dispatch :: rest.dispatches }
    | none, [] => .ok ⟨c, [], []⟩

/-- The number of datagrams that a message of this size takes. -/
def datagramCount (size : Nat) : Nat :=
  if maxUnfragmentedSize < size then size / fragmentSize + 1 else 1

end Channel
end DatagramLink
