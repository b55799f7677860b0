import DatagramLink.Channel.Receiving
import DatagramLink.Channel.Sending

/-!
# Channels on a hub

Sending and receiving carried out through a hub: dispatches are sent, what waits for the channel's
side is received, and the journal gets the lines of both in order.

A hub that stops in the middle of sending leaves the channel with the datagram that it stopped at:
its message is taken from the queue, and a message that fits into one datagram has used up its
sequence.
-/

namespace DatagramLink

/-! ## Sending -/

/-- How far sending through a hub came. -/
structure Shipment where
  channel : Channel
  /-- The messages that were not started. -/
  queue : List ByteArray
  hub : Hub
  /-- The number of datagrams sent. -/
  count : Nat

namespace Channel

/-- The channel and its queue with the next datagram made but not sent. -/
def prepared (c : Channel) (queue : List ByteArray) : Channel × List ByteArray :=
  match c.outgoing.unsent, queue with
  | none, message :: rest =>
    (if maxUnfragmentedSize < message.size then
        { c with outgoing := { c.outgoing with unsent := some ⟨message, 0⟩ } }
      else
        c.finishMessage,
      rest)
  | _, queue => (c, queue)

/-- The channel and its queue when a hub stopped after `count` datagrams. -/
def interrupted (c : Channel) (queue : List ByteArray) (count : Nat) :
    Channel × List ByteArray :=
  match c.pump queue count with
  | .ok pumped => pumped.channel.prepared pumped.queue
  | .error _ => (c, queue)

/-- Sends up to `budget` datagrams through a hub: unsent fragments first, then a queue's messages
in order. -/
def ship (c : Channel) (h : Hub) (queue : List ByteArray) (budget : Nat) (now : Instant) :
    Attempt Shipment :=
  match c.pump queue budget with
  | .error fault => .stopped ⟨c, queue, h, 0⟩ fault
  | .ok pumped =>
    match h.dispatchAll pumped.dispatches now with
    | ⟨(count, h), none⟩ => .done ⟨pumped.channel, pumped.queue, h, count⟩
    | ⟨(count, h), some fault⟩ =>
      match c.interrupted queue count with
      | (c, queue) => .stopped ⟨c, queue, h, count⟩ fault

/-- Starts a message and sends up to `budget` of its datagrams through a hub.  It is an error to
start while fragments of the message before it are unsent. -/
def shipMessage (c : Channel) (h : Hub) (message : ByteArray) (budget : Nat) (now : Instant) :
    Attempt Shipment :=
  if c.isBusy then
    .stopped ⟨c, [message], h, 0⟩ .messageUnsent
  else
    c.ship h [message] budget now

/-- Sends a message completely through a hub. -/
def shipAll (c : Channel) (h : Hub) (message : ByteArray) (now : Instant) : Attempt Shipment :=
  c.shipMessage h message (datagramCount message.size) now

end Channel

/-! ## Receiving -/

/-- A datagram and what became of it. -/
structure Received where
  source : Address
  datagram : ByteArray
  receipt : Receipt

namespace Channel

/-- Receives a datagram and reports it to a hub. -/
def receiveOn (c : Channel) (h : Hub) (source : Address) (datagram : ByteArray) :
    Receipt × Channel × Hub :=
  match c.receive source (.ofBytes datagram) with
  | (receipt, c) => (receipt, c, h.report receipt.records)

def receivePolls (c : Channel) (h : Hub) : List Hub.Poll → List Received × Channel × Hub
  | [] => ([], c, h)
  | poll :: rest =>
    match poll.found with
    | none => receivePolls c (h.report poll.records) rest
    | some (source, datagram) =>
      match c.receiveOn (h.report poll.records) source datagram with
      | (receipt, c, h) =>
        match receivePolls c h rest with
        | (received, c, h) => (⟨source, datagram, receipt⟩ :: received, c, h)

/-- Receives everything that waits for the channel's side. -/
def receiveAll (c : Channel) (h : Hub) : List Received × Channel × Hub :=
  match h.drain c.side with
  | (polls, h) => c.receivePolls h polls

end Channel
end DatagramLink
