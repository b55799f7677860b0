import DatagramLink.Channel.Exchange

/-!
# Relays

A message on its way from a channel to its peer over the rings of one hub.  After every datagram
the peer takes what waits for its side, and a datagram may get lost or arrive several times on the
way.
-/

namespace DatagramLink

/-- A message under way between the two ends of a connection. -/
structure Relay where
  sender : Channel
  receiver : Channel
  hub : Hub
  /-- The number of datagrams that came out of the ring. -/
  count : Nat := 0
  /-- The messages that became complete, each with the number of the datagram that completed it. -/
  complete : Array (Nat × ByteArray) := #[]

namespace Relay

def accept (r : Relay) (datagram : ByteArray) : Relay :=
  match r.receiver.receiveOn r.hub .loopback datagram with
  | (receipt, receiver, hub) =>
    { r with
      receiver
      hub
      complete := r.complete ++ (receipt.message?.map fun message => (r.count, message)).toList }

/-- Gives the receiver a datagram out of the ring, as often as `times` says of its number. -/
def deliver (times : Nat → Nat) (r : Relay) (datagram : ByteArray) : Relay :=
  let r := (List.replicate (times r.count) datagram).foldl accept r
  { r with count := r.count + 1 }

/-- Gives the receiver all datagrams that wait in its side's ring. -/
def deliverAll (times : Nat → Nat) (r : Relay) : Relay :=
  match r.hub.takeRing r.receiver.side with
  | (waiting, hub) => waiting.foldl (deliver times) { r with hub }

/-- Sends the next datagram and lets the receiver take it. -/
def step (times : Nat → Nat) (now : Instant) (r : Relay) : Attempt Relay :=
  ((r.sender.ship r.hub [] 1 now).map fun s => { r with sender := s.channel, hub := s.hub }).andThen
    fun r => .done (r.deliverAll times)

/-- Carries a message from a channel to its peer. -/
def run (sender receiver : Channel) (h : Hub) (message : ByteArray) (times : Nat → Nat)
    (now : Instant) : Attempt Relay :=
  ((sender.shipMessage h message 1 now).map fun s =>
      { sender := s.channel, receiver, hub := s.hub : Relay }).andThen
    fun r => .iterate (step times now) (Channel.datagramCount message.size - 1)
      (r.deliverAll times)

end Relay
end DatagramLink
