import DatagramLink.Channel.Exchange

/-!
# Rosters

The clients of a server.  Each has an identifier that is never given out again, a channel, and a
queue of messages that wait for the channel.  A datagram belongs to the client with its host and
qport, so a client whose port changes on the way is still known.
-/

namespace DatagramLink

/-- Most messages that may wait for a client's channel. -/
def maxQueuedMessages : Nat := 64

/-- Most bytes that may wait for a client's channel. -/
def maxQueuedBytes : Nat := 2 * maxMessageSize

/-! ## Waiting messages -/

namespace MessageQueue

/-- The number of bytes in a queue. -/
def totalSize (queue : List ByteArray) : Nat :=
  queue.foldr (fun message total => message.size + total) 0

/-- Whether a queue has to give up its oldest message: it has more than one and breaks a limit. -/
def Overfull (queue : List ByteArray) : Prop :=
  1 < queue.length ∧ (maxQueuedMessages < queue.length ∨ maxQueuedBytes < totalSize queue)

instance (queue : List ByteArray) : Decidable (Overfull queue) :=
  inferInstanceAs (Decidable (_ ∧ _))

/-- Drops the oldest messages while the queue is overfull: what was dropped and what is left. -/
def trim : List ByteArray → List ByteArray × List ByteArray
  | [] => ([], [])
  | oldest :: rest =>
    if Overfull (oldest :: rest) then
      (oldest :: (trim rest).1, (trim rest).2)
    else
      ([], oldest :: rest)

end MessageQueue

/-! ## Peers -/

/-- A connected client, as its server sees it. -/
structure Peer where
  id : Nat
  channel : Channel
  /-- When its last complete message arrived, or when it connected. -/
  lastSeen : Instant
  /-- Messages that wait for the channel. -/
  queue : List ByteArray := []

namespace Peer

def queuedBytes (p : Peer) : Nat := MessageQueue.totalSize p.queue

/-- Whether anything is still to be sent. -/
def hasPending (p : Peer) : Bool := p.channel.isBusy || !p.queue.isEmpty

/-- Whether a datagram with this source and qport belongs to the client. -/
def owns (p : Peer) (source : Address) (qport : UInt16) : Bool :=
  p.channel.qport == qport && p.channel.remote.sameHost source

/-- Gives a datagram to the client's channel.  A complete message is a sign of life. -/
def receive (p : Peer) (source : Address) (datagram : ByteArray) (now : Instant) :
    Receipt × Peer :=
  match p.channel.receive source (.ofBytes datagram) with
  | (receipt, channel) =>
    if receipt.isDelivered then
      (receipt, { p with channel, lastSeen := now })
    else
      (receipt, { p with channel })

/-- Whether the client was silent for longer than `timeout` nanoseconds. -/
def isTimedOut (p : Peer) (timeout : Nat) (now : Instant) : Bool := timeout < now - p.lastSeen

/-- Whether the client was silent for too long when the clock was read for it.  `checked` has the
readings for all identifiers. -/
def isOverdue (p : Peer) (timeout : Nat) (checked : Nat → Instant) : Bool :=
  p.isTimedOut timeout (checked p.id)

/-- Queues a message at the cost of the oldest ones. -/
def enqueue (p : Peer) (message : ByteArray) : List Record × Peer :=
  match MessageQueue.trim (p.queue ++ [message]) with
  | (dropped, queue) =>
    (dropped.map fun message =>
        .warn s!"Client {p.id}: outgoing queue full, dropped a {message.size} byte message",
      { p with queue })

/-- Sends up to `budget` datagrams through a hub: unsent fragments first, then waiting messages in
order. -/
def pump (p : Peer) (h : Hub) (budget : Nat) (now : Instant) : Attempt (Peer × Hub) :=
  (p.channel.ship h p.queue budget now).map fun s =>
    ({ p with channel := s.channel, queue := s.queue }, s.hub)

end Peer

/-! ## The table -/

/-- The clients of a server. -/
structure Roster where
  /-- Most clients at a time. -/
  capacity : Nat
  /-- The clients in the order in which they are gone through, which may be any. -/
  peers : List Peer := []
  /-- The identifier of the next client. -/
  nextId : Nat := 1

namespace Roster

def length (r : Roster) : Nat := r.peers.length

def isEmpty (r : Roster) : Bool := r.peers.isEmpty

def get? (r : Roster) (id : Nat) : Option Peer := r.peers.find? (·.id == id)

/-- The client that a datagram with this source and qport belongs to. -/
def find? (r : Roster) (source : Address) (qport : UInt16) : Option Peer :=
  r.peers.find? (·.owns source qport)

/-- A client at exactly this address: the one that is met first, where there are several. -/
def findAt? (r : Roster) (source : Address) : Option Peer :=
  r.peers.find? fun p => p.channel.remote == source

/-- Takes a step with the first peer of a list that passes a test. -/
def modifyFirst {α : Type} (test : Peer → Bool) (step : Peer → α × Peer) :
    List Peer → Option α × List Peer
  | [] => (none, [])
  | peer :: rest =>
    if test peer then
      match step peer with
      | (result, peer) => (some result, peer :: rest)
    else
      match modifyFirst test step rest with
      | (result, rest) => (result, peer :: rest)

/-- Takes a step with the first client that passes a test. -/
def modify {α : Type} (r : Roster) (test : Peer → Bool) (step : Peer → α × Peer) :
    Option α × Roster :=
  match modifyFirst test step r.peers with
  | (result, peers) => (result, { r with peers })

/-- A server's end of a new connection. -/
def newChannel (remote : Address) (qport : UInt16) (showDrops : Bool) : Channel :=
  { side := .server, remote, qport, showDrops }

/-- Adds a client, if there is room: its identifier and the line that reports it. -/
def add (r : Roster) (remote : Address) (qport : UInt16) (showDrops : Bool) (now : Instant) :
    Option (Nat × Record) × Roster :=
  if r.capacity ≤ r.length then
    (none, r)
  else
    (some (r.nextId, .info s!"Client {r.nextId} connected from {remote} (qport {qport})"),
      { r with
        peers := r.peers ++
          [{ id := r.nextId, channel := newChannel remote qport showDrops, lastSeen := now }]
        nextId := r.nextId + 1 })

/-- The line that reports a client's removal. -/
def removalRecord (id : Nat) : Record := .info s!"Client {id} disconnected"

/-- Removes a client; an identifier that is not in the table changes nothing. -/
def remove (r : Roster) (id : Nat) : List Record × Roster :=
  (if (r.get? id).isSome then [removalRecord id] else [],
    { r with peers := r.peers.filter (·.id != id) })

/-- The clients that were silent for longer than `timeout` nanoseconds.  The clock is read again for
each of them. -/
def timedOut (r : Roster) (timeout : Nat) (checked : Nat → Instant) : List Nat :=
  (r.peers.filter (·.isOverdue timeout checked)).map (·.id)

/-- Removes the clients that were silent for too long. -/
def removeTimedOut (r : Roster) (timeout : Nat) (checked : Nat → Instant) :
    List Record × Roster :=
  ((r.timedOut timeout checked).map removalRecord,
    { r with peers := r.peers.filter (!·.isOverdue timeout checked) })

/-- Lets every client of a list send its share. -/
def pumpPeers (budget : Nat) (now : Instant) :
    List Peer → Hub → Attempt (List Peer × Hub)
  | [], h => .done ([], h)
  | peer :: rest, h =>
    match peer.pump h budget now with
    | ⟨(peer, h), some fault⟩ => .stopped (peer :: rest, h) fault
    | ⟨(peer, h), none⟩ => (pumpPeers budget now rest h).map fun (rest, h) => (peer :: rest, h)

/-- Lets every client send up to `budget` datagrams, all at one time. -/
def pump (r : Roster) (h : Hub) (budget : Nat) (now : Instant) : Attempt (Roster × Hub) :=
  (pumpPeers budget now r.peers h).map fun (peers, h) => ({ r with peers }, h)

/-- Lets one client send up to `budget` datagrams; an unknown one sends none. -/
def pumpOne (r : Roster) (h : Hub) (id budget : Nat) (now : Instant) : Attempt (Roster × Hub) :=
  match r.get? id with
  | none => .done (r, h)
  | some peer =>
    (peer.pump h budget now).map fun (peer, h) =>
      ((r.modify (·.id == id) fun _ => ((), peer)).2, h)

end Roster
end DatagramLink
