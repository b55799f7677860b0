import DatagramLink.Proofs.Deeds
import DatagramLink.Proofs.ReplyHistory

/-!
# What a machine asks for

Natural numbers grow without end, stop at zero when too much is taken away, and a part of a
byte string is cut off where the string ends.  A machine counts in words, and it stops when a
count does not fit, when more is taken away than is there, and when a part does not lie
within its string.

What follows says of every call what a machine asks for, at each of the steps that the call
takes and in the state in which it takes it.  The calls themselves say where they stop at a
fault, and here it is asked that they do not.
-/

namespace DatagramLink

/-- Counts, lengths and offsets are smaller than this. -/
def wordLimit : Nat := 2 ^ 64

/-- Sequences and identifiers are smaller than this. -/
def halfWordLimit : Nat := 2 ^ 32

theorem lt_wordLimit {n : Nat} (hfew : n < halfWordLimit) : n < wordLimit :=
  hfew.trans (by decide)

/-! ## Rings -/

namespace Ring

/-- A write is counted. -/
def PushFits (r : Ring) : Prop := r.sent + 1 < wordLimit

/-- A read takes its count from that of the writes, and counts what it skips and what it
finds.  Slots are reached by remainders, so they are always there. -/
structure PopFits (r : Ring) : Prop where
  behind : r.taken ≤ r.sent
  counted : r.oldest + 1 < wordLimit

end Ring

/-! ## Hubs -/

namespace Hub

variable (now : Instant)

/-- A datagram is sent: over loopback it is written to the other side's ring. -/
structure SendFits (h : Hub) (side : Side) (bytes : ByteArray) (target : Address) : Prop where
  push : target = .loopback → (h.ringOf side.peer).PushFits
  done : (h.send side bytes target now).fault = none

/-- Dispatches are sent, one after the other. -/
inductive DispatchFits : Hub → List Dispatch → Prop
  | nothing {h : Hub} : DispatchFits h []
  | next {h : Hub} {d : Dispatch} {rest : List Dispatch}
      (hsend : (h.report [d.note]).SendFits now d.side d.bytes d.target)
      (hrest : DispatchFits (h.dispatch d now).reached rest) :
      DispatchFits h (d :: rest)

/-- A poll reads the side's ring.  What the socket gives instead is a part of the receive
buffer. -/
structure PollFits (h : Hub) (side : Side) : Prop where
  pop : (h.ringOf side).PopFits
  buffer : ∀ endpoint bytes,
    (h.poll side).1.found = some (.remote endpoint, bytes) → bytes.size ≤ receiveBufferSize

end Hub

/-! ## Channels -/

/-- Room is made for a header and a message, or for a part of it. -/
def Sizable (message : ByteArray) : Prop := maxHeaderSize + message.size < wordLimit

/-- The fragment that comes next is cut off: its start is taken from the size of the message,
and it lies within the message. -/
structure Unsent.CutFits (u : Unsent) : Prop where
  start : u.start ≤ u.message.size
  stop : u.nextStop ≤ u.message.size
  sizable : Sizable u.message

/-- The counts of a channel take whatever becomes of a datagram. -/
structure Tally.CountFits (t : Tally) : Prop where
  delivered : t.delivered + 1 < wordLimit
  discarded : t.discarded + 1 < wordLimit
  abandoned : t.abandoned + 1 < wordLimit
  skipped : ∀ later older, t.totalDropped + Sequence.gap later older < wordLimit

namespace Channel

variable (now : Instant)

/-- A header is written: the sequence leaves the fragment bit alone, and another one may
follow it. -/
structure HeaderFits (c : Channel) : Prop where
  free : c.outgoing.sequence < Sequence.fragmentBit
  next : c.outgoing.sequence.toNat + 1 < halfWordLimit

/-- A message is started: none is unsent. -/
structure StartFits (c : Channel) (message : ByteArray) : Prop where
  idle : c.isBusy = false
  header : c.HeaderFits
  cut : Unsent.CutFits ⟨message, 0⟩

/-- Up to `budget` datagrams are made: unsent fragments first, then a queue's messages. -/
inductive PumpFits : Channel → List ByteArray → Nat → Prop
  | spent {c : Channel} {queue : List ByteArray} : PumpFits c queue 0
  | idle {c : Channel} {budget : Nat} (hidle : c.outgoing.unsent = none) :
      PumpFits c [] (budget + 1)
  | fragment {c after : Channel} {queue : List ByteArray} {budget : Nat} {u : Unsent}
      {d : Dispatch} (hunsent : c.outgoing.unsent = some u) (hheader : c.HeaderFits)
      (hcut : u.CutFits) (hsend : c.sendFragment u = .ok (d, after))
      (hrest : PumpFits after queue budget) :
      PumpFits c queue (budget + 1)
  | message {c after : Channel} {message : ByteArray} {queue : List ByteArray}
      {budget : Nat} {d : Dispatch} (hidle : c.outgoing.unsent = none)
      (hstart : c.StartFits message) (hsend : c.transmit message = .ok (d, after))
      (hrest : PumpFits after queue budget) :
      PumpFits c (message :: queue) (budget + 1)

/-- What is made is sent through a hub. -/
structure ShipFits (c : Channel) (h : Hub) (queue : List ByteArray) (budget : Nat) :
    Prop where
  pump : c.PumpFits queue budget
  dispatch : ∀ pumped, c.pump queue budget = .ok pumped → h.DispatchFits now pumped.dispatches
  done : (c.ship h queue budget now).fault = none

/-- A datagram is received: what is left behind the header is a part of it, the end of any
fragment is a word, and what is left of a complete message is a part of it. -/
structure ReceiveFits (c : Channel) (source : Address) (datagram : ByteArray) : Prop where
  header : (Header.read (c.side == .server) (.ofBytes datagram)).2.InBounds
  assembled : ∀ length : UInt16,
    c.incoming.assembly.bytes.size + length.toNat < wordLimit
  counts : c.incoming.tally.CountFits
  message : (c.receive source (.ofBytes datagram)).1.isDelivered = true →
    (c.receive source (.ofBytes datagram)).1.cursor.InBounds

end Channel

/-- What tells a datagram's kind lies within it: the marker of a connectionless one, and the
qport of another. -/
structure KindFits (datagram : ByteArray) : Prop where
  marker : isConnectionless datagram = true → connectionlessMarker.size ≤ datagram.size
  qport : ∀ qport, peekQport datagram = some qport → 6 ≤ datagram.size

/-! ## Servers -/

namespace Server

variable (now : Instant)

/-- A datagram is handled.  A reply is added to the count of its client's waiting bytes, and
what is dropped for it is taken off. -/
structure HandleFits (s : Server) (source : Address) (datagram : ByteArray) : Prop where
  kind : KindFits datagram
  identifier : s.roster.nextId + 1 < halfWordLimit
  echoed : s.echoed + 1 < wordLimit
  channel : ∀ p ∈ s.roster.peers, p.channel.ReceiveFits source datagram
  queue : ∀ p ∈ s.roster.peers, ∀ message,
    s.completes? source datagram = some (p.id, message) →
      (Outbox.ofQueue p.queue).step? (.delivered message) =
        some (.ofQueue (answered p.queue message))

structure ServeFits (s : Server) (h : Hub) (source : Address) (datagram : ByteArray) :
    Prop where
  handle : s.HandleFits source datagram
  reply : ∀ response after command,
    s.handle h.settings.showDrops source datagram now = (response, after) →
      response.reply = some command →
        (h.report response.records).SendFits now .server
          (connectionless command.render.toUTF8) source
  done : (s.serveDatagram h source datagram now).fault = none

/-- Everything that waits is handled. -/
inductive DrainFits : Server → Hub → Prop
  | empty {s : Server} {h : Hub} (hfits : h.PollFits .server)
      (hnone : (h.poll .server).1.found = none) :
      DrainFits s h
  | next {s after : Server} {h rest left : Hub} {source : Address} {datagram : ByteArray}
      {records : List Record} (hfits : h.PollFits .server)
      (hpoll : h.poll .server = (⟨some (source, datagram), records⟩, rest))
      (hserves : s.ServeFits now (rest.report records) source datagram)
      (hserve : s.serveDatagram (rest.report records) source datagram now =
        .done (after, left))
      (hrest : DrainFits after left) :
      DrainFits s h

/-- Clients send their shares.  A message that is taken is taken off the count. -/
inductive SharesFit (budget : Nat) : List Peer → Hub → Prop
  | nobody {h : Hub} : SharesFit budget [] h
  | next {p : Peer} {rest : List Peer} {h : Hub}
      (hship : p.channel.ShipFits now h p.queue budget)
      (htakes : ∀ waiting, waiting <:+ p.queue →
        (Outbox.ofQueue waiting).pop? = some (.ofQueue waiting.tail))
      (hrest : SharesFit budget rest (p.pump h budget now).reached.2) :
      SharesFit budget (p :: rest) h

structure TickFits (s : Server) (h : Hub) (checked : Nat → Instant) : Prop where
  drain : s.DrainFits now h
  shares : ∀ after left, s.receiveAll h now = .done (after, left) →
    SharesFit now after.fragmentsPerTick after.roster.peers left
  done : (s.tick h now checked).fault = none

def DeedFits (x : Server × Hub) : Deed → Prop
  | .tick now checked => x.1.TickFits now x.2 checked
  | .reorder _ => True
  | .meet _ => True

/-- A run never stops, and it asks for no more than a machine has. -/
def RunFits (x : Server × Hub) : List Deed → Prop
  | [] => True
  | deed :: rest =>
      DeedFits x deed ∧ ∃ after, perform x deed = .done after ∧ RunFits after rest

end Server

/-! ## Clients -/

namespace Client

variable (now : Instant)

/-- A datagram is handled: an echo is counted with the size of its probe. -/
structure HandleFits (c : Client) (source : Address) (datagram : ByteArray) : Prop where
  kind : KindFits datagram
  channel : ∀ channel, c.channel = some channel → channel.ReceiveFits source datagram
  echoed : c.stats.echoed + 1 < wordLimit
  corrupted : c.stats.corrupted + 1 < wordLimit
  bytes : ∀ probe ∈ c.inFlight, c.stats.bytesEchoed + probe.size < wordLimit

/-- Everything that waits is handled. -/
inductive DrainFits (clock : UInt64) : Client → Hub → Prop
  | empty {c : Client} {h : Hub} (hfits : h.PollFits .client)
      (hnone : (h.poll .client).1.found = none) :
      DrainFits clock c h
  | next {c : Client} {h rest : Hub} {poll : Hub.Poll} {source : Address}
      {datagram : ByteArray} (hfits : h.PollFits .client)
      (hpoll : h.poll .client = (poll, rest)) (hfound : poll.found = some (source, datagram))
      (hhandle : c.HandleFits source datagram)
      (hrest : DrainFits clock (c.handle h.settings.showDrops source datagram clock).2 rest) :
      DrainFits clock c h

/-- A request for a connection is sent. -/
def AskFits (c : Client) (h : Hub) : Prop :=
  h.SendFits now .client (connectionless (connectRequest c.qport).render.toUTF8) c.server

structure TickFits (c : Client) (h : Hub) (clock : UInt64) : Prop where
  drain : c.DrainFits clock h
  ask : ∀ after left, c.receiveAll h clock = (after, left) → after.needsResend now = true →
    after.AskFits now (left.report [.debug "Resending connect request"])
  share : ∀ after left, c.receiveAll h clock = (after, left) →
    ∀ asked sent, after.resendConnect left now = .done (asked, sent) →
      ∀ channel, asked.channel = some channel →
        channel.ShipFits now sent asked.queue asked.fragmentsPerTick
  done : (c.tick h now clock).fault = none

/-- A client leaves: its farewell and its notice are sent, and what is unanswered is counted
as lost. -/
structure LeaveFits (c : Client) (h : Hub) : Prop where
  farewell : ∀ channel, c.channel = some channel → channel.isBusy = false →
    channel.ShipFits now h [farewell.encode] (Channel.datagramCount farewell.encode.size)
  notice : ∀ after left, c.sendFarewell h now = .done (after, left) →
    after.phase ≠ .disconnected →
      left.SendFits now .client (connectionless disconnectNotice.render.toUTF8) after.server
  lost : c.stats.lost + c.inFlight.length < wordLimit
  done : (c.disconnect h now).fault = none

/-- A probe is issued and counted; identifiers go round.  The one thing that can be refused is
a payload that no memory holds. -/
structure ProbeFits (c : Client) (size : Nat) (clock : UInt64) : Prop where
  sent : c.stats.sent + 1 < wordLimit
  refused : ∀ fault, c.sendProbe size clock = .error fault →
    fault = .payloadTooLong ∧ maxPayloadSize < size

def DeedFits (x : Client × Hub) : Deed → Prop
  | .connect now => x.1.AskFits now (x.2.report [.info s!"Connecting to {x.1.server}..."])
  | .requestInfo now =>
      x.2.SendFits now .client (connectionless infoRequest.render.toUTF8) x.1.server
  | .sendProbe size clock => x.1.ProbeFits size clock
  | .tick now clock => x.1.TickFits now x.2 clock
  | .disconnect now => x.1.LeaveFits now x.2
  | .meet _ => True

/-- A run asks for no more than a machine has, up to a probe that is refused. -/
def RunFits (x : Client × Hub) : List Deed → Prop
  | [] => True
  | deed :: rest =>
      DeedFits x deed ∧ ∀ after, perform x deed = .done after → RunFits after rest

end Client
end DatagramLink
