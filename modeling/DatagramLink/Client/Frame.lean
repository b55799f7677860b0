import DatagramLink.Client
import DatagramLink.Frame

/-!
# A client's frames

A frame handles all datagrams that wait, repeats an unanswered request for a connection, sends the
client's share and then the delayed datagrams that are due.

A run connects, issues its probes one after the other, each as soon as nothing else waits to be
sent, and ends when all are answered, when the connection is lost, when its time is up or when it is
interrupted.
-/

namespace DatagramLink

/-- Nanoseconds after which an unanswered request for a connection is repeated. -/
def connectResendDelay : Nat := seconds 1

namespace Client

/-! ## Sending -/

def sendConnect (c : Client) (h : Hub) (now : Instant) : Attempt (Client × Hub) :=
  match h.sendText .client (connectRequest c.qport).render c.server now with
  | ⟨h, none⟩ => .done ({ c with lastConnect := some now }, h)
  | ⟨h, some fault⟩ => .stopped (c, h) fault

def connect (c : Client) (h : Hub) (now : Instant) : Attempt (Client × Hub) :=
  { c with phase := .connecting }.sendConnect (h.report [.info s!"Connecting to {c.server}..."]) now

/-- Asks the server for its name and how many clients it has. -/
def requestInfo (c : Client) (h : Hub) (now : Instant) : Attempt Hub :=
  h.sendText .client infoRequest.render c.server now

def farewell : Message := .disconnect "client quit"

/-- Says farewell over the channel, unless a split message occupies it. -/
def sendFarewell (c : Client) (h : Hub) (now : Instant) : Attempt (Client × Hub) :=
  match c.channel with
  | none => .done (c, h)
  | some channel =>
    if channel.isBusy then
      .done (c, h)
    else
      (channel.shipAll h farewell.encode now).map fun s =>
        ({ c with channel := some s.channel }, s.hub)

/-- Tells the server without a channel, too, that the client leaves. -/
def sendLeave (c : Client) (h : Hub) (now : Instant) : Attempt Hub :=
  if c.phase = .disconnected then
    .done h
  else
    h.sendText .client disconnectNotice.render c.server now

/-- The client after it left: unanswered probes are lost, and nothing waits. -/
def reset (c : Client) : Client :=
  { c with
    phase := .disconnected
    channel := none
    queue := []
    inFlight := []
    stats := c.stats.countLost c.inFlight.length }

def disconnect (c : Client) (h : Hub) (now : Instant) : Attempt (Client × Hub) :=
  ((c.sendFarewell h now).andThen fun (c, h) => (c.sendLeave h now).map fun h => (c, h)).andThen
    fun (c, h) => .done (c.reset, h)

/-! ## Frames -/

def handlePoll (clock : UInt64) : Client × Hub → Hub.Poll → Client × Hub
  | (c, h), poll =>
    match poll.found with
    | none => (c, h.report poll.records)
    | some (source, datagram) =>
      match c.handle h.settings.showDrops source datagram clock with
      | (records, c) => (c, h.report (poll.records ++ records))

def receiveAll (c : Client) (h : Hub) (clock : UInt64) : Client × Hub :=
  match h.drain .client with
  | (polls, h) => polls.foldl (handlePoll clock) (c, h)

/-- Whether an unanswered request for a connection has to be repeated. -/
def needsResend (c : Client) (now : Instant) : Bool :=
  c.phase == .connecting &&
    match c.lastConnect with
    | none => true
    | some last => connectResendDelay ≤ now - last

/-- Repeats an unanswered request for a connection. -/
def resendConnect (c : Client) (h : Hub) (now : Instant) : Attempt (Client × Hub) :=
  if c.needsResend now then
    c.sendConnect (h.report [.debug "Resending connect request"]) now
  else
    .done (c, h)

def pump (c : Client) (h : Hub) (now : Instant) : Attempt (Client × Hub) :=
  match c.channel with
  | none => .done (c, h)
  | some channel =>
    (channel.ship h c.queue c.fragmentsPerTick now).map fun s =>
      ({ c with channel := some s.channel, queue := s.queue }, s.hub)

def tick (c : Client) (h : Hub) (now : Instant) (clock : UInt64) : Attempt (Client × Hub) :=
  match c.receiveAll h clock with
  | (c, h) =>
    ((c.resendConnect h now).andThen fun (c, h) => c.pump h now).andThen fun (c, h) =>
      .done (c, (h.flush now).2)

/-! ## Runs -/

/-- What a run is to do. -/
structure Plan where
  /-- The payload sizes of the probes, taken in turn. -/
  sizes : List Nat
  /-- How often each size is used. -/
  count : Nat
  /-- The time between frames; it cannot be zero. -/
  period : Nat
  /-- Nanoseconds after which the run gives up. -/
  timeout : Nat

/-- How a run ended. -/
inductive Ending where
  | answered
  | lostConnection
  | timedOut
  | interrupted
  deriving DecidableEq, Repr

namespace Plan

def total (p : Plan) : Nat := p.sizes.length * p.count

/-- The first number of probes that cannot be counted. -/
def totalLimit : Nat := Text.maxUnsigned64 + 1

/-- The first number of nanoseconds after which no deadline can be. -/
def timeoutLimit : Nat := seconds Text.maxSigned64

def fault? (p : Plan) : Option Fault :=
  if totalLimit ≤ p.total ∨ timeoutLimit ≤ p.timeout then some .planTooLarge
  else if p.period = 0 then some .zeroPeriod
  else none

/-- The size of the probe that is issued after `issued` others. -/
def size (p : Plan) (issued : Nat) : Nat := p.sizes.getD (issued % p.sizes.length) 0

end Plan

def isIdle (c : Client) : Bool :=
  c.queue.isEmpty && c.channel.any (!·.isBusy)

/-- Issues the next probe of a plan, if it is time: how many are issued then. -/
def issue (c : Client) (plan : Plan) (issued : Nat) (clock : UInt64) :
    Except Fault (Nat × Client) :=
  if issued < plan.total ∧ c.isIdle then
    (c.sendProbe (plan.size issued) clock).map fun (_, c) => (issued + 1, c)
  else
    .ok (issued, c)

/-- Whether a run ends after this frame, and what there is to report. -/
def ending? (c : Client) (plan : Plan) (start : Instant) (issued : Nat) (now : Instant) :
    Option (Ending × Record) :=
  if c.isConnected && issued == plan.total && c.inFlight.isEmpty then
    some (.answered, .info s!"All {plan.total} probes answered")
  else if c.phase = .disconnected then
    some (.lostConnection, .warn "Lost connection to server")
  else if start + plan.timeout ≤ now then
    some (.timedOut, .warn s!"Timed out with {c.inFlight.length} probes unanswered")
  else
    none

/-- Issues a probe if the client is connected. -/
def proceed (c : Client) (plan : Plan) (issued : Nat) (clock : UInt64) :
    Except Fault (Nat × Client) :=
  if c.isConnected then c.issue plan issued clock else .ok (issued, c)

/-- Leaves the server and sends what is due. -/
def finish (c : Client) (h : Hub) (now : Instant) : Except Fault (Client × Hub) := do
  let (c, h) ← (c.disconnect h now).result
  return (c, (h.flush now).2)

/-- A run in the middle. -/
structure Progress where
  client : Client
  hub : Hub
  /-- How many probes were issued. -/
  issued : Nat

/-- Runs one frame of a plan: the run in the middle, or how it ended. -/
def frame (p : Progress) (plan : Plan) (start : Instant) (f : Frame) :
    Except Fault (Option Ending × Progress) := do
  let (c, h) ← (p.client.tick (p.hub.deliver f.arrivals) f.now f.clock).result
  let (issued, c) ← c.proceed plan p.issued f.clock
  match c.ending? plan start issued f.now with
  | none => return (none, ⟨c, h, issued⟩)
  | some (ending, record) => return (some ending, ⟨c, h.report [record], issued⟩)

/-- Runs frames until one of them ends the run; when none does, the run is interrupted after the
last one.  The time of the last frame is returned with the rest. -/
def frames (p : Progress) (plan : Plan) (start last : Instant) :
    List Frame → Except Fault (Ending × Instant × Progress)
  | [] => .ok (.interrupted, last, { p with hub := p.hub.report [interruptedRecord] })
  | f :: rest => do
    match ← frame p plan start f with
    | (some ending, p) => return (ending, f.now, p)
    | (none, p) => frames p plan start f.now rest

/-- The hub when a client starts to use its socket. -/
def announce (h : Hub) : Hub :=
  h.report (h.socket.address.toList.map fun address => .info s!"Client bound to {address}")

/-- Connects and starts a plan, unless something is wrong with it. -/
def begin (c : Client) (h : Hub) (plan : Plan) (start : Instant) : Except Fault Progress :=
  match plan.fault? with
  | some fault => .error fault
  | none => (c.connect (announce h) start).result.map fun (c, h) => ⟨c, h, 0⟩

/-- Carries out a plan in the frames that are given: how it ended, and client and hub after that. -/
def run (c : Client) (h : Hub) (plan : Plan) (start : Instant) (fs : List Frame) :
    Except Fault (Ending × Client × Hub) := do
  let p ← c.begin h plan start
  let (ending, now, p) ← frames p plan start start fs
  let (c, h) ← p.client.finish p.hub now
  return (ending, c, h)

end Client
end DatagramLink
