import DatagramLink.Frame
import DatagramLink.Server

/-!
# A server's frames

A frame handles all datagrams that wait, lets every client send its share, drops silent clients and
sends the delayed datagrams that are due.  A server runs frame after frame until it is interrupted.
-/

namespace DatagramLink

namespace Server

/-- Reports a response and sends its answer. -/
def respond (h : Hub) (target : Address) (response : Response) (now : Instant) : Attempt Hub :=
  match response.reply with
  | none => .done (h.report response.records)
  | some command => (h.report response.records).sendText .server command.render target now

def serveDatagram (s : Server) (h : Hub) (source : Address) (datagram : ByteArray)
    (now : Instant) : Attempt (Server × Hub) :=
  match s.handle h.settings.showDrops source datagram now with
  | (response, s) => (respond h source response now).map fun h => (s, h)

theorem waiting_respond (h : Hub) (target : Address) (response : Response) (now : Instant) :
    (respond h target response now).reached.waiting .server = h.waiting .server := by
  unfold respond
  split
  · exact h.waiting_report response.records .server
  · exact (Hub.waiting_send _ .server _ target now).trans
      (h.waiting_report response.records .server)

theorem waiting_serveDatagram (s : Server) (h : Hub) (source : Address) (datagram : ByteArray)
    (now : Instant) :
    (s.serveDatagram h source datagram now).reached.2.waiting .server = h.waiting .server :=
  waiting_respond h source _ now

/-- Behind a datagram less waits than in front of it. -/
theorem waiting_served_lt {s served : Server} {h rest left : Hub} {source : Address}
    {datagram : ByteArray} {records : List Record} {now : Instant} {fault : Option Fault}
    (hpoll : h.poll .server = (⟨some (source, datagram), records⟩, rest))
    (hserve : s.serveDatagram (rest.report records) source datagram now =
      ⟨(served, left), fault⟩) :
    left.waiting .server < h.waiting .server := by
  have hless := h.waiting_poll .server (by rw [hpoll]; rfl)
  have hkept := waiting_serveDatagram s (rest.report records) source datagram now
  rw [hpoll] at hless
  rw [hserve, Hub.waiting_report] at hkept
  exact Nat.lt_of_le_of_lt (Nat.le_of_eq hkept) hless

def receiveAll (s : Server) (h : Hub) (now : Instant) : Attempt (Server × Hub) :=
  match _hpoll : h.poll .server with
  | (⟨none, records⟩, rest) => .done (s, rest.report records)
  | (⟨some (source, datagram), records⟩, rest) =>
    match _hserve : s.serveDatagram (rest.report records) source datagram now with
    | ⟨reached, some fault⟩ => .stopped reached fault
    | ⟨(served, left), none⟩ => served.receiveAll left now
termination_by h.waiting .server
decreasing_by exact waiting_served_lt _hpoll _hserve

def pump (s : Server) (h : Hub) (now : Instant) : Attempt (Server × Hub) :=
  (s.roster.pump h s.fragmentsPerTick now).map fun (roster, h) => ({ s with roster }, h)

/-- Drops the clients that were silent for too long, by a reading of the clock for each. -/
def dropSilent (s : Server) (h : Hub) (checked : Nat → Instant) : Server × Hub :=
  match s.roster.removeTimedOut s.clientTimeout checked with
  | (records, roster) =>
    ({ s with roster },
      h.report (records ++
        (s.roster.timedOut s.clientTimeout checked).map fun id =>
          .info s!"Client {id} timed out"))

def tick (s : Server) (h : Hub) (now : Instant) (checked : Nat → Instant) :
    Attempt (Server × Hub) :=
  ((s.receiveAll h now).andThen fun (s, h) => s.pump h now).andThen fun (s, h) =>
    match s.dropSilent h checked with
    | (s, h) => .done (s, (h.flush now).2)

/-! ## The frame loop -/

/-- How often a server with clients reports on itself, in frames. -/
def reportPeriod : Nat := 300

/-- The report of a server with clients, due after every `reportPeriod` frames. -/
def periodicRecords (s : Server) (h : Hub) (ticks : Nat) : List Record :=
  if ticks % reportPeriod = 0 ∧ ¬ s.roster.isEmpty then
    [.debug (s!"Tick {ticks}: {s.roster.length} clients, {s.echoed} echoes, " ++
      s!"{h.delayed.length} delayed packets")]
  else
    []

/-- Runs frame number `ticks` of a loop. -/
def frame (s : Server) (h : Hub) (ticks : Nat) (f : Frame) : Except Fault (Server × Hub) := do
  let (s, h) ← (s.tick (h.deliver f.arrivals) f.now f.checked).result
  return (s, h.report (s.periodicRecords h ticks))

/-- Runs frames; `ticks` were run before. -/
def frames (s : Server) (h : Hub) (ticks : Nat) : List Frame → Except Fault (Server × Hub)
  | [] => .ok (s, h)
  | f :: rest => do
    let (s, h) ← s.frame h (ticks + 1) f
    s.frames h (ticks + 1) rest

/-- The hub when a server starts to serve through its socket. -/
def announce (h : Hub) : Hub :=
  h.report (h.socket.address.toList.map fun address => .info s!"Server started on {address}")

/-- Serves for some frames, `period` apart.  A period of zero is an error. -/
def serve (s : Server) (h : Hub) (period : Nat) (fs : List Frame) : Except Fault (Server × Hub) :=
  if period = 0 then .error .zeroPeriod else s.frames (announce h) 0 fs

/-- Serves for some frames and is then interrupted. -/
def run (s : Server) (h : Hub) (period : Nat) (fs : List Frame) : Except Fault (Server × Hub) := do
  let (s, h) ← s.serve h period fs
  return (s, h.report [interruptedRecord])

end Server
end DatagramLink
