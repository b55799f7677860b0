import DatagramLink.Address.Text
import DatagramLink.Dice
import DatagramLink.Header
import DatagramLink.Journal
import DatagramLink.Ring
import DatagramLink.Settings
import DatagramLink.Socket

/-!
# Hubs

A hub owns everything that channels send through: a loopback ring for each side, the delay line, the
socket, the settings, and the journal of what happened.  Sending routes a datagram to the other
side's ring, to the delay line or to the socket.  Polling takes what waits in the own ring first,
then what the socket received.
-/

namespace DatagramLink

/-- Room for one received datagram; a datagram that fills it completely is oversize. -/
def receiveBufferSize : Nat := 16384

/-- Routing between loopback, delay line and socket. -/
structure Hub where
  settings : Settings
  /-- Datagrams that wait for the client. -/
  toClient : Ring := Ring.empty
  /-- Datagrams that wait for the server. -/
  toServer : Ring := Ring.empty
  delayed : DelayLine := DelayLine.empty
  socket : Socket := Socket.absent
  dice : Dice := Dice.plain
  /-- Reported so far, oldest first. -/
  journal : Array Record := #[]

namespace Hub

def loopbackOnly (settings : Settings) : Hub := { settings }

def ringOf (h : Hub) : Side → Ring
  | .client => h.toClient
  | .server => h.toServer

def setRing (h : Hub) (side : Side) (ring : Ring) : Hub :=
  match side with
  | .client => { h with toClient := ring }
  | .server => { h with toServer := ring }

def report (h : Hub) (records : List Record) : Hub :=
  { h with journal := h.journal ++ records.toArray }

/-- Adds a record to the journal where `shown` says so. -/
def reportIf (h : Hub) (shown : Bool) (record : Record) : Hub :=
  if shown then h.report [record] else h

/-! ## Sending -/

/-- Decides whether the next datagram gets lost on purpose. -/
def rollLoss (h : Hub) : Bool × Hub :=
  if h.settings.simulatesLoss then
    (Dice.percent h.dice.next.1 < h.settings.lossPercent, { h with dice := h.dice.next.2 })
  else
    (false, h)

/-- The delay of the next datagram of a side; nothing when the random part makes it too long. -/
def rollDelay (h : Hub) (side : Side) : Option Nat × Hub :=
  if 0 < h.settings.jitter then
    ((some (h.settings.delay side + h.dice.next.1.toNat % (h.settings.jitter + 1))).filter
        (· ≤ Text.maxUnsigned64),
      { h with dice := h.dice.next.2 })
  else
    (some (h.settings.delay side), h)

/-- Offers a datagram to the socket; a refusal is reported with what was tried. -/
def offer (h : Hub) (d : Datagram) (attempt : String) : Hub :=
  match h.socket.send d with
  | (none, socket) => { h with socket }
  | (some reason, socket) =>
    { h with socket }.report [.warn s!"Failed to {attempt} to {d.target}: {reason}"]

/-- Holds a datagram back for as long as its side's datagrams are delayed. -/
def hold (h : Hub) (side : Side) (d : Datagram) (now : Instant) : Attempt Hub :=
  match h.rollDelay side with
  | (some delay, h) => .done { h with delayed := h.delayed.push d (milliseconds delay) now }
  | (none, h) => .stopped h .delayTooLong

/-- Sends a datagram over the network, after simulated loss and delay. -/
def sendRemote (h : Hub) (side : Side) (d : Datagram) (now : Instant) : Attempt Hub :=
  match h.rollLoss with
  | (true, h) =>
    .done
      (h.reportIf h.settings.showPackets (.info s!"{side} simulated loss of packet to {d.target}"))
  | (false, h) =>
    if h.settings.simulatesLatency side then
      h.hold side d now
    else
      .done (h.offer d "send packet")

/-- Sends a datagram: loopback is never lost or delayed. -/
def send (h : Hub) (side : Side) (bytes : ByteArray) (target : Address) (now : Instant) :
    Attempt Hub :=
  let h := h.reportIf h.settings.showPackets (.info s!"{side} send {bytes.size} bytes to {target}")
  match target with
  | .loopback => .done (h.setRing side.peer ((h.ringOf side.peer).push bytes))
  | .remote endpoint => h.sendRemote side ⟨bytes, endpoint⟩ now

def sendConnectionless (h : Hub) (side : Side) (payload : ByteArray) (target : Address)
    (now : Instant) : Attempt Hub :=
  h.send side (connectionless payload) target now

def sendText (h : Hub) (side : Side) (text : String) (target : Address) (now : Instant) :
    Attempt Hub :=
  h.sendConnectionless side text.toUTF8 target now

/-- Offers every datagram that is due to the socket; the number of them is returned. -/
def flush (h : Hub) (now : Instant) : Nat × Hub :=
  let (due, line) := h.delayed.release now
  (due.length,
    due.foldl (fun h held => h.offer held.datagram "flush delayed packet")
      { h with delayed := line })

/-! ## Polling -/

/-- What one poll found, and what it has to report. -/
structure Poll where
  /-- A datagram and its sender; nothing when none waits or a receive failed. -/
  found : Option (Address × ByteArray)
  records : List Record := []

/-- The part of a datagram that fits into the receive buffer. -/
def received (bytes : ByteArray) : ByteArray := bytes.extract 0 receiveBufferSize

/-- What to report about a datagram that the socket received. -/
def receivedRecords (settings : Settings) (side : Side) (bytes : ByteArray) (source : Endpoint) :
    List Record :=
  if settings.showPackets then [.info s!"{side} recv {bytes.size} bytes from {source}"] else []

/-- Takes the next datagram from what a socket has to offer, past oversize ones; the rest stays. -/
def pollInbound (settings : Settings) (side : Side) : List Arrival → Poll × List Arrival
  | [] => (⟨none, []⟩, [])
  | .failure reason :: rest => (⟨none, [.warn s!"Failed to receive packet: {reason}"]⟩, rest)
  | .datagram bytes source :: rest =>
    if receiveBufferSize ≤ (received bytes).size then
      match pollInbound settings side rest with
      | (poll, rest) =>
        ({ poll with records := .warn s!"Oversize packet from {source}" :: poll.records }, rest)
    else
      (⟨some (.remote source, received bytes),
          receivedRecords settings side (received bytes) source⟩,
        rest)

/-- Takes the next datagram that waits for a side in its ring. -/
def pollRing (h : Hub) (side : Side) : Option ByteArray × Hub :=
  match (h.ringOf side).pop with
  | (datagram, ring) => (datagram, h.setRing side ring)

/-- Takes all datagrams that wait for a side in its ring. -/
def takeRing (h : Hub) (side : Side) : List ByteArray × Hub :=
  match (h.ringOf side).pops (h.ringOf side).length with
  | (found, ring) => (found.filterMap id, h.setRing side ring)

/-- Takes the next datagram from the socket. -/
def pollSocket (h : Hub) (side : Side) : Poll × Hub :=
  match pollInbound h.settings side h.socket.inbound with
  | (poll, inbound) => (poll, { h with socket := { h.socket with inbound } })

/-- Takes the next datagram for a side: from its ring, else from the socket. -/
def poll (h : Hub) (side : Side) : Poll × Hub :=
  match h.pollRing side with
  | (some bytes, h) => (⟨some (.loopback, bytes), []⟩, h)
  | (none, h) => h.pollSocket side

/-- How much waits for a side: unread datagrams of its ring and the socket's inbound queue. -/
def waiting (h : Hub) (side : Side) : Nat :=
  (h.ringOf side).length + h.socket.inbound.length

theorem length_pollInbound (settings : Settings) (side : Side) (inbound : List Arrival) :
    (pollInbound settings side inbound).2.length +
      (if (pollInbound settings side inbound).1.found.isSome then 1 else 0) ≤ inbound.length := by
  induction inbound with
  | nil => simp [pollInbound]
  | cons arrival rest ih =>
    cases arrival with
    | failure reason => simp [pollInbound]
    | datagram bytes source =>
      simp only [pollInbound]
      split
      · simp only [List.length_cons]
        omega
      · simp

theorem ringOf_setRing (h : Hub) (side : Side) (ring : Ring) :
    (h.setRing side ring).ringOf side = ring := by
  cases side <;> rfl

theorem socket_setRing (h : Hub) (side : Side) (ring : Ring) :
    (h.setRing side ring).socket = h.socket := by
  cases side <;> rfl

theorem settings_setRing (h : Hub) (side : Side) (ring : Ring) :
    (h.setRing side ring).settings = h.settings := by
  cases side <;> rfl

theorem ringOf_pollSocket (h : Hub) (side reader : Side) :
    (h.pollSocket side).2.ringOf reader = h.ringOf reader := by
  cases reader <;> rfl

theorem waiting_pollSocket (h : Hub) (side : Side)
    (hfound : (h.pollSocket side).1.found.isSome = true) :
    (h.pollSocket side).2.waiting side < h.waiting side := by
  have hlen := length_pollInbound h.settings side h.socket.inbound
  rw [waiting, waiting, ringOf_pollSocket]
  unfold pollSocket at hfound ⊢
  rw [if_pos hfound] at hlen
  exact Nat.add_lt_add_left hlen _

/-- A poll that finds a datagram leaves one less. -/
theorem waiting_poll (h : Hub) (side : Side) (hfound : (h.poll side).1.found.isSome = true) :
    (h.poll side).2.waiting side < h.waiting side := by
  unfold poll pollRing at hfound ⊢
  rcases hpop : (h.ringOf side).pop with ⟨_ | bytes, ring⟩
  · have hsame : (h.setRing side ring).waiting side = h.waiting side := by
      have hring : ring = h.ringOf side := Ring.eq_of_pop_eq_none hpop
      rw [waiting, waiting, ringOf_setRing, socket_setRing, hring]
    rw [hpop] at hfound
    rw [← hsame]
    exact waiting_pollSocket _ side hfound
  · have hlen := Ring.length_pop hpop
    rw [waiting, waiting, ringOf_setRing, socket_setRing, ← hlen]
    exact Nat.add_lt_add_right (Nat.lt_succ_self _) _

theorem waiting_report (h : Hub) (records : List Record) (side : Side) :
    (h.report records).waiting side = h.waiting side := by
  cases side <;> rfl

theorem waiting_reportIf (h : Hub) (shown : Bool) (record : Record) (side : Side) :
    (h.reportIf shown record).waiting side = h.waiting side := by
  unfold reportIf
  split
  · exact h.waiting_report [record] side
  · rfl

theorem waiting_rollLoss (h : Hub) (side : Side) : h.rollLoss.2.waiting side = h.waiting side := by
  unfold rollLoss
  split <;> cases side <;> rfl

theorem waiting_offer (h : Hub) (d : Datagram) (attempt : String) (side : Side) :
    (h.offer d attempt).waiting side = h.waiting side := by
  have hinbound : (h.socket.send d).2.inbound = h.socket.inbound := rfl
  unfold offer
  split <;> rename_i hsend <;> rw [hsend] at hinbound <;>
    cases side <;> exact congrArg (_ + List.length ·) hinbound

theorem waiting_rollDelay (h : Hub) (side reader : Side) :
    (h.rollDelay side).2.waiting reader = h.waiting reader := by
  unfold rollDelay
  split <;> cases reader <;> rfl

theorem waiting_hold (h : Hub) (side : Side) (d : Datagram) (now : Instant) (reader : Side) :
    (h.hold side d now).reached.waiting reader = h.waiting reader := by
  have hroll := h.waiting_rollDelay side reader
  unfold hold
  split <;> rename_i heq <;> rw [heq] at hroll <;> refine Eq.trans ?_ hroll <;>
    cases reader <;> rfl

theorem waiting_sendRemote (h : Hub) (side : Side) (d : Datagram) (now : Instant)
    (reader : Side) : (h.sendRemote side d now).reached.waiting reader = h.waiting reader := by
  have hloss := h.waiting_rollLoss reader
  unfold sendRemote
  split
  · rename_i h' heq
    rw [heq] at hloss
    exact (waiting_reportIf h' _ _ reader).trans hloss
  · rename_i h' heq
    rw [heq] at hloss
    split
    · exact (waiting_hold h' side d now reader).trans hloss
    · exact (waiting_offer h' d "send packet" reader).trans hloss

/-- What a side sends never waits for the side itself. -/
theorem waiting_send (h : Hub) (side : Side) (bytes : ByteArray) (target : Address)
    (now : Instant) : (h.send side bytes target now).reached.waiting side = h.waiting side := by
  have hreport := h.waiting_reportIf h.settings.showPackets
    (.info s!"{side} send {bytes.size} bytes to {target}") side
  unfold send
  refine Eq.trans ?_ hreport
  cases target with
  | loopback => cases side <;> rfl
  | remote endpoint => exact waiting_sendRemote _ side ⟨bytes, endpoint⟩ now side

/-- Polls until nothing is found.  The last poll is the one that found nothing. -/
def drain (h : Hub) (side : Side) : List Poll × Hub :=
  match _hpoll : h.poll side with
  | (poll, rest) =>
    if _hfound : poll.found.isSome then
      match rest.drain side with
      | (polls, last) => (poll :: polls, last)
    else
      ([poll], rest)
termination_by h.waiting side
decreasing_by
  have hless := waiting_poll h side (by rw [_hpoll]; exact _hfound)
  rwa [_hpoll] at hless

/-- Forgets what was reported and offered so far, once it is printed and sent. -/
def clear (h : Hub) : Hub := { h with journal := #[], socket := h.socket.clear }

def deliver (h : Hub) (arrivals : List Arrival) : Hub :=
  { h with socket := h.socket.deliver arrivals }

end Hub
end DatagramLink
