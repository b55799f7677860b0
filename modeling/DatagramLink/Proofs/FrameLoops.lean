import DatagramLink.Client.Frame
import DatagramLink.Server.Frame
import DatagramLink.Proofs.MessageSplitting
import DatagramLink.Proofs.RingQueue

/-!
# The loops of a frame

The loops in which the two sides of a hub take and send datagrams, one step at a time:
what a poll finds decides how a loop goes on, and a share that is sent over loopback
ends up in the other side's ring.
-/

namespace DatagramLink

/-- What a part of the work keeps and what comes behind it keeps, the whole keeps. -/
theorem Attempt.andThen_reached
    {σ : Type} {a : Attempt σ} {next : σ → Attempt σ} {P : σ → Prop}
    (hfirst : P a.reached) (hnext : ∀ s, P s → P (next s).reached) :
    P (a.andThen next).reached := by
  cases a with
  | mk reached fault =>
      cases fault with
      | none => exact hnext reached hfirst
      | some fault => exact hfirst

/-! ## Hubs without a network -/

namespace Hub

theorem setRing_ringOf (h : Hub) (side : Side) : h.setRing side (h.ringOf side) = h := by
  cases side <;> rfl

theorem setRing_setRing (h : Hub) (side : Side) (first second : Ring) :
    (h.setRing side first).setRing side second = h.setRing side second := by
  cases side <;> rfl

theorem poll_of_holds {h : Hub} {side : Side} {datagram : ByteArray}
    {waiting : List ByteArray} (hholds : (h.ringOf side).Holds (datagram :: waiting)) :
    ∃ ring, h.poll side = (⟨some (.loopback, datagram), []⟩, h.setRing side ring) ∧
      ring.Holds waiting := by
  obtain ⟨ring, hpoll, hrest⟩ := pollRing_of_holds hholds
  refine ⟨ring, ?_, hrest⟩
  rw [poll, hpoll]

theorem poll_of_empty {h : Hub} {side : Side} (hholds : (h.ringOf side).Holds [])
    (hinbound : h.socket.inbound = []) :
    h.poll side = (⟨none, []⟩, h) := by
  rw [poll, pollRing_of_empty hholds]
  simp only [pollSocket, hinbound, pollInbound]
  rw [← hinbound]

theorem drain_of_none {h rest : Hub} {side : Side} {poll : Poll}
    (hpoll : h.poll side = (poll, rest)) (hnone : poll.found = none) :
    h.drain side = ([poll], rest) := by
  rw [drain]
  split
  next found left heq =>
    rw [hpoll] at heq
    cases heq
    rw [dif_neg (by simp [hnone])]

theorem drain_of_some {h rest : Hub} {side : Side} {poll : Poll}
    (hpoll : h.poll side = (poll, rest)) (hsome : poll.found.isSome = true) :
    h.drain side = (poll :: (rest.drain side).1, (rest.drain side).2) := by
  rw [drain]
  split
  next found left heq =>
    rw [hpoll] at heq
    cases heq
    rw [dif_pos hsome]

/-- Draining a loopback ring finds what the ring holds, and then nothing. -/
theorem drain_of_holds {h : Hub} {side : Side} {waiting : List ByteArray}
    (hholds : (h.ringOf side).Holds waiting) (hinbound : h.socket.inbound = []) :
    ∃ ring,
      h.drain side =
          ((waiting.map fun datagram => ⟨some (.loopback, datagram), []⟩) ++ [⟨none, []⟩],
            h.setRing side ring) ∧
        ring.Holds [] := by
  induction waiting generalizing h with
  | nil =>
      refine ⟨h.ringOf side, ?_, hholds⟩
      rw [setRing_ringOf]
      exact drain_of_none (poll_of_empty hholds hinbound) rfl
  | cons datagram waiting ih =>
      obtain ⟨ring, hpoll, hrest⟩ := poll_of_holds hholds
      have hleft : ((h.setRing side ring).ringOf side).Holds waiting := by
        rw [ringOf_setRing]
        exact hrest
      have hquiet : (h.setRing side ring).socket.inbound = [] := by
        rw [socket_setRing]
        exact hinbound
      obtain ⟨last, hdrain, hempty⟩ := ih hleft hquiet
      refine ⟨last, ?_, hempty⟩
      rw [drain_of_some hpoll rfl, hdrain, setRing_setRing]
      rfl

theorem flush_of_empty {h : Hub} (hdelayed : h.delayed = DelayLine.empty) (now : Instant) :
    h.flush now = (0, h) := by
  simp only [flush, hdelayed, DelayLine.release, DelayLine.empty, List.filter_nil,
    List.length_nil, List.foldl_nil]
  have hsame : h.delayed = ⟨[]⟩ := hdelayed
  rw [← hsame]

/-- Only what is in the two rings is under way. -/
structure Carries (h : Hub) (toServer toClient : List ByteArray) : Prop where
  toServer : (h.ringOf .server).Holds toServer
  toClient : (h.ringOf .client).Holds toClient
  inbound : h.socket.inbound = []
  delayed : h.delayed = DelayLine.empty

section
variable {h : Hub} {toServer toClient left : List ByteArray} {ring : Ring}

theorem carries_loopbackOnly (settings : Settings) :
    (loopbackOnly settings).Carries [] [] :=
  ⟨Ring.holds_empty, Ring.holds_empty, rfl, rfl⟩

theorem Carries.report (hcarries : h.Carries toServer toClient) (records : List Record) :
    (h.report records).Carries toServer toClient :=
  ⟨hcarries.toServer, hcarries.toClient, hcarries.inbound, hcarries.delayed⟩

theorem Carries.setRing_server (hcarries : h.Carries toServer toClient)
    (hring : ring.Holds left) :
    (h.setRing .server ring).Carries left toClient :=
  ⟨hring, hcarries.toClient, hcarries.inbound, hcarries.delayed⟩

theorem Carries.setRing_client (hcarries : h.Carries toServer toClient)
    (hring : ring.Holds left) :
    (h.setRing .client ring).Carries toServer left :=
  ⟨hcarries.toServer, hring, hcarries.inbound, hcarries.delayed⟩

theorem Carries.client_sent {after : Hub} (hcarries : h.Carries toServer toClient)
    (hsent : (after.ringOf .server).Holds left)
    (hkept : after.ringOf .client = h.ringOf .client) (hnetwork : h.SameNetwork after) :
    after.Carries left toClient where
  toServer := hsent
  toClient := by
    rw [hkept]
    exact hcarries.toClient
  inbound := by
    rw [hnetwork.socket]
    exact hcarries.inbound
  delayed := hnetwork.delayed.trans hcarries.delayed

theorem Carries.server_sent {after : Hub} (hcarries : h.Carries toServer toClient)
    (hsent : (after.ringOf .client).Holds left)
    (hkept : after.ringOf .server = h.ringOf .server) (hnetwork : h.SameNetwork after) :
    after.Carries toServer left where
  toServer := by
    rw [hkept]
    exact hcarries.toServer
  toClient := hsent
  inbound := by
    rw [hnetwork.socket]
    exact hcarries.inbound
  delayed := hnetwork.delayed.trans hcarries.delayed

end

end Hub

/-! ## Shares -/

theorem Channel.ship_idle
    {c : Channel} (hidle : c.isBusy = false) (h : Hub) (budget : Nat) (now : Instant) :
    c.ship h [] budget now = .done ⟨c, [], h, 0⟩ := by
  have hunsent : c.outgoing.unsent = none := by
    simpa [isBusy] using hidle
  have hpump : c.pump [] budget = .ok ⟨c, [], []⟩ := by
    cases budget with
    | zero => rfl
    | succ budget => simp only [pump, hunsent]
  simp only [ship, hpump, Hub.dispatchAll, Attempt.done]

/-- A channel sends its share over loopback: the datagrams line up in the other side's
ring, and less than the whole share is sent only when nothing is left. -/
theorem Channel.ship_loopback
    {c : Channel} (haligned : c.Aligned) (htarget : c.remote = .loopback) {h : Hub}
    {waiting : List ByteArray} (hholds : (h.ringOf c.side.peer).Holds waiting)
    {budget : Nat} (hroom : waiting.length + budget ≤ ringSize)
    (queue : List ByteArray) (now : Instant) :
    ∃ sent shipment,
      c.ship h queue budget now = .done shipment ∧
        c.Sending queue sent shipment.channel shipment.queue ∧
        (sent.length < budget → shipment.channel.isBusy = false ∧ shipment.queue = []) ∧
        (shipment.hub.ringOf c.side.peer).Holds (waiting ++ sent.map Dispatch.bytes) ∧
        shipment.hub.ringOf c.side = h.ringOf c.side ∧
        h.SameNetwork shipment.hub := by
  obtain ⟨pumped, hpump, hsending, hshare, hstop⟩ := Channel.pump_spec haligned queue budget
  have haddressed : ∀ d ∈ pumped.dispatches, d.side = c.side ∧ d.target = .loopback := by
    intro d hd
    rw [← htarget]
    exact hsending.addressed d hd
  obtain ⟨hub, hdispatch, hsent, hkept, hnetwork⟩ :=
    Hub.dispatchAll_loopback hholds haddressed (by omega) now
  refine ⟨pumped.dispatches,
    ⟨pumped.channel, pumped.queue, hub, pumped.dispatches.length⟩, ?_, hsending, hstop,
    hsent, hkept, hnetwork⟩
  simp only [ship, hpump, hdispatch, Attempt.done]

/-! ## A server's loop -/

namespace Server

theorem receiveAll_of_none
    {s : Server} {h rest : Hub} {records : List Record} {now : Instant}
    (hpoll : h.poll .server = (⟨none, records⟩, rest)) :
    s.receiveAll h now = .done (s, rest.report records) := by
  rw [receiveAll]
  split
  · next heq =>
      rw [hpoll] at heq
      cases heq
      rfl
  · next heq =>
      rw [hpoll] at heq
      cases heq

theorem receiveAll_of_some
    {s served : Server} {h rest left : Hub} {source : Address} {datagram : ByteArray}
    {records : List Record} {now : Instant}
    (hpoll : h.poll .server = (⟨some (source, datagram), records⟩, rest))
    (hserve : s.serveDatagram (rest.report records) source datagram now =
      .done (served, left)) :
    s.receiveAll h now = served.receiveAll left now := by
  rw [receiveAll]
  split
  · next heq =>
      rw [hpoll] at heq
      cases heq
  · next heq =>
      rw [hpoll] at heq
      cases heq
      split
      · next hstop =>
          rw [hserve] at hstop
          cases hstop
      · next hdone =>
          rw [hserve] at hdone
          cases hdone
          rfl

theorem receiveAll_of_stopped
    {s : Server} {h rest : Hub} {source : Address} {datagram : ByteArray}
    {records : List Record} {now : Instant} {reached : Server × Hub} {fault : Fault}
    (hpoll : h.poll .server = (⟨some (source, datagram), records⟩, rest))
    (hserve : s.serveDatagram (rest.report records) source datagram now =
      .stopped reached fault) :
    s.receiveAll h now = .stopped reached fault := by
  rw [receiveAll]
  split
  · next heq =>
      rw [hpoll] at heq
      cases heq
  · next heq =>
      rw [hpoll] at heq
      cases heq
      split
      · next hstop =>
          rw [hserve] at hstop
          cases hstop
          rfl
      · next hdone =>
          rw [hserve] at hdone
          cases hdone

/-- What handling one datagram keeps, handling all that wait keeps. -/
theorem receiveAll_reached {P : Server × Hub → Prop} {now : Instant}
    (hdone : ∀ {s : Server} {h rest : Hub} {records : List Record}, P (s, h) →
      h.poll .server = (⟨none, records⟩, rest) → P (s, rest.report records))
    (hserve : ∀ {s : Server} {h rest : Hub} {source : Address} {datagram : ByteArray}
      {records : List Record}, P (s, h) →
      h.poll .server = (⟨some (source, datagram), records⟩, rest) →
      P (s.serveDatagram (rest.report records) source datagram now).reached)
    {s : Server} {h : Hub} (hstart : P (s, h)) :
    P (s.receiveAll h now).reached := by
  induction hwaiting : h.waiting .server using Nat.strong_induction_on generalizing s h with
  | _ waiting ih =>
      cases hpoll : h.poll .server with
      | mk poll rest =>
          obtain ⟨found, records⟩ := poll
          cases found with
          | none =>
              rw [receiveAll_of_none hpoll]
              exact hdone hstart hpoll
          | some found =>
              obtain ⟨source, datagram⟩ := found
              have hserved := hserve hstart hpoll
              cases hstep : s.serveDatagram (rest.report records) source datagram now with
              | mk reached fault =>
                  rw [hstep] at hserved
                  cases fault with
                  | some fault =>
                      rw [receiveAll_of_stopped hpoll hstep]
                      exact hserved
                  | none =>
                      obtain ⟨served, left⟩ := reached
                      have hless := waiting_served_lt hpoll hstep
                      rw [receiveAll_of_some hpoll hstep]
                      exact ih _ (hwaiting ▸ hless) hserved rfl

/-- A frame of a server up to the point where it looks for silent clients. -/
def work (s : Server) (h : Hub) (now : Instant) : Attempt (Server × Hub) :=
  (s.receiveAll h now).andThen fun (s, h) => s.pump h now

def silent (s : Server) (h : Hub) (now : Instant) (checked : Nat → Instant) : List Nat :=
  (s.work h now).reached.1.roster.timedOut s.clientTimeout checked

theorem dropSilent_of_none
    {s : Server} {checked : Nat → Instant}
    (hpatient : s.roster.timedOut s.clientTimeout checked = []) (h : Hub) :
    s.dropSilent h checked = (s, h.report []) := by
  have hkept : s.roster.peers.filter (!·.isOverdue s.clientTimeout checked) =
      s.roster.peers := by
    rw [List.filter_eq_self]
    intro peer hpeer
    have hnone := List.map_eq_nil_iff.mp hpatient
    rw [List.filter_eq_nil_iff] at hnone
    simpa using hnone peer hpeer
  simp only [dropSilent, Roster.removeTimedOut, hpatient, hkept, List.map_nil,
    List.append_nil]

theorem tick_of_work
    {s after : Server} {h hub : Hub} {now : Instant} {checked : Nat → Instant}
    (hwork : s.work h now = .done (after, hub))
    (htimeout : after.clientTimeout = s.clientTimeout) (hpatient : s.silent h now checked = [])
    (hdelayed : hub.delayed = DelayLine.empty) :
    s.tick h now checked = .done (after, hub.report []) := by
  have hframe : s.tick h now checked =
      (s.work h now).andThen fun (s, h) =>
        match s.dropSilent h checked with
        | (s, h) => .done (s, (h.flush now).2) := rfl
  have hnone : after.roster.timedOut after.clientTimeout checked = [] := by
    rw [silent, hwork, ← htimeout] at hpatient
    exact hpatient
  have hquiet : (hub.report []).delayed = DelayLine.empty := hdelayed
  rw [hframe, hwork, Attempt.done_andThen]
  simp only [dropSilent_of_none hnone, Hub.flush_of_empty hquiet]

end Server
end DatagramLink
