import DatagramLink.Proofs.MachineLimits

/-!
# What a hub counts

A hub that neither loses nor delays on purpose never stops at a fault.  What it counts are the
writes to its rings and the reads from them.  No read is ahead of the writes, and the number of
writes only grows, so whatever is counted on the way to a state is bounded by the writes of
that state.

All that a side was given was read from its ring, or it arrived at the socket.
-/

namespace DatagramLink

/-- Nothing is lost or delayed on purpose. -/
structure Settings.Direct (s : Settings) : Prop where
  lossless : s.simulatesLoss = false
  undelayed : ∀ side, s.simulatesLatency side = false

def Arrival.isDatagram : Arrival → Bool
  | .datagram _ _ => true
  | .failure _ => false

namespace Ring

theorem behind_pop {r ring : Ring} {bytes : ByteArray} (hpop : r.pop = (some bytes, ring)) :
    ring.sent = r.sent ∧ r.taken < ring.taken ∧ ring.taken ≤ ring.sent := by
  unfold pop at hpop
  split at hpop
  · next hless =>
      cases hpop
      exact ⟨rfl, Nat.lt_succ_of_le (Nat.le_max_left _ _), hless⟩
  · cases hpop

theorem behind_pops {r : Ring} (hbehind : r.taken ≤ r.sent) (count : Nat) :
    (r.pops count).2.sent = r.sent ∧ (r.pops count).2.taken ≤ (r.pops count).2.sent := by
  induction count generalizing r with
  | zero => exact ⟨rfl, hbehind⟩
  | succ count ih =>
      cases hpop : r.pop with
      | mk found ring =>
          have hring : ring.sent = r.sent ∧ ring.taken ≤ ring.sent := by
            cases found with
            | none =>
                rw [eq_of_pop_eq_none hpop]
                exact ⟨rfl, hbehind⟩
            | some bytes =>
                obtain ⟨hsent, -, hstill⟩ := behind_pop hpop
                exact ⟨hsent, hstill⟩
          obtain ⟨hsent, hstill⟩ := ih hring.2
          simp only [pops, hpop]
          exact ⟨hsent.trans hring.1, hstill⟩

theorem oldest_le {r : Ring} (hbehind : r.taken ≤ r.sent) : r.oldest ≤ r.sent :=
  Nat.max_le.mpr ⟨hbehind, Nat.sub_le _ _⟩

end Ring

namespace Hub

/-- How many datagrams were written to the rings of a hub. -/
def traffic (h : Hub) : Nat := h.toClient.sent + h.toServer.sent

theorem sent_le_traffic (h : Hub) (side : Side) : (h.ringOf side).sent ≤ h.traffic := by
  cases side with
  | client => exact Nat.le_add_right _ _
  | server => exact Nat.le_add_left _ _

theorem traffic_setRing (h : Hub) (side : Side) (ring : Ring) :
    (h.setRing side ring).traffic + (h.ringOf side).sent = h.traffic + ring.sent := by
  cases side with
  | client =>
      simp only [traffic, setRing, ringOf]
      omega
  | server =>
      simp only [traffic, setRing, ringOf]
      omega

variable {side : Side} {h : Hub}

/-! ## Sending -/

theorem Emits.traffic_le {g : Hub} (hemits : Emits side h g) : h.traffic ≤ g.traffic := by
  induction hemits with
  | nothing => exact Nat.le_refl _
  | report records _ ih => exact ih
  | roll dice _ ih => exact ih
  | @push g bytes _ ih =>
      have hmore := g.traffic_setRing side.peer ((g.ringOf side.peer).push bytes)
      simp only [Ring.push] at hmore
      simp only [Ring.push]
      omega
  | hold delayed _ ih => exact ih
  | offer d _ ih => exact ih

theorem fault_send (hdirect : h.settings.Direct) (side : Side) (bytes : ByteArray)
    (target : Address) (now : Instant) :
    (h.send side bytes target now).fault = none := by
  have hsettings : (h.reportIf h.settings.showPackets
      (.info s!"{side} send {bytes.size} bytes to {target}")).settings = h.settings := by
    unfold reportIf
    split <;> rfl
  unfold send
  cases target with
  | loopback => rfl
  | remote endpoint =>
      simp only [sendRemote, rollLoss, hsettings, hdirect.lossless, hdirect.undelayed side,
        Bool.false_eq_true, if_false]
      rfl

theorem send_fits (hdirect : h.settings.Direct) {bytes : ByteArray} {target : Address}
    {now : Instant}
    (hfew : (h.send side bytes target now).reached.traffic < wordLimit) :
    h.SendFits now side bytes target := by
  refine ⟨fun htarget => ?_, fault_send hdirect side bytes target now⟩
  subst htarget
  obtain ⟨after, hsend, hpushed, -⟩ := h.send_loopback side bytes now
  rw [hsend] at hfew
  have hsent := after.sent_le_traffic side.peer
  rw [hpushed] at hsent
  exact Nat.lt_of_le_of_lt hsent hfew

theorem dispatchAll_cons (hdirect : h.settings.Direct) (d : Dispatch) (sent : List Dispatch)
    (now : Instant) :
    h.dispatchAll (d :: sent) now =
      ((h.dispatch d now).reached.dispatchAll sent now).map fun x => (x.1 + 1, x.2) := by
  have hdone : (h.dispatch d now).fault = none :=
    fault_send (h := h.report [d.note]) hdirect d.side d.bytes d.target now
  exact dispatchAll_cons_of_done hdone sent

theorem direct_dispatch (hdirect : h.settings.Direct) (d : Dispatch) (now : Instant) :
    (h.dispatch d now).reached.settings.Direct := by
  have hfirst : Emits d.side (h.report [d.note]) (h.dispatch d now).reached :=
    emits_send (h.report [d.note]) d.side d.bytes d.target now
  rw [hfirst.sameInbound.settings]
  exact hdirect

theorem fault_dispatchAll (hdirect : h.settings.Direct) (sent : List Dispatch)
    (now : Instant) :
    (h.dispatchAll sent now).fault = none := by
  induction sent generalizing h with
  | nil => rfl
  | cons d sent ih =>
      have hrest := ih (direct_dispatch hdirect d now)
      rw [dispatchAll_cons hdirect]
      exact hrest

theorem dispatch_fits (hdirect : h.settings.Direct) {sent : List Dispatch} {now : Instant}
    (hside : ∀ d ∈ sent, d.side = side)
    (hfew : (h.dispatchAll sent now).reached.2.traffic < wordLimit) :
    h.DispatchFits now sent := by
  induction sent generalizing h with
  | nil => exact .nothing
  | cons d sent ih =>
      have hlater : ∀ e ∈ sent, e.side = side := fun e he => hside e (List.mem_cons_of_mem _ he)
      rw [dispatchAll_cons hdirect] at hfew
      have hgrown := (emits_dispatchAll hlater (h.dispatch d now).reached now).traffic_le
      have hsend : (h.report [d.note]).SendFits now d.side d.bytes d.target := by
        refine send_fits (h := h.report [d.note]) hdirect ?_
        rw [dispatch] at hgrown
        exact Nat.lt_of_le_of_lt hgrown hfew
      exact .next hsend (ih (direct_dispatch hdirect d now) hlater hfew)

/-! ## Reading -/

/-- A hub of which a side was given `heard` datagrams, while `arrived` came to the socket. -/
structure Fed (side : Side) (arrived heard : Nat) (h : Hub) : Prop where
  direct : h.settings.Direct
  behind : ∀ reader, (h.ringOf reader).taken ≤ (h.ringOf reader).sent
  heard : heard + h.socket.inbound.countP Arrival.isDatagram ≤
    arrived + (h.ringOf side).taken

variable {arrived heard : Nat}

theorem Fed.heard_le (hfed : h.Fed side arrived heard) : heard ≤ arrived + h.traffic := by
  have hheard := hfed.heard
  have hbehind := hfed.behind side
  have hsent := h.sent_le_traffic side
  omega

theorem Emits.behind {g : Hub} (hemits : Emits side h g)
    (hbehind : ∀ reader, (h.ringOf reader).taken ≤ (h.ringOf reader).sent) :
    ∀ reader, (g.ringOf reader).taken ≤ (g.ringOf reader).sent := by
  induction hemits with
  | nothing => exact hbehind
  | report records _ ih => exact ih
  | roll dice _ ih => exact ih
  | push bytes _ ih =>
      have hpushed := Nat.le_succ_of_le (ih side.peer)
      intro reader
      cases side <;> cases reader
      · exact ih .client
      · exact hpushed
      · exact hpushed
      · exact ih .server
  | hold delayed _ ih => exact ih
  | offer d _ ih => exact ih

/-- Sending gives the side nothing. -/
theorem Fed.emits {g : Hub} (hfed : h.Fed side arrived heard) (hemits : Emits side h g) :
    g.Fed side arrived heard := by
  have hsame := hemits.sameInbound
  refine ⟨?_, hemits.behind hfed.behind, ?_⟩
  · rw [hsame.settings]
    exact hfed.direct
  · rw [hsame.ring, hsame.inbound]
    exact hfed.heard

theorem countP_pollInbound (settings : Settings) (side : Side) (inbound : List Arrival) :
    (pollInbound settings side inbound).1.found.toList.length +
        (pollInbound settings side inbound).2.countP Arrival.isDatagram ≤
      inbound.countP Arrival.isDatagram := by
  induction inbound with
  | nil => exact Nat.le_refl _
  | cons arrival rest ih =>
      cases arrival with
      | failure reason => simp [pollInbound, Arrival.isDatagram]
      | datagram bytes source =>
          have hone : (Arrival.datagram bytes source :: rest).countP Arrival.isDatagram =
              rest.countP Arrival.isDatagram + 1 :=
            List.countP_cons_of_pos rfl
          rw [hone]
          by_cases hfull : receiveBufferSize ≤ (received bytes).size
          · simp only [pollInbound, if_pos hfull]
            exact Nat.le_succ_of_le ih
          · simp only [pollInbound, if_neg hfull, Option.toList_some, List.length_singleton]
            omega

theorem settings_poll (h : Hub) (side : Side) : (h.poll side).2.settings = h.settings := by
  cases hunread : (h.ringOf side).unread with
  | nil => rw [poll_of_no_unread hunread, pollSocket]
  | cons bytes later =>
      obtain ⟨ring, -, -, hpoll⟩ := poll_of_unread hunread
      rw [hpoll]
      exact h.settings_setRing side ring

theorem Fed.poll (hfed : h.Fed side arrived heard) :
    (h.poll side).2.Fed side arrived (heard + (h.poll side).1.found.toList.length) ∧
      (h.poll side).2.traffic = h.traffic := by
  have hheard := hfed.heard
  cases hunread : (h.ringOf side).unread with
  | nil =>
      have hcount : (h.pollSocket side).1.found.toList.length +
          (h.pollSocket side).2.socket.inbound.countP Arrival.isDatagram ≤
            h.socket.inbound.countP Arrival.isDatagram :=
        countP_pollInbound h.settings side h.socket.inbound
      rw [poll_of_no_unread hunread]
      refine ⟨⟨hfed.direct, fun reader => ?_, ?_⟩, rfl⟩
      · rw [ringOf_pollSocket]
        exact hfed.behind reader
      · rw [ringOf_pollSocket]
        omega
  | cons bytes later =>
      obtain ⟨ring, hpop, -, hpoll⟩ := poll_of_unread hunread
      obtain ⟨hsent, hmore, hbehind⟩ := Ring.behind_pop hpop
      have hsame : (h.setRing side ring).traffic = h.traffic := by
        have hmoved := h.traffic_setRing side ring
        omega
      rw [hpoll]
      refine ⟨⟨?_, fun reader => ?_, ?_⟩, hsame⟩
      · rw [settings_setRing]
        exact hfed.direct
      · have hother := hfed.behind reader
        cases side <;> cases reader <;> first | exact hbehind | exact hother
      · rw [socket_setRing, ringOf_setRing]
        simp only [Option.toList_some, List.length_singleton]
        omega

theorem Fed.poll_fits (hfed : h.Fed side arrived heard) (hfew : h.traffic + 1 < wordLimit) :
    h.PollFits side := by
  have hbehind := hfed.behind side
  have holdest := Ring.oldest_le hbehind
  have hsent := h.sent_le_traffic side
  refine ⟨⟨hbehind, by omega⟩, fun endpoint bytes hfound => ?_⟩
  cases hunread : (h.ringOf side).unread with
  | nil =>
      rw [poll_of_no_unread hunread] at hfound
      exact Nat.le_of_lt (size_lt_of_pollInbound hfound)
  | cons first later =>
      obtain ⟨ring, -, -, hpoll⟩ := poll_of_unread hunread
      rw [hpoll] at hfound
      cases hfound

/-! ## Incidents -/

/-- How many datagrams come to the socket. -/
def Incident.arrivals : Incident → Nat
  | .arrive (.remote _) _ => 1
  | _ => 0

theorem Fed.deliver (hfed : h.Fed side arrived heard) (arrivals : List Arrival) :
    (h.deliver arrivals).Fed side (arrived + arrivals.countP Arrival.isDatagram) heard := by
  have hheard := hfed.heard
  have hrings : ∀ reader, (h.deliver arrivals).ringOf reader = h.ringOf reader := by
    intro reader
    cases reader <;> rfl
  refine ⟨hfed.direct, fun reader => ?_, ?_⟩
  · rw [hrings reader]
    exact hfed.behind reader
  · rw [hrings side]
    simp only [Hub.deliver, Socket.deliver]
    split
    · simp only [List.countP_append]
      omega
    · omega

theorem Fed.meet (hfed : h.Fed side arrived heard) (incident : Incident) :
    (h.meet side incident).Fed side (arrived + incident.arrivals) heard ∧
      h.traffic ≤ (h.meet side incident).traffic := by
  have hheard := hfed.heard
  cases incident with
  | arrive source bytes =>
      cases source with
      | remote endpoint => exact ⟨hfed.deliver [.datagram bytes endpoint], Nat.le_refl _⟩
      | loopback =>
          have hpushed := Nat.le_succ_of_le (hfed.behind side)
          have hmore := h.traffic_setRing side ((h.ringOf side).push bytes)
          simp only [Ring.push] at hmore
          simp only [Hub.meet, Ring.push]
          refine ⟨⟨?_, fun reader => ?_, ?_⟩, by omega⟩
          · rw [settings_setRing]
            exact hfed.direct
          · have hother := hfed.behind reader
            cases side <;> cases reader <;> first | exact hpushed | exact hother
          · rw [socket_setRing, ringOf_setRing]
            exact hheard
  | failReceive reason => exact ⟨hfed.deliver [.failure reason], Nat.le_refl _⟩
  | collect =>
      obtain ⟨hsent, hbehind⟩ :=
        Ring.behind_pops (hfed.behind side.peer) (h.ringOf side.peer).length
      have hsame := h.traffic_setRing side.peer
        ((h.ringOf side.peer).pops (h.ringOf side.peer).length).2
      simp only [Hub.meet, takeRing]
      refine ⟨⟨?_, fun reader => ?_, ?_⟩, by omega⟩
      · rw [settings_setRing]
        exact hfed.direct
      · have hother := hfed.behind reader
        cases side <;> cases reader <;> first | exact hbehind | exact hother
      · rw [socket_setRing, ringOf_setRing_peer]
        exact hheard

end Hub
end DatagramLink
