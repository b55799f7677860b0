import DatagramLink.Proofs.FrameLoops
import DatagramLink.Proofs.NetworkTraffic

/-!
# What sending leaves alone, and what polling takes

Whatever a side hands to its hub comes down to a few steps (`Hub.Emits`): what every one of
them leaves alone, all sending leaves alone.  So a side's own sending does not touch what
waits for it, its ring and what the socket will give.  A poll takes that in one order, the
ring first, then the socket.
-/

namespace DatagramLink
namespace Hub

/-! ## Sending -/

/-- What the sending of a side can do to a hub. -/
inductive Emits (side : Side) (h : Hub) : Hub → Prop
  | nothing : Emits side h h
  | report {g : Hub} (records : List Record) (hemits : Emits side h g) :
      Emits side h (g.report records)
  | roll {g : Hub} (dice : Dice) (hemits : Emits side h g) : Emits side h { g with dice }
  | push {g : Hub} (bytes : ByteArray) (hemits : Emits side h g) :
      Emits side h (g.setRing side.peer ((g.ringOf side.peer).push bytes))
  | hold {g : Hub} (delayed : DelayLine) (hemits : Emits side h g) :
      Emits side h { g with delayed }
  | offer {g : Hub} (d : Datagram) (hemits : Emits side h g) :
      Emits side h { g with socket := (g.socket.send d).2 }

variable {side : Side} {h : Hub}

namespace Emits

theorem trans {g k : Hub} (hfirst : Emits side h g) (hsecond : Emits side g k) :
    Emits side h k := by
  induction hsecond with
  | nothing => exact hfirst
  | report records _ ih => exact .report records ih
  | roll dice _ ih => exact .roll dice ih
  | push bytes _ ih => exact .push bytes ih
  | hold delayed _ ih => exact .hold delayed ih
  | offer d _ ih => exact .offer d ih

end Emits

theorem emits_reportIf (side : Side) (h : Hub) (shown : Bool) (record : Record) :
    Emits side h (h.reportIf shown record) := by
  unfold reportIf
  split
  · exact .report _ .nothing
  · exact .nothing

theorem emits_rollLoss (side : Side) (h : Hub) : Emits side h h.rollLoss.2 := by
  unfold rollLoss
  split
  · exact .roll _ .nothing
  · exact .nothing

theorem emits_rollDelay (side : Side) (h : Hub) (sender : Side) :
    Emits side h (h.rollDelay sender).2 := by
  unfold rollDelay
  split
  · exact .roll _ .nothing
  · exact .nothing

theorem emits_offer (side : Side) (h : Hub) (d : Datagram) (attempt : String) :
    Emits side h (h.offer d attempt) := by
  unfold offer
  split
  · next socket heq =>
      have hoffer : socket = (h.socket.send d).2 := by rw [heq]
      rw [hoffer]
      exact .offer d .nothing
  · next reason socket heq =>
      have hoffer : socket = (h.socket.send d).2 := by rw [heq]
      rw [hoffer]
      exact .report _ (.offer d .nothing)

theorem emits_hold (side : Side) (h : Hub) (sender : Side) (d : Datagram) (now : Instant) :
    Emits side h (h.hold sender d now).reached := by
  have hroll := h.emits_rollDelay side sender
  unfold hold
  split <;> rename_i heq <;> rw [heq] at hroll
  · exact .hold _ hroll
  · exact hroll

theorem emits_sendRemote (side : Side) (h : Hub) (sender : Side) (d : Datagram)
    (now : Instant) :
    Emits side h (h.sendRemote sender d now).reached := by
  have hloss := h.emits_rollLoss side
  unfold sendRemote
  split
  · next lost heq =>
      rw [heq] at hloss
      exact hloss.trans (emits_reportIf side lost _ _)
  · next kept heq =>
      rw [heq] at hloss
      refine hloss.trans ?_
      split
      · exact emits_hold side kept sender d now
      · exact emits_offer side kept d _

theorem emits_send (h : Hub) (side : Side) (bytes : ByteArray) (target : Address)
    (now : Instant) :
    Emits side h (h.send side bytes target now).reached := by
  unfold send
  refine (h.emits_reportIf side h.settings.showPackets
    (.info s!"{side} send {bytes.size} bytes to {target}")).trans ?_
  cases target with
  | loopback => exact .push bytes .nothing
  | remote endpoint => exact emits_sendRemote side _ side ⟨bytes, endpoint⟩ now

theorem dispatchAll_cons_of_done {d : Dispatch} {now : Instant}
    (hdone : (h.dispatch d now).fault = none) (sent : List Dispatch) :
    h.dispatchAll (d :: sent) now =
      ((h.dispatch d now).reached.dispatchAll sent now).map fun x => (x.1 + 1, x.2) := by
  rw [dispatchAll, Attempt.eq_done hdone]
  rfl

theorem emits_dispatchAll {sent : List Dispatch} (hside : ∀ d ∈ sent, d.side = side)
    (h : Hub) (now : Instant) :
    Emits side h (h.dispatchAll sent now).reached.2 := by
  induction sent generalizing h with
  | nil => exact .nothing
  | cons d sent ih =>
      have hfirst : Emits side h (h.dispatch d now).reached := by
        have hsend := emits_send (h.report [d.note]) d.side d.bytes d.target now
        rw [hside d List.mem_cons_self] at hsend
        rw [dispatch, hside d List.mem_cons_self]
        exact (Emits.report [d.note] .nothing).trans hsend
      unfold dispatchAll
      split
      · next between fault heq =>
          rw [heq] at hfirst
          exact hfirst
      · next between heq =>
          rw [heq] at hfirst
          exact hfirst.trans (ih (fun e he => hside e (List.mem_cons_of_mem _ he)) between)

theorem emits_flush (side : Side) (h : Hub) (now : Instant) :
    Emits side h (h.flush now).2 := by
  have hfold : ∀ (due : List Held) (g : Hub), Emits side g
      (due.foldl (fun h x => h.offer x.datagram "flush delayed packet") g) := by
    intro due
    induction due with
    | nil => exact fun g => .nothing
    | cons x due ih => exact fun g => (g.emits_offer side x.datagram _).trans (ih _)
  exact (Emits.hold (h.delayed.release now).2 .nothing).trans (hfold _ _)

/-- What waits for a side, and how it is received, is as it was. -/
structure SameInbound (side : Side) (before after : Hub) : Prop where
  ring : after.ringOf side = before.ringOf side
  inbound : after.socket.inbound = before.socket.inbound
  settings : after.settings = before.settings

/-- A side never sends to itself, not even over loopback. -/
theorem Emits.sameInbound {g : Hub} (hemits : Emits side h g) : SameInbound side h g := by
  induction hemits with
  | nothing => exact ⟨rfl, rfl, rfl⟩
  | report records _ ih => exact ⟨(ringOf_report _ _ side).trans ih.ring, ih.inbound, ih.settings⟩
  | roll dice _ ih => cases side <;> exact ⟨ih.ring, ih.inbound, ih.settings⟩
  | push bytes _ ih => cases side <;> exact ⟨ih.ring, ih.inbound, ih.settings⟩
  | hold delayed _ ih => cases side <;> exact ⟨ih.ring, ih.inbound, ih.settings⟩
  | offer d _ ih => cases side <;> exact ⟨ih.ring, ih.inbound, ih.settings⟩

theorem SameInbound.waiting_eq {before after : Hub} (hsame : SameInbound side before after) :
    after.waiting side = before.waiting side := by
  rw [waiting, waiting, hsame.ring, hsame.inbound]

/-! ## Polling -/

/-- The ring comes first. -/
theorem poll_of_unread {bytes : ByteArray} {later : List ByteArray}
    (hunread : (h.ringOf side).unread = bytes :: later) :
    ∃ ring, (h.ringOf side).pop = (some bytes, ring) ∧ ring.unread = later ∧
      h.poll side = (⟨some (.loopback, bytes), []⟩, h.setRing side ring) := by
  cases hpop : (h.ringOf side).pop with
  | mk found ring =>
      cases found with
      | none =>
          -- a ring with something unread has something to pop
          have hlength : 0 < (h.ringOf side).length := by
            rw [← Ring.length_unread, hunread, List.length_cons]
            omega
          rw [Ring.pop, if_pos (by rw [Ring.length] at hlength; omega)] at hpop
          cases hpop
      | some first =>
          have hfirst := Ring.unread_of_pop hpop
          rw [hunread, List.cons.injEq] at hfirst
          obtain ⟨rfl, hlater⟩ := hfirst
          exact ⟨ring, rfl, hlater.symm, by rw [poll, pollRing, hpop]⟩

theorem poll_of_no_unread (hunread : (h.ringOf side).unread = []) :
    h.poll side = h.pollSocket side := by
  rw [poll, pollRing, Ring.pop_of_unread_eq_nil hunread]
  simp only [setRing_ringOf]

/-- What a socket gives never fills the buffer. -/
theorem size_lt_of_pollInbound {settings : Settings} {inbound : List Arrival}
    {source : Address} {bytes : ByteArray}
    (hfound : (pollInbound settings side inbound).1.found = some (source, bytes)) :
    bytes.size < receiveBufferSize := by
  induction inbound with
  | nil => cases hfound
  | cons arrival inbound ih =>
      cases arrival with
      | failure reason => cases hfound
      | datagram arrived endpoint =>
          by_cases hfull : receiveBufferSize ≤ (received arrived).size
          · simp only [pollInbound, if_pos hfull] at hfound
            exact ih hfound
          · simp only [pollInbound, if_neg hfull] at hfound
            cases hfound
            exact Nat.not_le.mp hfull

theorem waiting_poll_le (h : Hub) (side : Side) :
    (h.poll side).2.waiting side ≤ h.waiting side := by
  cases hunread : (h.ringOf side).unread with
  | nil =>
      have hlength := length_pollInbound h.settings side h.socket.inbound
      rw [poll_of_no_unread hunread, waiting, waiting, ringOf_pollSocket]
      exact Nat.add_le_add_left ((Nat.le_add_right _ _).trans hlength) _
  | cons first later =>
      obtain ⟨ring, -, -, hpoll⟩ := poll_of_unread hunread
      exact Nat.le_of_lt (h.waiting_poll side (by rw [hpoll]; rfl))

/-- A poll adds nothing to a ring, and what it finds was in the ring or came whole from the
socket. -/
theorem poll_spec (h : Hub) (side : Side) :
    ((h.poll side).2.ringOf side).unread ⊆ (h.ringOf side).unread ∧
      ∀ source bytes, (h.poll side).1.found = some (source, bytes) →
        bytes ∈ (h.ringOf side).unread ∨ bytes.size < receiveBufferSize := by
  cases hunread : (h.ringOf side).unread with
  | nil =>
      rw [poll_of_no_unread hunread, ringOf_pollSocket, hunread]
      exact ⟨List.Subset.refl _, fun source bytes hfound =>
        Or.inr (size_lt_of_pollInbound hfound)⟩
  | cons first later =>
      obtain ⟨ring, -, hlater, hpoll⟩ := poll_of_unread hunread
      rw [hpoll, ringOf_setRing, hlater]
      refine ⟨List.subset_cons_self _ _, fun source bytes hfound => Or.inl ?_⟩
      cases hfound
      exact List.mem_cons_self

/-! ## Draining -/

/-- What polls of a socket find until one finds nothing. -/
def arriving : List Arrival → List (Address × ByteArray)
  | [] => []
  | .failure _ :: _ => []
  | .datagram bytes source :: rest =>
      if receiveBufferSize ≤ (received bytes).size then
        arriving rest
      else
        (.remote source, received bytes) :: arriving rest

/-- What these polls leave. -/
def leftover : List Arrival → List Arrival
  | [] => []
  | .failure _ :: rest => rest
  | .datagram _ _ :: rest => leftover rest

theorem arriving_of_found {settings : Settings} {inbound : List Arrival}
    {found : Address × ByteArray}
    (hfound : (pollInbound settings side inbound).1.found = some found) :
    arriving inbound = found :: arriving (pollInbound settings side inbound).2 ∧
      leftover inbound = leftover (pollInbound settings side inbound).2 := by
  induction inbound with
  | nil => cases hfound
  | cons arrival inbound ih =>
      cases arrival with
      | failure reason => cases hfound
      | datagram bytes source =>
          by_cases hfull : receiveBufferSize ≤ (received bytes).size
          · simp only [pollInbound, arriving, leftover, if_pos hfull] at hfound ⊢
            exact ih hfound
          · simp only [pollInbound, arriving, leftover, if_neg hfull] at hfound ⊢
            cases hfound
            simp only [and_self]

theorem arriving_of_not_found {settings : Settings} {inbound : List Arrival}
    (hfound : (pollInbound settings side inbound).1.found = none) :
    arriving inbound = [] ∧ (pollInbound settings side inbound).2 = leftover inbound := by
  induction inbound with
  | nil => exact ⟨rfl, rfl⟩
  | cons arrival inbound ih =>
      cases arrival with
      | failure reason => exact ⟨rfl, rfl⟩
      | datagram bytes source =>
          by_cases hfull : receiveBufferSize ≤ (received bytes).size
          · simp only [pollInbound, arriving, leftover, if_pos hfull] at hfound ⊢
            exact ih hfound
          · simp only [pollInbound, if_neg hfull] at hfound
            cases hfound

/-- What waits for a side, in the order in which it is found. -/
def waitingFor (h : Hub) (side : Side) : List (Address × ByteArray) :=
  (h.ringOf side).unread.map (.loopback, ·) ++ arriving h.socket.inbound

/-- The hub when all that waited for a side is found. -/
def drained (h : Hub) (side : Side) : Hub :=
  { h.setRing side ((h.ringOf side).pops (h.ringOf side).length).2 with
    socket := { h.socket with inbound := leftover h.socket.inbound } }

theorem drained_of_no_unread (hunread : (h.ringOf side).unread = []) :
    h.drained side =
      { h with socket := { h.socket with inbound := leftover h.socket.inbound } } := by
  have hlength : (h.ringOf side).length = 0 := by
    rw [← Ring.length_unread, hunread, List.length_nil]
  have hself : h.setRing side ((h.ringOf side).pops (h.ringOf side).length).2 = h := by
    rw [hlength]
    exact setRing_ringOf h side
  rw [drained, hself]

theorem drain_spec (h : Hub) (side : Side) :
    (h.drain side).1.filterMap Poll.found = h.waitingFor side ∧
      (h.drain side).2 = h.drained side := by
  induction hwaiting : h.waiting side using Nat.strong_induction_on generalizing h with
  | _ waiting ih =>
      cases hunread : (h.ringOf side).unread with
      | cons first later =>
          obtain ⟨ring, hpop, hlater, hpoll⟩ := poll_of_unread hunread
          have hless := h.waiting_poll side (by rw [hpoll]; rfl)
          rw [hpoll, hwaiting] at hless
          obtain ⟨hfound, hrest⟩ := ih _ hless _ rfl
          have hlength := Ring.length_pop hpop
          rw [drain_of_some hpoll rfl]
          constructor
          · simp only [List.filterMap_cons, hfound]
            simp only [waitingFor, hunread, ringOf_setRing, socket_setRing, hlater,
              List.map_cons, List.cons_append]
          · have hpops : ((h.ringOf side).pops (h.ringOf side).length).2 =
                (ring.pops ring.length).2 := by
              rw [← hlength, Ring.pops, hpop]
            simp only [hrest]
            simp only [drained, ringOf_setRing, socket_setRing, setRing_setRing, hpops]
      | nil =>
          have hpoll := poll_of_no_unread hunread
          rw [drained_of_no_unread hunread, waitingFor, hunread, List.map_nil, List.nil_append]
          cases hfound : (h.pollSocket side).1.found with
          | none =>
              obtain ⟨hnone, hleft⟩ := arriving_of_not_found hfound
              rw [drain_of_none hpoll hfound, hnone, ← hleft]
              exact ⟨congrArg Option.toList hfound, rfl⟩
          | some found =>
              obtain ⟨hsome, hleft⟩ := arriving_of_found hfound
              have hless := h.waiting_pollSocket side (Option.isSome_of_eq_some hfound)
              rw [hwaiting] at hless
              obtain ⟨hlater, hrest⟩ := ih _ hless _ rfl
              rw [waitingFor, ringOf_pollSocket, hunread, List.map_nil, List.nil_append] at hlater
              rw [drained_of_no_unread (by rw [ringOf_pollSocket, hunread])] at hrest
              have hdrain : h.drain side =
                  ((h.pollSocket side).1 :: ((h.pollSocket side).2.drain side).1,
                    ((h.pollSocket side).2.drain side).2) :=
                drain_of_some hpoll (Option.isSome_of_eq_some hfound)
              rw [hdrain]
              constructor
              · rw [List.filterMap_cons_some hfound, hlater]
                exact hsome.symm
              · rw [hleft]
                exact hrest

end Hub
end DatagramLink
