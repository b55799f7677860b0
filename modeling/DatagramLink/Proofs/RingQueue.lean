import DatagramLink.Channel.Sending

/-!
# Rings as queues

Seen through `unread`, a ring is a queue.  A push puts its datagram at the end and a
pop takes the front; only a push onto a full ring loses the oldest entry.  `Holds`
names the state in which nothing was lost so far, and the sections behind it carry
that state through what a hub does with loopback datagrams.
-/

namespace DatagramLink
namespace Ring

/-! ## Slots -/

theorem slot_set
    (r : Ring) (written : Nat) (datagram : ByteArray) (sent taken n : Nat) :
    Ring.slot
        ⟨r.slots.set (written % ringSize) datagram (slot_lt written), sent, taken⟩ n =
      if written % ringSize = n % ringSize then datagram else r.slot n := by
  unfold slot
  exact Vector.getElem_set (slot_lt written) (slot_lt n)

theorem map_slot_set
    (r : Ring) (written : Nat) (datagram : ByteArray) (sent taken start count : Nat)
    (hother : ∀ n, start ≤ n → n < start + count → written % ringSize ≠ n % ringSize) :
    (List.range' start count).map
        (Ring.slot
          ⟨r.slots.set (written % ringSize) datagram (slot_lt written), sent, taken⟩) =
      (List.range' start count).map r.slot := by
  apply List.map_congr_left
  intro n hn
  rw [List.mem_range'_1] at hn
  rw [slot_set, if_neg (hother n hn.1 hn.2)]

/-! ## Pushing and popping -/

theorem length_unread (r : Ring) : r.unread.length = r.length := by
  rw [unread, List.length_map, List.length_range']

/-- A push appends, and onto a full ring it also forgets the oldest entry. -/
theorem unread_push {r : Ring} (hcount : r.taken ≤ r.sent) (datagram : ByteArray) :
    (r.push datagram).unread =
      (r.unread ++ [datagram]).drop (r.length + 1 - ringSize) := by
  have hoverflow : (r.push datagram).oldest = r.oldest + (r.length + 1 - ringSize) := by
    unfold length oldest push
    simp only [ringSize]
    omega
  have hlength : (r.push datagram).length =
      (r.length - (r.length + 1 - ringSize)) + 1 := by
    unfold length oldest push
    simp only [ringSize]
    omega
  have hlast : (r.push datagram).oldest +
      (r.length - (r.length + 1 - ringSize)) = r.sent := by
    rw [hoverflow]
    unfold length oldest
    simp only [ringSize]
    omega
  have hwindow : r.sent < (r.push datagram).oldest + ringSize := by
    rw [hoverflow]
    unfold length oldest
    simp only [ringSize]
    omega
  have hold : (List.range' (r.push datagram).oldest
        (r.length - (r.length + 1 - ringSize))).map (r.push datagram).slot =
      (List.range' (r.push datagram).oldest
        (r.length - (r.length + 1 - ringSize))).map r.slot := by
    apply map_slot_set
    intro n hlow hhigh
    unfold ringSize at *
    omega
  have hnew : (r.push datagram).slot r.sent = datagram := by
    unfold push
    rw [slot_set, if_pos rfl]
  have hdrop : r.length + 1 - ringSize ≤ r.unread.length := by
    rw [length_unread]
    unfold length ringSize
    omega
  rw [List.drop_append_of_le_length hdrop]
  simp only [unread]
  rw [hlength, List.range'_1_concat, List.map_append, hold, hlast, List.map_singleton,
    hnew, ← List.map_drop, List.drop_range', Nat.mul_one, ← hoverflow]

theorem unread_of_pop
    {r rest : Ring} {datagram : ByteArray} (hpop : r.pop = (some datagram, rest)) :
    r.unread = datagram :: rest.unread := by
  unfold pop at hpop
  split at hpop
  · next hlt =>
      cases hpop
      have hcount : r.length = (r.length - 1) + 1 := by
        unfold length
        omega
      have holdest : Ring.oldest
          ⟨r.slots.set (r.oldest % ringSize) ByteArray.empty (slot_lt r.oldest), r.sent,
            r.oldest + 1⟩ = r.oldest + 1 := by
        unfold oldest
        simp only
        omega
      have hrest : Ring.length
          ⟨r.slots.set (r.oldest % ringSize) ByteArray.empty (slot_lt r.oldest), r.sent,
            r.oldest + 1⟩ = r.length - 1 := by
        unfold length
        rw [holdest]
        simp only
        omega
      have hslots : (List.range' (r.oldest + 1) (r.length - 1)).map
            (Ring.slot
              ⟨r.slots.set (r.oldest % ringSize) ByteArray.empty (slot_lt r.oldest),
                r.sent, r.oldest + 1⟩) =
          (List.range' (r.oldest + 1) (r.length - 1)).map r.slot := by
        apply map_slot_set
        intro n hlow hhigh
        unfold length oldest ringSize at *
        omega
      simp only [unread]
      rw [holdest, hrest, hslots, hcount, List.range'_succ, List.map_cons,
        Nat.add_sub_cancel]
  · cases hpop

theorem pop_of_unread_eq_nil {r : Ring} (hempty : r.unread = []) : r.pop = (none, r) := by
  have hlength : r.length = 0 := by
    rw [← length_unread, hempty, List.length_nil]
  have hdone : ¬ r.oldest < r.sent := by
    unfold length at hlength
    omega
  rw [pop, if_neg hdone]

/-! ## Nothing lost -/

/-- Exactly the datagrams `waiting` were written and not read yet, and all of them can
still be read. -/
structure Holds (r : Ring) (waiting : List ByteArray) : Prop where
  counted : r.sent = r.taken + waiting.length
  fits : waiting.length ≤ ringSize
  unread : r.unread = waiting

theorem holds_empty : empty.Holds [] := ⟨rfl, Nat.zero_le _, rfl⟩

theorem holds_of_caught_up {r : Ring} (hcaught : r.taken = r.sent) : r.Holds [] := by
  refine ⟨hcaught.symm, Nat.zero_le _, ?_⟩
  have hlength : r.length = 0 := by
    unfold length oldest
    omega
  simp [Ring.unread, hlength]

theorem Holds.length_eq {r : Ring} {waiting : List ByteArray} (hholds : r.Holds waiting) :
    r.length = waiting.length := by
  rw [← hholds.unread, length_unread]

theorem Holds.push {r : Ring} {waiting : List ByteArray} (hholds : r.Holds waiting)
    (hroom : waiting.length < ringSize) (datagram : ByteArray) :
    (r.push datagram).Holds (waiting ++ [datagram]) := by
  have hcounted := hholds.counted
  refine ⟨?_, ?_, ?_⟩
  · rw [List.length_append, List.length_singleton]
    unfold Ring.push
    simp only
    omega
  · rw [List.length_append, List.length_singleton]
    omega
  · have hnone : r.length + 1 - ringSize = 0 := by
      rw [hholds.length_eq]
      omega
    rw [unread_push (by omega), hnone, List.drop_zero, hholds.unread]

theorem Holds.pop {r : Ring} {datagram : ByteArray} {waiting : List ByteArray}
    (hholds : r.Holds (datagram :: waiting)) :
    ∃ rest, r.pop = (some datagram, rest) ∧ rest.Holds waiting := by
  have hcounted := hholds.counted
  have hfits := hholds.fits
  rw [List.length_cons] at hcounted hfits
  have holdest : r.oldest = r.taken := by
    unfold oldest
    omega
  cases hpop : r.pop with
  | mk found rest =>
      cases found with
      | none =>
          unfold Ring.pop at hpop
          rw [if_pos (by omega)] at hpop
          cases hpop
      | some first =>
          have hunread := unread_of_pop hpop
          rw [hholds.unread, List.cons.injEq] at hunread
          obtain ⟨rfl, hrest⟩ := hunread
          refine ⟨rest, rfl, ?_, by omega, hrest.symm⟩
          unfold Ring.pop at hpop
          rw [if_pos (by omega)] at hpop
          cases hpop
          simp only
          omega

end Ring

/-! ## Rings of a hub -/

namespace Hub

theorem ringOf_setRing_peer (h : Hub) (side : Side) (ring : Ring) :
    (h.setRing side.peer ring).ringOf side = h.ringOf side := by
  cases side <;> rfl

theorem ringOf_report (h : Hub) (records : List Record) (side : Side) :
    (h.report records).ringOf side = h.ringOf side := by
  cases side <;> rfl

theorem ringOf_reportIf (h : Hub) (shown : Bool) (record : Record) (side : Side) :
    (h.reportIf shown record).ringOf side = h.ringOf side := by
  unfold reportIf
  split
  · exact ringOf_report h [record] side
  · rfl

/-- What a hub is connected to, apart from its rings and its journal. -/
structure SameNetwork (before after : Hub) : Prop where
  settings : after.settings = before.settings
  delayed : after.delayed = before.delayed
  socket : after.socket = before.socket
  dice : after.dice = before.dice

theorem SameNetwork.refl (h : Hub) : SameNetwork h h := ⟨rfl, rfl, rfl, rfl⟩

theorem SameNetwork.trans {h₁ h₂ h₃ : Hub} (hfirst : SameNetwork h₁ h₂)
    (hsecond : SameNetwork h₂ h₃) : SameNetwork h₁ h₃ :=
  ⟨hsecond.settings.trans hfirst.settings, hsecond.delayed.trans hfirst.delayed,
    hsecond.socket.trans hfirst.socket, hsecond.dice.trans hfirst.dice⟩

theorem sameNetwork_report (h : Hub) (records : List Record) :
    SameNetwork h (h.report records) := ⟨rfl, rfl, rfl, rfl⟩

theorem sameNetwork_setRing (h : Hub) (side : Side) (ring : Ring) :
    SameNetwork h (h.setRing side ring) := by
  cases side <;> exact ⟨rfl, rfl, rfl, rfl⟩

/-- A loopback datagram ends up in the other side's ring, whatever the settings. -/
theorem send_loopback (h : Hub) (side : Side) (bytes : ByteArray) (now : Instant) :
    ∃ after, h.send side bytes .loopback now = .done after ∧
      after.ringOf side.peer = (h.ringOf side.peer).push bytes ∧
      after.ringOf side = h.ringOf side ∧ SameNetwork h after := by
  have hnetwork : SameNetwork h (h.reportIf h.settings.showPackets
      (.info s!"{side} send {bytes.size} bytes to {Address.loopback}")) := by
    unfold reportIf
    split
    · exact sameNetwork_report h _
    · exact .refl h
  refine ⟨_, rfl, ?_, ?_, hnetwork.trans (sameNetwork_setRing _ _ _)⟩
  · rw [ringOf_setRing, ringOf_reportIf]
  · rw [ringOf_setRing_peer, ringOf_reportIf]

theorem dispatch_loopback (h : Hub) {d : Dispatch} (htarget : d.target = .loopback)
    (now : Instant) :
    ∃ after, h.dispatch d now = .done after ∧
      after.ringOf d.side.peer = (h.ringOf d.side.peer).push d.bytes ∧
      after.ringOf d.side = h.ringOf d.side ∧ SameNetwork h after := by
  obtain ⟨after, hsend, hpushed, hkept, hnetwork⟩ :=
    (h.report [d.note]).send_loopback d.side d.bytes now
  rw [ringOf_report] at hpushed hkept
  refine ⟨after, ?_, hpushed, hkept, (sameNetwork_report h _).trans hnetwork⟩
  rw [dispatch, htarget]
  exact hsend

/-- Dispatches over loopback line up in the other side's ring while there is room. -/
theorem dispatchAll_loopback {h : Hub} {side : Side} {waiting : List ByteArray}
    {sent : List Dispatch} (hholds : (h.ringOf side.peer).Holds waiting)
    (hside : ∀ d ∈ sent, d.side = side ∧ d.target = .loopback)
    (hroom : waiting.length + sent.length ≤ ringSize) (now : Instant) :
    ∃ after, h.dispatchAll sent now = .done (sent.length, after) ∧
      (after.ringOf side.peer).Holds (waiting ++ sent.map Dispatch.bytes) ∧
      after.ringOf side = h.ringOf side ∧ SameNetwork h after := by
  induction sent generalizing h waiting with
  | nil =>
      refine ⟨h, rfl, ?_, rfl, .refl h⟩
      simpa using hholds
  | cons d sent ih =>
      obtain ⟨rfl, htarget⟩ := hside d List.mem_cons_self
      rw [List.length_cons] at hroom
      obtain ⟨between, hdispatch, hpushed, hkept, hnetwork⟩ :=
        h.dispatch_loopback htarget now
      have hnext : (between.ringOf d.side.peer).Holds (waiting ++ [d.bytes]) := by
        rw [hpushed]
        exact hholds.push (by omega) d.bytes
      obtain ⟨after, hrest, hlast, hkept', hnetwork'⟩ := ih hnext
        (fun e he => hside e (List.mem_cons_of_mem _ he))
        (by rw [List.length_append, List.length_singleton]; omega)
      refine ⟨after, ?_, ?_, hkept'.trans hkept, hnetwork.trans hnetwork'⟩
      · simp only [dispatchAll, hdispatch, Attempt.done, hrest, Attempt.map,
          List.length_cons]
      · simpa using hlast

theorem pollRing_of_holds {h : Hub} {side : Side} {datagram : ByteArray}
    {waiting : List ByteArray} (hholds : (h.ringOf side).Holds (datagram :: waiting)) :
    ∃ ring, h.pollRing side = (some datagram, h.setRing side ring) ∧
      ring.Holds waiting := by
  obtain ⟨ring, hpop, hrest⟩ := hholds.pop
  refine ⟨ring, ?_, hrest⟩
  rw [pollRing, hpop]

theorem pollRing_of_empty {h : Hub} {side : Side} (hholds : (h.ringOf side).Holds []) :
    h.pollRing side = (none, h) := by
  rw [pollRing, Ring.pop_of_unread_eq_nil hholds.unread]
  cases side <;> rfl

end Hub
end DatagramLink
