import Mathlib.Data.List.Induction
import Mathlib.Data.Nat.Find
import DatagramLink.Proofs.ConstantLatency

/-!
# When a delay line lets go

Delays differ, so datagrams overtake each other in a delay line, and the times of the calls
need not grow.  Still each datagram has one place to leave: the first call behind its own that
takes or flushes at its release time or later.  The specification says so about the list of
calls alone (`LeavesAt`, `Waits`), and a run over the calls hands out and holds what it says, in
the order in which it was queued, whatever the socket refuses.
-/

namespace DatagramLink

/-! ## Calls and what they hand out -/

/-- A use of a delay line. -/
inductive LineCall where
  | queue (datagram : Datagram) (delay : Nat) (now : Instant)
  /-- Takes out what is due. -/
  | take (now : Instant)
  /-- Offers to the socket what is due. -/
  | flush (now : Instant)

namespace LineCall

/-- What a call adds to the line: a datagram that may leave once its delay has passed. -/
def held? : LineCall → Option Held
  | queue datagram delay now => some ⟨now + delay, datagram⟩
  | take _ => none
  | flush _ => none

/-- Whether a call comes at the release time or later, and lets go. -/
def releases (x : Held) : LineCall → Bool
  | queue .. => false
  | take now => x.release ≤ now
  | flush now => x.release ≤ now

end LineCall

/-- What the caller sees of a call. -/
inductive LineAnswer where
  | queued
  | taken (released : List Held)
  /-- The number that a flush returns, and what the socket was offered during it. -/
  | flushed (count : Nat) (offers : List Offer)
  deriving DecidableEq

/-- The answer to a call that hands out `gone`.  A flush offers each of them once, and counts
the refused ones as well. -/
inductive LineAnswer.Gives : LineCall → List Held → LineAnswer → Prop where
  | queued {datagram : Datagram} {delay : Nat} {now : Instant} :
      Gives (.queue datagram delay now) [] .queued
  | taken {now : Instant} {gone : List Held} : Gives (.take now) gone (.taken gone)
  | flushed {now : Instant} {gone : List Held} {offers : List Offer}
      (hoffers : offers.map Offer.datagram = gone.map Held.datagram) :
      Gives (.flush now) gone (.flushed gone.length offers)

namespace Hub

def useLine (h : Hub) : LineCall → LineAnswer × Hub
  | .queue datagram delay now =>
      (.queued, { h with delayed := h.delayed.push datagram delay now })
  | .take now =>
      (.taken (h.delayed.release now).1, { h with delayed := (h.delayed.release now).2 })
  | .flush now =>
      (.flushed (h.flush now).1
          ((h.flush now).2.socket.offers.toList.drop h.socket.offers.size),
        (h.flush now).2)

/-- The answers to some calls in order, and the hub behind them. -/
def useLineAll (h : Hub) (calls : List LineCall) : List LineAnswer × Hub :=
  calls.foldl (fun x call => (x.1 ++ [(x.2.useLine call).1], (x.2.useLine call).2)) ([], h)

theorem useLineAll_snoc (h : Hub) (calls : List LineCall) (call : LineCall) :
    h.useLineAll (calls ++ [call]) =
      ((h.useLineAll calls).1 ++ [((h.useLineAll calls).2.useLine call).1],
        ((h.useLineAll calls).2.useLine call).2) := by
  simp [useLineAll]

/-- A call hands out what it releases of the line, and keeps the rest in order. -/
theorem useLine_spec (h : Hub) (call : LineCall) :
    LineAnswer.Gives call (h.delayed.held.filter (call.releases ·)) (h.useLine call).1 ∧
      (h.useLine call).2.delayed.held =
        h.delayed.held.filter (!call.releases ·) ++ call.held?.toList := by
  cases call with
  | queue datagram delay now =>
      have hnone : h.delayed.held.filter
          ((LineCall.queue datagram delay now).releases ·) = [] := by
        simp [LineCall.releases]
      have hall : h.delayed.held.filter
          (!(LineCall.queue datagram delay now).releases ·) = h.delayed.held := by
        simp [LineCall.releases]
      rw [hnone, hall]
      exact ⟨.queued, rfl⟩
  | take now =>
      constructor
      · exact .taken
      · simp [useLine, DelayLine.release, LineCall.releases, LineCall.held?, DelayLine.isDue]
  | flush now =>
      obtain ⟨⟨made, hoffers, hmade⟩, -, hheld⟩ := h.flush_spec now
      have hdrop : (h.flush now).2.socket.offers.toList.drop h.socket.offers.size = made := by
        rw [hoffers, ← Array.length_toList, List.drop_left]
      constructor
      · rw [useLine, hdrop]
        exact .flushed hmade
      · simp [useLine, hheld, LineCall.releases, LineCall.held?, DelayLine.isDue]

end Hub

/-! ## Where each datagram leaves -/

/-- A datagram in the line, and the number of the call that queued it. -/
structure LineEntry where
  place : Nat
  held : Held

namespace LineEntry

variable {calls : List LineCall} {call : LineCall} {e : LineEntry} {j : Nat}

def Queued (calls : List LineCall) (e : LineEntry) : Prop :=
  ∃ call, calls[e.place]? = some call ∧ call.held? = some e.held

/-- Call number `j` is the first one behind the entry's own that releases it. -/
structure LeavesAt (calls : List LineCall) (j : Nat) (e : LineEntry) : Prop where
  queued : Queued calls e
  later : e.place < j
  due : ∃ call, calls[j]? = some call ∧ call.releases e.held = true
  first : ∀ k call, e.place < k → k < j → calls[k]? = some call →
    call.releases e.held = false

/-- No call behind the entry's own releases it. -/
structure Waits (calls : List LineCall) (e : LineEntry) : Prop where
  queued : Queued calls e
  kept : ∀ k call, e.place < k → calls[k]? = some call → call.releases e.held = false

theorem Queued.lt (hqueued : Queued calls e) : e.place < calls.length := by
  obtain ⟨call, hcall, -⟩ := hqueued
  exact (List.getElem?_eq_some_iff.mp hcall).1

theorem LeavesAt.le {k : Nat} (hj : LeavesAt calls j e) (hk : LeavesAt calls k e) : j ≤ k := by
  obtain ⟨call, hcall, hdue⟩ := hk.due
  apply Nat.le_of_not_lt
  intro hlt
  rw [hj.first k call hk.later hlt hcall] at hdue
  cases hdue

/-- An entry that does not wait has left, and at one call only. -/
theorem existsUnique_leavesAt (hqueued : Queued calls e) (hgone : ¬ Waits calls e) :
    ∃! j, LeavesAt calls j e := by
  classical
  have hsome : ∃ k, e.place < k ∧ ∃ call, calls[k]? = some call ∧
      call.releases e.held = true := by
    by_contra hnone
    refine hgone ⟨hqueued, ?_⟩
    intro k call hlater hcall
    rw [Bool.eq_false_iff]
    exact fun hdue => hnone ⟨k, hlater, call, hcall, hdue⟩
  obtain ⟨hlater, hdue⟩ := Nat.find_spec hsome
  have hleaves : LeavesAt calls (Nat.find hsome) e := by
    refine ⟨hqueued, hlater, hdue, ?_⟩
    intro k call hlow hhigh hcall
    rw [Bool.eq_false_iff]
    exact fun hdue => Nat.find_min hsome hhigh ⟨hlow, call, hcall, hdue⟩
  refine ⟨_, hleaves, ?_⟩
  intro k hk
  exact Nat.le_antisymm (hk.le hleaves) (hleaves.le hk)

theorem Waits.not_leavesAt (hwaits : Waits calls e) : ¬ LeavesAt calls j e := by
  intro hleaves
  obtain ⟨call, hcall, hdue⟩ := hleaves.due
  rw [hwaits.kept j call hleaves.later hcall] at hdue
  cases hdue

/-! ### One more call -/

theorem getElem?_snoc {k : Nat} {other : LineCall} :
    (calls ++ [call])[k]? = some other ↔
      calls[k]? = some other ∨ (k = calls.length ∧ call = other) := by
  rcases Nat.lt_trichotomy k calls.length with hlt | heq | hgt
  · have hne : k ≠ calls.length := Nat.ne_of_lt hlt
    simp [List.getElem?_append_left hlt, hne]
  · simp [heq]
  · have hne : k ≠ calls.length := Nat.ne_of_gt hgt
    have hold : calls[k]? = none := List.getElem?_eq_none (Nat.le_of_lt hgt)
    have hnew : (calls ++ [call])[k]? = none := by
      apply List.getElem?_eq_none
      rw [List.length_append, List.length_singleton]
      omega
    simp only [hold, hnew, hne, reduceCtorEq, false_and, or_false]

theorem queued_snoc :
    Queued (calls ++ [call]) e ↔
      Queued calls e ∨ (e.place = calls.length ∧ call.held? = some e.held) := by
  constructor
  · rintro ⟨own, hown, hheld⟩
    rcases getElem?_snoc.mp hown with hold | ⟨heq, rfl⟩
    · exact Or.inl ⟨own, hold, hheld⟩
    · exact Or.inr ⟨heq, hheld⟩
  · rintro (⟨own, hown, hheld⟩ | ⟨heq, hheld⟩)
    · exact ⟨own, getElem?_snoc.mpr (Or.inl hown), hheld⟩
    · exact ⟨call, getElem?_snoc.mpr (Or.inr ⟨heq, rfl⟩), hheld⟩

/-- What the calls so far handed out is not changed by one more. -/
theorem leavesAt_snoc_of_lt (hj : j < calls.length) :
    LeavesAt (calls ++ [call]) j e ↔ LeavesAt calls j e := by
  have hsame : ∀ k ≤ j, (calls ++ [call])[k]? = calls[k]? :=
    fun k hk => List.getElem?_append_left (Nat.lt_of_le_of_lt hk hj)
  constructor
  · intro hleaves
    have hplace : e.place ≠ calls.length := Nat.ne_of_lt (Nat.lt_trans hleaves.later hj)
    refine ⟨?_, hleaves.later, ?_, ?_⟩
    · exact (queued_snoc.mp hleaves.queued).resolve_right fun h => hplace h.1
    · simpa only [hsame j (Nat.le_refl j)] using hleaves.due
    · intro k other hlow hhigh hk
      apply hleaves.first k other hlow hhigh
      rwa [hsame k (Nat.le_of_lt hhigh)]
  · intro hleaves
    refine ⟨queued_snoc.mpr (Or.inl hleaves.queued), hleaves.later, ?_, ?_⟩
    · simpa only [hsame j (Nat.le_refl j)] using hleaves.due
    · intro k other hlow hhigh hk
      apply hleaves.first k other hlow hhigh
      rwa [← hsame k (Nat.le_of_lt hhigh)]

/-- The last call lets go of what waited for it and is due. -/
theorem leavesAt_snoc :
    LeavesAt (calls ++ [call]) calls.length e ↔
      Waits calls e ∧ call.releases e.held = true := by
  constructor
  · intro hleaves
    have hplace : e.place ≠ calls.length := Nat.ne_of_lt hleaves.later
    obtain ⟨last, hlast, hdue⟩ := hleaves.due
    have hcall : call = last := by simpa using hlast
    refine ⟨⟨?_, ?_⟩, hcall ▸ hdue⟩
    · exact (queued_snoc.mp hleaves.queued).resolve_right fun h => hplace h.1
    · intro k other hlow hk
      have hhigh : k < calls.length := (List.getElem?_eq_some_iff.mp hk).1
      exact hleaves.first k other hlow hhigh (getElem?_snoc.mpr (Or.inl hk))
  · rintro ⟨hwaits, hdue⟩
    refine ⟨queued_snoc.mpr (Or.inl hwaits.queued), hwaits.queued.lt,
      ⟨call, by simp, hdue⟩, ?_⟩
    intro k other hlow hhigh hk
    apply hwaits.kept k other hlow
    exact (getElem?_snoc.mp hk).resolve_right fun h => Nat.ne_of_lt hhigh h.1

/-- Behind one more call waits what it did not release, and what it queued. -/
theorem waits_snoc :
    Waits (calls ++ [call]) e ↔
      (Waits calls e ∧ call.releases e.held = false) ∨
        (e.place = calls.length ∧ call.held? = some e.held) := by
  constructor
  · intro hwaits
    rcases queued_snoc.mp hwaits.queued with hqueued | hlast
    · left
      refine ⟨⟨hqueued, ?_⟩, ?_⟩
      · intro k other hlow hk
        exact hwaits.kept k other hlow (getElem?_snoc.mpr (Or.inl hk))
      · exact hwaits.kept calls.length call hqueued.lt (getElem?_snoc.mpr (Or.inr ⟨rfl, rfl⟩))
    · exact Or.inr hlast
  · rintro (⟨hwaits, hkept⟩ | hlast)
    · refine ⟨queued_snoc.mpr (Or.inl hwaits.queued), ?_⟩
      intro k other hlow hk
      rcases getElem?_snoc.mp hk with hold | ⟨-, rfl⟩
      · exact hwaits.kept k other hlow hold
      · exact hkept
    · refine ⟨queued_snoc.mpr (Or.inr hlast), ?_⟩
      intro k other hlow hk
      have hhigh := (List.getElem?_eq_some_iff.mp hk).1
      rw [List.length_append, List.length_singleton] at hhigh
      omega

/-! ## Entries in queueing order -/

/-- The entries with a property, each once and in the order in which they were queued. -/
structure Enumerates (entries : List LineEntry) (P : LineEntry → Prop) : Prop where
  ordered : entries.Pairwise fun e f => e.place < f.place
  mem_iff : ∀ e, e ∈ entries ↔ P e

theorem Enumerates.congr {entries : List LineEntry} {P Q : LineEntry → Prop}
    (hentries : Enumerates entries P) (hsame : ∀ e, Q e ↔ P e) : Enumerates entries Q :=
  ⟨hentries.ordered, fun e => (hentries.mem_iff e).trans (hsame e).symm⟩

variable {waiting : List LineEntry}

/-- Of what waits, the next call hands out what it releases. -/
theorem Enumerates.leaves (hwaiting : Enumerates waiting (Waits calls)) (call : LineCall) :
    Enumerates (waiting.filter fun e => call.releases e.held)
      (LeavesAt (calls ++ [call]) calls.length) := by
  refine ⟨hwaiting.ordered.filter _, ?_⟩
  intro e
  rw [List.mem_filter, hwaiting.mem_iff, leavesAt_snoc]

/-- What the next call does not release goes on waiting in front of what it queues. -/
theorem Enumerates.waits (hwaiting : Enumerates waiting (Waits calls)) (call : LineCall) :
    Enumerates
      ((waiting.filter fun e => !call.releases e.held) ++
        call.held?.toList.map (⟨calls.length, ·⟩))
      (Waits (calls ++ [call])) := by
  constructor
  · rw [List.pairwise_append]
    refine ⟨hwaiting.ordered.filter _, ?_, ?_⟩
    · cases call.held? <;> simp
    · intro e he f hf
      have hlt := ((hwaiting.mem_iff e).mp (List.mem_filter.mp he).1).queued.lt
      obtain ⟨x, -, rfl⟩ := List.mem_map.mp hf
      exact hlt
  · intro e
    rw [waits_snoc, List.mem_append, List.mem_filter, hwaiting.mem_iff]
    refine or_congr (by simp) ?_
    rw [List.mem_map]
    constructor
    · rintro ⟨x, hx, rfl⟩
      exact ⟨rfl, by simpa using hx⟩
    · rintro ⟨hplace, hheld⟩
      exact ⟨e.held, by simpa using hheld, by rw [← hplace]⟩

end LineEntry

/-! ## Whole runs -/

namespace Hub

/-- The entries that wait are what the line holds, in order. -/
theorem waiting_useLineAll (h : Hub) (hfresh : h.delayed = DelayLine.empty)
    (calls : List LineCall) :
    ∃ waiting, LineEntry.Enumerates waiting (LineEntry.Waits calls) ∧
      (h.useLineAll calls).2.delayed.held = waiting.map LineEntry.held := by
  induction calls using List.reverseRecOn with
  | nil =>
      refine ⟨[], ⟨.nil, ?_⟩, ?_⟩
      · intro e
        constructor
        · simp
        · intro hwaits
          exact absurd hwaits.queued.lt (by simp)
      · exact congrArg DelayLine.held hfresh
  | append_singleton calls call ih =>
      obtain ⟨waiting, hwaiting, hheld⟩ := ih
      obtain ⟨-, hkept⟩ := (h.useLineAll calls).2.useLine_spec call
      refine ⟨_, hwaiting.waits call, ?_⟩
      rw [useLineAll_snoc, hkept, hheld, List.filter_map, List.map_append]
      simp [Function.comp_def]

/-- Every call hands out the entries that leave at it, in order. -/
theorem gives_useLineAll (h : Hub) (hfresh : h.delayed = DelayLine.empty)
    (calls : List LineCall) :
    (h.useLineAll calls).1.length = calls.length ∧
      ∀ j call, calls[j]? = some call → ∃ gone answer,
        (h.useLineAll calls).1[j]? = some answer ∧
          LineEntry.Enumerates gone (LineEntry.LeavesAt calls j) ∧
          LineAnswer.Gives call (gone.map LineEntry.held) answer := by
  induction calls using List.reverseRecOn with
  | nil => exact ⟨rfl, by simp⟩
  | append_singleton calls call ih =>
      obtain ⟨hlength, hgives⟩ := ih
      rw [useLineAll_snoc]
      refine ⟨by simp [hlength], ?_⟩
      intro j other hj
      rcases LineEntry.getElem?_snoc.mp hj with hold | ⟨rfl, rfl⟩
      · obtain ⟨gone, answer, hanswer, hgone, hgive⟩ := hgives j other hold
        have hlt : j < calls.length := (List.getElem?_eq_some_iff.mp hold).1
        refine ⟨gone, answer, ?_, ?_, hgive⟩
        · rw [List.getElem?_append_left (by omega)]
          exact hanswer
        · exact hgone.congr fun e => LineEntry.leavesAt_snoc_of_lt hlt
      · obtain ⟨waiting, hwaiting, hheld⟩ := h.waiting_useLineAll hfresh calls
        obtain ⟨hgive, -⟩ := (h.useLineAll calls).2.useLine_spec call
        rw [hheld, List.filter_map] at hgive
        refine ⟨_, _, ?_, hwaiting.leaves call, hgive⟩
        rw [← hlength]
        simp

/-- Each datagram leaves at the first call behind its own that comes at its release time or
later, and waits until then.  One call hands out its datagrams in the order in which they were
queued, and so stand those that the line still holds. -/
theorem leaves_once_when_due (h : Hub) (hfresh : h.delayed = DelayLine.empty)
    (calls : List LineCall) :
    ((h.useLineAll calls).1.length = calls.length ∧
      ∀ j call, calls[j]? = some call → ∃ gone answer,
        (h.useLineAll calls).1[j]? = some answer ∧
          LineEntry.Enumerates gone (LineEntry.LeavesAt calls j) ∧
          LineAnswer.Gives call (gone.map LineEntry.held) answer) ∧
    (∃ waiting, LineEntry.Enumerates waiting (LineEntry.Waits calls) ∧
      (h.useLineAll calls).2.delayed.held = waiting.map LineEntry.held) ∧
    ∀ e, LineEntry.Queued calls e →
      (LineEntry.Waits calls e ∧ ∀ j, ¬ LineEntry.LeavesAt calls j e) ∨
        (¬ LineEntry.Waits calls e ∧ ∃! j, LineEntry.LeavesAt calls j e) := by
  refine ⟨h.gives_useLineAll hfresh calls, h.waiting_useLineAll hfresh calls, ?_⟩
  intro e hqueued
  by_cases hwaits : LineEntry.Waits calls e
  · exact Or.inl ⟨hwaits, fun j => hwaits.not_leavesAt⟩
  · exact Or.inr ⟨hwaits, LineEntry.existsUnique_leavesAt hqueued hwaits⟩

/-- Three datagrams that overtake each other, flushed into a socket that refuses the first
offer; the clock goes back once. -/
theorem leaves_once_when_due_of_overtaking :
    let home : Endpoint := .v4 ⟨#v[10, 0, 0, 1]⟩ 5000
    let h : Hub :=
      { settings := { qport := 1 }
        socket :=
          { Socket.bound home with
            refusal := fun n _ => if n = 0 then some "simulated send failure" else none } }
    let slow : Datagram := ⟨"slow".toUTF8, home⟩
    let fast : Datagram := ⟨"fast".toUTF8, home⟩
    let medium : Datagram := ⟨"medium".toUTF8, home⟩
    let calls : List LineCall :=
      [.queue slow 100 0, .queue fast 10 0, .queue medium 50 0, .take 5, .flush 50, .flush 20]
    let answer : LineAnswer :=
      .flushed 2 [⟨fast, some "simulated send failure"⟩, ⟨medium, none⟩]
    h.delayed = DelayLine.empty ∧ (h.useLineAll calls).1[4]? = some answer ∧
      (∃ gone, LineEntry.Enumerates gone (LineEntry.LeavesAt calls 4) ∧
        LineAnswer.Gives (.flush 50) (gone.map LineEntry.held) answer) ∧
      ∃ waiting, LineEntry.Enumerates waiting (LineEntry.Waits calls) ∧
        [⟨100, slow⟩] = waiting.map LineEntry.held := by
  intro home h slow fast medium calls answer
  obtain ⟨⟨-, hgives⟩, ⟨waiting, hwaiting, hheld⟩, -⟩ :=
    h.leaves_once_when_due rfl calls
  have hanswer : (h.useLineAll calls).1[4]? = some answer := by decide +kernel
  obtain ⟨gone, given, hgiven, hgone, hgive⟩ := hgives 4 (.flush 50) rfl
  rw [hanswer, Option.some.injEq] at hgiven
  rw [← hgiven] at hgive
  refine ⟨rfl, hanswer, ⟨gone, hgone, hgive⟩, waiting, hwaiting, ?_⟩
  rw [← hheld]
  decide +kernel

end Hub
end DatagramLink
