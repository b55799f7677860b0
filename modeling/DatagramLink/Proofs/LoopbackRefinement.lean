import Mathlib.Data.List.Induction
import Mathlib.Logic.Function.Basic
import DatagramLink.Proofs.RingQueue

/-!
# Loopback as a pair of queues

`Mailboxes` is what a hub's rings stand for: one queue for each side, without slots and
without counters.  A send appends to the other side's queue.  A take first forgets all but
the newest `ringSize` datagrams of its queue and then takes the front.

Every interleaving of sends and takes finds in the rings what it finds in the queues.  The
relation behind it keeps the log of all that was ever written for a side: the queue is the
log without the datagrams that the reader has passed, and every slot that can still be
read holds the datagram of its number.
-/

namespace DatagramLink

theorem Side.eq_peer_of_ne {side other : Side} (hne : side ≠ other) : side = other.peer := by
  cases side <;> cases other <;> simp_all [Side.peer]

/-! ## Calls -/

/-- A use of loopback by one of the two sides. -/
inductive LoopbackCall where
  | send (side : Side) (bytes : ByteArray) (now : Instant)
  | take (side : Side)

abbrev Finding := Side × Option ByteArray

def foundBy (side : Side) (findings : List Finding) : List ByteArray :=
  findings.filterMap fun f => if f.1 = side then f.2 else none

def sentTo (side : Side) (calls : List LoopbackCall) : List ByteArray :=
  calls.filterMap fun
    | .send sender bytes _ => if sender.peer = side then some bytes else none
    | .take _ => none

theorem foundBy_snoc (side taker : Side) (findings : List Finding)
    (found : Option ByteArray) :
    foundBy side (findings ++ [(taker, found)]) =
      foundBy side findings ++ if taker = side then found.toList else [] := by
  by_cases htaker : taker = side
  · cases found <;> simp [foundBy, htaker]
  · simp [foundBy, htaker]

theorem sentTo_append (side : Side) (calls more : List LoopbackCall) :
    sentTo side (calls ++ more) = sentTo side calls ++ sentTo side more :=
  List.filterMap_append

@[simp] theorem sentTo_send (side sender : Side) (bytes : ByteArray) (now : Instant) :
    sentTo side [.send sender bytes now] = if sender.peer = side then [bytes] else [] := by
  by_cases hpeer : sender.peer = side <;> simp [sentTo, hpeer]

@[simp] theorem sentTo_take (side taker : Side) : sentTo side [.take taker] = [] := rfl

namespace Hub

def useLoopback : List Finding × Hub → LoopbackCall → Attempt (List Finding × Hub)
  | (findings, h), .send side bytes now =>
      (h.send side bytes .loopback now).map fun h => (findings, h)
  | (findings, h), .take side =>
      match h.pollRing side with
      | (found, h) => .done (findings ++ [(side, found)], h)

/-- A hub that nothing was sent over loopback on, whatever else it holds. -/
def unused (h : Hub) : Hub := { h with toClient := Ring.empty, toServer := Ring.empty }

end Hub

/-! ## Queues -/

abbrev Mailboxes := Side → List ByteArray

namespace Mailboxes

def empty : Mailboxes := fun _ => []

def newest (queue : List ByteArray) : List ByteArray :=
  queue.drop (queue.length - ringSize)

def use : List Finding × Mailboxes → LoopbackCall → List Finding × Mailboxes
  | (findings, m), .send side bytes _ =>
      (findings, Function.update m side.peer (m side.peer ++ [bytes]))
  | (findings, m), .take side =>
      (findings ++ [(side, (newest (m side)).head?)],
        Function.update m side (newest (m side)).tail)

def run (calls : List LoopbackCall) : List Finding × Mailboxes := calls.foldl use ([], empty)

theorem newest_of_fits {queue : List ByteArray} (hfits : queue.length ≤ ringSize) :
    newest queue = queue := by
  rw [newest, Nat.sub_eq_zero_of_le hfits, List.drop_zero]

/-- What a side found, and then what waits for it, are datagrams of the log in order, each
at most once. -/
def InOrder (log : Side → List ByteArray) (x : List Finding × Mailboxes) : Prop :=
  ∀ side, (foundBy side x.1 ++ x.2 side).Sublist (log side)

theorem InOrder.use {log : Side → List ByteArray} {x : List Finding × Mailboxes}
    (horder : InOrder log x) (call : LoopbackCall) :
    InOrder (fun side => log side ++ sentTo side [call]) (use x call) := by
  obtain ⟨findings, m⟩ := x
  intro side
  have hside := horder side
  cases call with
  | send sender bytes now =>
      by_cases hpeer : sender.peer = side
      · subst side
        simpa [Mailboxes.use] using hside.append (List.Sublist.refl [bytes])
      · simpa [Mailboxes.use, hpeer, Ne.symm hpeer] using hside
  | take taker =>
      simp only [Mailboxes.use, foundBy_snoc]
      by_cases htaker : taker = side
      · subst side
        have hnewest : (newest (m taker)).head?.toList ++ (newest (m taker)).tail =
            newest (m taker) := by
          cases newest (m taker) <;> rfl
        have hkept : (foundBy taker findings ++ newest (m taker)).Sublist (log taker) :=
          ((List.drop_sublist _ _).append_left _).trans hside
        simpa [hnewest] using hkept
      · simpa [htaker, Ne.symm htaker] using hside

theorem inOrder_run (calls : List LoopbackCall) :
    InOrder (fun side => sentTo side calls) (run calls) := by
  induction calls using List.reverseRecOn with
  | nil => simp [InOrder, run, empty, foundBy, sentTo]
  | append_singleton calls call ih =>
      simpa [run, sentTo_append] using ih.use call

theorem foldl_take {side : Side} {queue : List ByteArray} (hfits : queue.length ≤ ringSize)
    (findings : List Finding) {m : Mailboxes} (hqueue : m side = queue) :
    ((List.replicate queue.length (LoopbackCall.take side)).foldl use (findings, m)).1 =
      findings ++ queue.map fun bytes => (side, some bytes) := by
  induction queue generalizing findings m with
  | nil => simp
  | cons bytes rest ih =>
      have hnewest := newest_of_fits hfits
      simp only [List.length_cons] at hfits
      simp only [List.length_cons, List.replicate_succ, List.foldl_cons, use, hqueue,
        hnewest, List.head?_cons, List.tail_cons]
      rw [ih (by omega) _ (Function.update_self side rest m)]
      simp

end Mailboxes

/-! ## One ring and its log -/

namespace Ring

/-- The log is all that was ever written to a ring. -/
structure Logs (r : Ring) (log : List ByteArray) : Prop where
  counted : r.sent = log.length
  behind : r.taken ≤ r.sent
  unread : r.unread = log.drop r.oldest

/-- The counters of a ring and the slots that its reader may still look into. -/
structure Faithful (r : Ring) (log : List ByteArray) : Prop where
  counted : r.sent = log.length
  behind : r.taken ≤ r.sent
  /-- Neither of the two subtractions with which a reader catches up goes below zero. -/
  catchesUp : r.oldest = if ringSize < r.sent - r.taken then r.sent - ringSize else r.taken
  unconsumed : r.taken ≤ r.oldest
  held : ∀ n, r.oldest ≤ n → n < r.sent → log[n]? = some (r.slot n)

theorem logs_empty : empty.Logs [] := ⟨rfl, Nat.le_refl _, rfl⟩

variable {r : Ring} {log : List ByteArray}

theorem Logs.faithful (hlogs : r.Logs log) : r.Faithful log where
  counted := hlogs.counted
  behind := hlogs.behind
  catchesUp := by
    have hbehind := hlogs.behind
    unfold oldest
    split <;> omega
  unconsumed := Nat.le_max_left _ _
  held := by
    intro n hlow hhigh
    have hindex : (log.drop r.oldest)[n - r.oldest]? = log[n]? := by
      rw [List.getElem?_drop, Nat.add_sub_cancel' hlow]
    have hlt : n - r.oldest < r.length := by
      unfold length
      omega
    rw [← hindex, ← hlogs.unread, Ring.unread, List.getElem?_map,
      List.getElem?_range' hlt, Nat.one_mul, Nat.add_sub_cancel' hlow]
    rfl

theorem Logs.push (hlogs : r.Logs log) (datagram : ByteArray) :
    (r.push datagram).Logs (log ++ [datagram]) := by
  obtain ⟨hcounted, hbehind, hunread⟩ := hlogs
  have hskipped : (r.push datagram).oldest = r.oldest + (r.length + 1 - ringSize) := by
    unfold length oldest Ring.push
    simp only
    omega
  have hin : r.oldest ≤ log.length := by
    unfold oldest
    omega
  constructor
  · simp [Ring.push, hcounted]
  · simp only [Ring.push]
    omega
  · rw [unread_push hbehind, hunread, hskipped, ← List.drop_append_of_le_length hin,
      List.drop_drop]

/-- What is found is the front of the log behind all that the reader has passed or lost. -/
theorem Logs.pop (hlogs : r.Logs log) :
    r.pop.1 = (log.drop r.oldest).head? ∧ r.pop.2.Logs log ∧
      log.drop r.pop.2.taken = (log.drop r.oldest).tail := by
  obtain ⟨hcounted, hbehind, hunread⟩ := hlogs
  by_cases hlt : r.oldest < r.sent
  · cases hpop : r.pop with
    | mk found rest =>
        have hrest := hpop
        rw [Ring.pop, if_pos hlt] at hrest
        obtain ⟨rfl, rfl⟩ := Prod.mk.inj hrest
        have hfront := unread_of_pop hpop
        rw [hunread] at hfront
        have htail : log.drop (r.oldest + 1) = (log.drop r.oldest).tail := by
          rw [List.tail_drop]
        refine ⟨?_, ⟨hcounted, hlt, ?_⟩, htail⟩
        · rw [hfront, List.head?_cons]
        · have hnext : Ring.oldest
              ⟨r.slots.set (r.oldest % ringSize) ByteArray.empty (slot_lt r.oldest),
                r.sent, r.oldest + 1⟩ = r.oldest + 1 := by
            unfold oldest
            simp only
            omega
          rw [hnext, htail, hfront, List.tail_cons]
  · have hnothing : r.pop = (none, r) := by
      rw [Ring.pop, if_neg hlt]
    have hall : log.length ≤ r.taken := by
      unfold oldest ringSize at hlt
      omega
    have hdone : log.drop r.oldest = [] := by
      apply List.drop_eq_nil_of_le
      omega
    rw [hnothing, hdone]
    exact ⟨rfl, ⟨hcounted, hbehind, hunread⟩, List.drop_eq_nil_of_le hall⟩

end Ring

/-! ## Both rings of a hub -/

namespace Hub

/-- Queues that a hub's rings stand for, when the logs are all that was sent. -/
def Mirrors (h : Hub) (m : Mailboxes) (log : Side → List ByteArray) : Prop :=
  ∀ side, (h.ringOf side).Logs (log side) ∧
    m side = (log side).drop (h.ringOf side).taken

theorem mirrors_unused (h : Hub) : h.unused.Mirrors Mailboxes.empty fun _ => [] := by
  intro side
  cases side <;> exact ⟨Ring.logs_empty, rfl⟩

variable {h : Hub} {m : Mailboxes} {log : Side → List ByteArray}

/-- The newest datagrams of a queue are those that its ring can still give out. -/
theorem Mirrors.newest_eq (hmirrors : h.Mirrors m log) (side : Side) :
    Mailboxes.newest (m side) = (log side).drop (h.ringOf side).oldest := by
  obtain ⟨⟨hcounted, hbehind, -⟩, hqueue⟩ := hmirrors side
  rw [Mailboxes.newest, hqueue, List.drop_drop, List.length_drop]
  congr 1
  unfold Ring.oldest
  omega

theorem Mirrors.use (hmirrors : h.Mirrors m log) (findings : List Finding)
    (call : LoopbackCall) :
    ∃ after, useLoopback (findings, h) call =
        .done ((Mailboxes.use (findings, m) call).1, after) ∧
      after.Mirrors (Mailboxes.use (findings, m) call).2
        fun side => log side ++ sentTo side [call] := by
  cases call with
  | send sender bytes now =>
      obtain ⟨after, hsend, hpushed, hkept, -⟩ := h.send_loopback sender bytes now
      refine ⟨after, ?_, ?_⟩
      · rw [useLoopback, hsend, Attempt.map_done]
        rfl
      · intro side
        by_cases hpeer : sender.peer = side
        · subst side
          obtain ⟨hlogs, hqueue⟩ := hmirrors sender.peer
          have hbehind := hlogs.behind
          rw [hlogs.counted] at hbehind
          have htaken : ((h.ringOf sender.peer).push bytes).taken =
              (h.ringOf sender.peer).taken := rfl
          rw [hpushed]
          simp only [Mailboxes.use, sentTo_send, Function.update_self, hqueue, htaken, if_true]
          exact ⟨hlogs.push bytes, (List.drop_append_of_le_length hbehind).symm⟩
        · have hself : side = sender := by
            rw [Side.eq_peer_of_ne (Ne.symm hpeer), Side.peer_peer]
          subst side
          rw [hkept]
          simpa [Mailboxes.use, hpeer, Ne.symm hpeer] using hmirrors sender
  | take taker =>
      obtain ⟨hlogs, hqueue⟩ := hmirrors taker
      obtain ⟨hfound, hrest, htaken⟩ := hlogs.pop
      have hnewest := hmirrors.newest_eq taker
      refine ⟨h.setRing taker (h.ringOf taker).pop.2, ?_, ?_⟩
      · simp only [useLoopback, pollRing, Mailboxes.use, hnewest, ← hfound]
      · intro side
        by_cases htaker : side = taker
        · subst side
          rw [ringOf_setRing]
          simpa [Mailboxes.use, hnewest, htaken] using hrest
        · have hkept := h.ringOf_setRing_peer side (h.ringOf taker).pop.2
          rw [← Side.eq_peer_of_ne (Ne.symm htaker)] at hkept
          rw [hkept]
          simpa [Mailboxes.use, htaker] using hmirrors side

theorem Mirrors.run (hmirrors : h.Mirrors m log) (findings : List Finding)
    (calls : List LoopbackCall) :
    ∃ after, Attempt.forEach useLoopback calls (findings, h) =
        .done ((calls.foldl Mailboxes.use (findings, m)).1, after) ∧
      after.Mirrors (calls.foldl Mailboxes.use (findings, m)).2
        fun side => log side ++ sentTo side calls := by
  induction calls generalizing h m log findings with
  | nil => exact ⟨h, rfl, by simpa [sentTo] using hmirrors⟩
  | cons call rest ih =>
      obtain ⟨between, hstep, hnext⟩ := hmirrors.use findings call
      obtain ⟨after, hrest, hlast⟩ := ih hnext (Mailboxes.use (findings, m) call).1
      refine ⟨after, ?_, ?_⟩
      · rw [Attempt.forEach, hstep, Attempt.done_andThen]
        exact hrest
      · intro side
        have hsent : log side ++ sentTo side (call :: rest) =
            log side ++ sentTo side [call] ++ sentTo side rest := by
          rw [List.append_assoc, ← sentTo_append, List.singleton_append]
        simp only [hsent]
        exact hlast side

/-- Whatever the settings, what is found over loopback is what two queues give that forget
all but the newest `ringSize` datagrams when they are read.  No side finds a datagram twice
or out of order, and while no more of them wait than there are slots, all are found. -/
theorem loopback_eq_mailboxes (h : Hub) (calls : List LoopbackCall) :
    ∃ after,
      Attempt.forEach useLoopback calls ([], h.unused) =
          .done ((Mailboxes.run calls).1, after) ∧
        ∀ side,
          (foundBy side (Mailboxes.run calls).1).Sublist (sentTo side calls) ∧
          (after.ringOf side).Faithful (sentTo side calls) ∧
          (((Mailboxes.run calls).2 side).length ≤ ringSize →
            ∃ last,
              Attempt.forEach useLoopback
                  (List.replicate ((Mailboxes.run calls).2 side).length (.take side))
                  ([], after) =
                .done (((Mailboxes.run calls).2 side).map fun bytes => (side, some bytes),
                  last)) := by
  obtain ⟨after, hrun, hmirrors⟩ := h.mirrors_unused.run [] calls
  refine ⟨after, hrun, ?_⟩
  intro side
  have hlogs : (after.ringOf side).Logs (sentTo side calls) := (hmirrors side).1
  have horder := Mailboxes.inOrder_run calls side
  refine ⟨(List.sublist_append_left _ _).trans horder, hlogs.faithful, ?_⟩
  intro hfits
  obtain ⟨last, htakes, -⟩ := hmirrors.run []
    (List.replicate ((Mailboxes.run calls).2 side).length (LoopbackCall.take side))
  have hfound := Mailboxes.foldl_take hfits [] (m := (Mailboxes.run calls).2) rfl
  rw [List.nil_append] at hfound
  rw [htakes]
  exact ⟨last, congrArg (fun found => Attempt.done (found, last)) hfound⟩

/-- Of seventeen datagrams the oldest is lost. -/
example :
    (Mailboxes.run (((List.range 17).map fun n => .send .client ⟨#[n.toUInt8]⟩ 0) ++
      [.take .server, .take .client])).1 =
        [(.server, some ⟨#[1]⟩), (.client, none)] := by
  decide

end Hub
end DatagramLink
