import DatagramLink.Proofs.FragmentHistory
import DatagramLink.Proofs.RejectedDatagrams
import DatagramLink.Proofs.SequenceCircle

/-!
# Skipped sequences

A channel counts the messages that it delivers and the sequences that it skips.  Together these
are the steps of its last sequence from zero, once for each turn of the circle too, as long as no
message carries one of the two words that are never sent.

`Ledger` ties the counts to the sequences of all messages that were completed.  A datagram that
completes no message leaves it alone, and one that does adds its own step and the gap before it.
-/

namespace DatagramLink
namespace Channel

/-- The sequence that a datagram carries, if it completes a message. -/
def completedSequence? (c : Channel) (source : Address) (datagram : ByteArray) :
    Option UInt32 :=
  if (c.receive source (.ofBytes datagram)).1.isDelivered then
    match (Header.read (c.side == .server) (.ofBytes datagram)).1 with
    | .ok header => some header.sequence
    | .error _ => none
  else
    none

/-- The sequences of the messages that a run completes, in order. -/
def completedSequences (c : Channel) : List (Address × ByteArray) → List UInt32
  | [] => []
  | d :: rest =>
      (c.completedSequence? d.1 d.2).toList ++
        (c.receive d.1 (.ofBytes d.2)).2.completedSequences rest

variable {c : Channel} {source : Address} {datagram : ByteArray}

theorem completedSequences_append (c : Channel) (traffic more : List (Address × ByteArray)) :
    c.completedSequences (traffic ++ more) =
      c.completedSequences traffic ++ (c.feed traffic).completedSequences more := by
  induction traffic generalizing c with
  | nil => rfl
  | cons d rest ih =>
      rw [List.cons_append, completedSequences, completedSequences, ih, List.append_assoc]
      rfl

theorem completedSequences_snoc (c : Channel) (traffic : List (Address × ByteArray))
    (source : Address) (datagram : ByteArray) :
    c.completedSequences (traffic ++ [(source, datagram)]) =
      c.completedSequences traffic ++
        ((c.feed traffic).completedSequence? source datagram).toList := by
  rw [completedSequences_append, completedSequences, completedSequences, List.append_nil]

/-! ## One datagram -/

theorem completedSequence?_of_takes {header : Header} {payload : ByteArray}
    (htakes : c.Takes source datagram header payload)
    (hdelivered : (c.receive source (.ofBytes datagram)).1.isDelivered = true) :
    c.completedSequence? source datagram = some header.sequence := by
  rw [completedSequence?, if_pos hdelivered, htakes.read_eq]

/-- A datagram completes no message and spares what was accepted, or its sequence is accepted. -/
theorem keeps_or_accepts (c : Channel) (source : Address) (datagram : ByteArray) :
    (c.completedSequence? source datagram = none ∧
        ∃ assembly discarded abandoned lastDiscard,
          (c.receive source (.ofBytes datagram)).2.incoming =
            { c.incoming with
              assembly
              tally := { c.incoming.tally with discarded, abandoned, lastDiscard } }) ∨
      ∃ sequence abandoned,
        c.completedSequence? source datagram = some sequence ∧
          sequence < Sequence.fragmentBit ∧
          Sequence.newer sequence c.incoming.sequence = true ∧
          (c.receive source (.ofBytes datagram)).2.incoming =
            ⟨sequence, .idle,
              Tally.deliver { c.incoming.tally with abandoned }
                (Sequence.gap sequence c.incoming.sequence)⟩ := by
  have hself := c.receives_self source datagram
  cases hdelivered : (c.receive source (.ofBytes datagram)).1.isDelivered with
  | false =>
      have hverdict : (c.receive source (.ofBytes datagram)).1.verdict ≠ .delivered := by
        simpa [Receipt.isDelivered] using hdelivered
      obtain ⟨assembly, discarded, abandoned, lastDiscard, hafter⟩ :=
        hself.of_not_delivered hverdict
      refine Or.inl ⟨?_, assembly, discarded, abandoned, lastDiscard, by rw [hafter]⟩
      rw [completedSequence?, hdelivered]
      rfl
  | true =>
      have hverdict : (c.receive source (.ofBytes datagram)).1.verdict = .delivered := by
        simpa [Receipt.isDelivered] using hdelivered
      rw [hverdict] at hself
      generalize hafter : (c.receive source (.ofBytes datagram)).2 = after at hself ⊢
      generalize (c.receive source (.ofBytes datagram)).1.message? = message? at hself
      refine Or.inr ?_
      cases hself with
      | whole htakes hwhole =>
          obtain ⟨abandoned, htally⟩ := c.incoming.tallyGivenUp_eq
          exact ⟨_, abandoned, completedSequence?_of_takes htakes hdelivered, htakes.range,
            htakes.newer, by rw [accepted, htally]⟩
      | completed htakes hfragment hlegal hcontinues hlast =>
          obtain ⟨abandoned, htally⟩ := c.incoming.tallyFor_eq _
          exact ⟨_, abandoned, completedSequence?_of_takes htakes hdelivered, htakes.range,
            htakes.newer, by rw [accepted, htally]⟩

end Channel

/-! ## Runs -/

theorem Sequence.sendable_of_ne {s : UInt32} (hrange : s < fragmentBit) (hzero : s ≠ 0)
    (hmask : s ≠ 0x7FFFFFFF) :
    Sendable s := by
  have hlt : s.toNat < 2147483648 := hrange
  rw [ne_eq, ← UInt32.toNat_inj] at hzero hmask
  change ¬ s.toNat = 0 at hzero
  change ¬ s.toNat = 2147483647 at hmask
  rw [sendable_iff_toNat]
  omega

/-- The counts of the receiving direction, when messages of the sequences `accepted` were completed
and no others. -/
structure Ledger (i : Incoming) (accepted : List UInt32) : Prop where
  origin : Sequence.Origin i.sequence
  last : (0 :: accepted).getLast? = some i.sequence
  delivered : i.tally.delivered = accepted.length
  counted : Sequence.advance (i.tally.delivered + i.tally.totalDropped) 0 = i.sequence
  unused : accepted = [] → i.tally.dropped = 0
  dropped : ∀ before older later, 0 :: accepted = before ++ [older, later] →
    i.tally.dropped = (Sequence.skipped older later).ncard

namespace Ledger

variable {i : Incoming} {accepted : List UInt32}

theorem fresh : Ledger {} [] where
  origin := Or.inl rfl
  last := rfl
  delivered := rfl
  counted := rfl
  unused := fun _ => rfl
  dropped := by
    intro before older later heq
    have hlength := congrArg List.length heq
    simp at hlength

/-- Only what was accepted counts. -/
theorem keep (hledger : Ledger i accepted) (assembly : Assembly) (discarded abandoned : Nat)
    (lastDiscard : Option Discard) :
    Ledger
      { i with assembly, tally := { i.tally with discarded, abandoned, lastDiscard } }
      accepted where
  origin := hledger.origin
  last := hledger.last
  delivered := hledger.delivered
  counted := hledger.counted
  unused := hledger.unused
  dropped := hledger.dropped

/-- A newer message makes its own step and the steps of the gap. -/
theorem accept (hledger : Ledger i accepted) {s : UInt32} (hsendable : Sequence.Sendable s)
    (hnewer : Sequence.newer s i.sequence = true) (abandoned : Nat) :
    Ledger
      ⟨s, .idle, Tally.deliver { i.tally with abandoned } (Sequence.gap s i.sequence)⟩
      (accepted ++ [s]) where
  origin := Or.inr hsendable
  last := by rw [← List.cons_append, List.getLast?_append_of_ne_nil _ (by simp)]; rfl
  delivered := by
    rw [List.length_append, ← hledger.delivered]
    rfl
  counted := by
    have hsteps := (Sequence.gap_of_newer hledger.origin hsendable hnewer).2
    have hsum : i.tally.delivered + 1 + (i.tally.totalDropped + Sequence.gap s i.sequence) =
        Sequence.gap s i.sequence + 1 + (i.tally.delivered + i.tally.totalDropped) := by
      omega
    change Sequence.advance (i.tally.delivered + 1 +
      (i.tally.totalDropped + Sequence.gap s i.sequence)) 0 = s
    rw [hsum, Sequence.advance_add, hledger.counted, hsteps]
  unused := by simp
  dropped := by
    intro before older later heq
    have hsplit : (0 :: accepted) ++ [s] = (before ++ [older]) ++ [later] := by
      rw [List.cons_append, heq, List.append_assoc]
      rfl
    obtain ⟨hbefore, hlater⟩ := List.append_inj' hsplit rfl
    have holder := hledger.last
    rw [hbefore, List.getLast?_append_of_ne_nil _ (by simp)] at holder
    cases holder
    cases hlater
    exact (Sequence.gap_of_newer hledger.origin hsendable hnewer).1

end Ledger

namespace Channel

theorem ledger_feed {c : Channel} (hfresh : c.incoming = {})
    (traffic : List (Address × ByteArray))
    (hsent : ∀ s ∈ c.completedSequences traffic, s ≠ 0 ∧ s ≠ 0x7FFFFFFF) :
    Ledger (c.feed traffic).incoming (c.completedSequences traffic) := by
  induction traffic using List.reverseRecOn with
  | nil =>
      rw [feed, List.foldl_nil, hfresh]
      exact .fresh
  | append_singleton traffic last ih =>
      obtain ⟨source, datagram⟩ := last
      rw [completedSequences_snoc] at hsent ⊢
      rw [feed_snoc]
      have hledger := ih fun s hs => hsent s (List.mem_append_left _ hs)
      rcases (c.feed traffic).keeps_or_accepts source datagram with
        ⟨hnone, assembly, discarded, abandoned, lastDiscard, hafter⟩ |
          ⟨sequence, abandoned, hsome, hrange, hnewer, hafter⟩
      · rw [hnone, hafter, Option.toList_none, List.append_nil]
        exact hledger.keep assembly discarded abandoned lastDiscard
      · rw [hsome, Option.toList_some] at hsent ⊢
        obtain ⟨hzero, hmask⟩ := hsent sequence (by simp)
        rw [hafter]
        exact hledger.accept (Sequence.sendable_of_ne hrange hzero hmask) hnewer abandoned

/-- After every step of a run from the start the counts of delivered messages and of skipped
sequences make up the way from zero to the last sequence.  The last message skipped the numbers
that are sent between its own sequence and the one accepted before it, or zero. -/
theorem losses_counted (side : Side) (remote : Address) (qport : UInt16) (showDrops : Bool)
    (traffic : List (Address × ByteArray))
    (hsent : ∀ s ∈ (setup side remote qport showDrops).completedSequences traffic,
      s ≠ 0 ∧ s ≠ 0x7FFFFFFF)
    (k : Nat) :
    let accepted := (setup side remote qport showDrops).completedSequences (traffic.take k)
    let incoming := ((setup side remote qport showDrops).feed (traffic.take k)).incoming
    Sequence.advance (incoming.tally.delivered + incoming.tally.totalDropped) 0 =
        incoming.sequence ∧
      incoming.tally.delivered = accepted.length ∧
      (0 :: accepted).getLast? = some incoming.sequence ∧
      (accepted = [] → incoming.tally.dropped = 0) ∧
      ∀ before older later, 0 :: accepted = before ++ [older, later] →
        incoming.tally.dropped = (Sequence.skipped older later).ncard := by
  intro accepted incoming
  have hprefix : ∀ s ∈ accepted, s ≠ 0 ∧ s ≠ 0x7FFFFFFF := by
    intro s hs
    refine hsent s ?_
    rw [← List.take_append_drop k traffic, completedSequences_append]
    exact List.mem_append_left _ hs
  have hledger : Ledger incoming accepted := ledger_feed rfl (traffic.take k) hprefix
  exact ⟨hledger.counted, hledger.delivered, hledger.last, hledger.unused, hledger.dropped⟩

/-- Three messages with long losses before each, the last one behind the end of the circle.  They
make one turn and three steps. -/
theorem losses_counted_across_wrap :
    let c := setup .server .loopback 7 false
    let traffic := [0x3FFFFFFF, 0x7FFFFFF0, 3].map fun s =>
      (Address.loopback, (Packet.whole (some 7) s "probe".toUTF8).bytes)
    let incoming := (c.feed traffic).incoming
    (∀ s ∈ c.completedSequences traffic, s ≠ 0 ∧ s ≠ 0x7FFFFFFF) ∧
      incoming = ⟨3, .idle, ⟨3, 16, 2147483646, 0, 0, none⟩⟩ ∧
      Sequence.advance (incoming.tally.delivered + incoming.tally.totalDropped) 0 =
        incoming.sequence ∧
      incoming.tally.dropped = (Sequence.skipped 0x7FFFFFF0 3).ncard := by
  intro c traffic incoming
  have hcompleted : c.completedSequences traffic = [0x3FFFFFFF, 0x7FFFFFF0, 3] := by
    decide +kernel
  have hincoming : incoming = ⟨3, .idle, ⟨3, 16, 2147483646, 0, 0, none⟩⟩ := by
    decide +kernel
  have hsent : ∀ s ∈ c.completedSequences traffic, s ≠ 0 ∧ s ≠ 0x7FFFFFFF := by
    rw [hcompleted]
    simp
  have hrun := losses_counted .server .loopback 7 false traffic hsent traffic.length
  have hreached : ((setup .server .loopback 7 false).feed traffic).incoming = incoming := rfl
  rw [List.take_length, hreached] at hrun
  -- from here on the counts are not evaluated any more
  clear_value incoming
  obtain ⟨hcounted, -, -, -, hdropped⟩ := hrun
  exact ⟨hsent, hincoming, hcounted,
    hdropped [0, 0x3FFFFFFF] 0x7FFFFFF0 3 (congrArg (0 :: ·) hcompleted)⟩

end Channel
end DatagramLink
