import Mathlib.Data.Set.Card
import DatagramLink.Proofs.SequenceOrder

/-!
# Once around the circle of sequence numbers

The numbers that are sent make one circle under `Sequence.next`: `2 ^ 31 - 2` steps lead back to
where they started, and fewer do not.  `newer` and `gap` only see two words and no steps.  They
subtract and mask, and `gap` takes off the two words that are never sent.  Here both are compared
with counting: `gap` with the numbers that lie between two others on the way around.
-/

namespace DatagramLink
namespace Sequence

variable {s : UInt32}

/-! ## Turns -/

theorem advance_sendable (hs : Sendable s) (k : Nat) : Sendable (advance k s) := by
  cases k with
  | zero => exact hs
  | succ k => exact next_sendable _

/-- Only whole turns lead back. -/
theorem advance_eq_self_iff (hs : Sendable s) (k : Nat) :
    advance k s = s ↔ 2 ^ 31 - 2 ∣ k := by
  cases k with
  | zero => exact iff_of_true rfl (Nat.dvd_zero _)
  | succ k =>
      have hvalue := toNat_advance (Or.inr hs) (Nat.succ_pos k)
      rw [sendable_iff_toNat] at hs
      rw [← UInt32.toNat_inj, hvalue, Nat.dvd_iff_mod_eq_zero]
      omega

/-- Two numbers are not both newer than the other one, whatever words they are. -/
theorem newer_asymm (a b : UInt32) : ¬ (newer a b = true ∧ newer b a = true) := by
  have ha := a.toNat_lt
  have hb := b.toNat_lt
  rw [newer_iff_toNat, newer_iff_toNat]
  omega

/-! ## Numbers in between -/

/-- Behind `older` and before `later` on the way forward.  A way to a smaller number leads through
the end of the circle. -/
def Between (older s later : UInt32) : Prop :=
  if older < later then older < s ∧ s < later else older < s ∨ s < later

/-- The numbers that are sent on the way from `older` to `later`. -/
def skipped (older later : UInt32) : Set UInt32 := {s | Sendable s ∧ Between older s later}

theorem between_iff_toNat (older s later : UInt32) :
    Between older s later ↔
      if older.toNat < later.toNat then older.toNat < s.toNat ∧ s.toNat < later.toNat
      else older.toNat < s.toNat ∨ s.toNat < later.toNat := by
  simp only [Between, UInt32.lt_iff_toNat_lt]

theorem ncard_skipped_advance {older : UInt32} (holder : Origin older) {k : Nat}
    (hpos : 0 < k) (hturn : k ≤ 2 ^ 31 - 3) :
    (skipped older (advance k older)).ncard = k - 1 := by
  have hstep : ∀ i, (advance (i + 1) older).toNat = (older.toNat + i) % 2147483646 + 1 :=
    fun i => toNat_advance holder (Nat.succ_pos i)
  have hlater := toNat_advance holder hpos
  rw [origin_iff_toNat] at holder
  refine Set.ncard_eq_of_bijective (fun i _ => advance (i + 1) older) ?_ ?_ ?_
  · -- a number in between is reached by as many steps as it is ahead
    rintro s ⟨hsendable, hbetween⟩
    rw [sendable_iff_toNat] at hsendable
    rw [between_iff_toNat, hlater] at hbetween
    refine ⟨(s.toNat + 2147483645 - older.toNat) % 2147483646, ?_, ?_⟩
    · split at hbetween <;> omega
    · rw [← UInt32.toNat_inj, hstep]
      omega
  · intro i hi
    refine ⟨next_sendable _, ?_⟩
    rw [between_iff_toNat, hlater, hstep]
    split <;> omega
  · intro i j hi hj heq
    have hvalues := congrArg UInt32.toNat heq
    rw [hstep, hstep] at hvalues
    omega

/-- A newer number is less than half of the circle ahead. -/
theorem exists_advance_of_newer {older later : UInt32} (holder : Origin older)
    (hlater : Sendable later) (hnewer : newer later older = true) :
    ∃ k, 0 < k ∧ k ≤ 2 ^ 31 - 3 ∧ later = advance k older := by
  have hvalue : ∀ k, 0 < k → (advance k older).toNat = _ := fun _ => toNat_advance holder
  rw [origin_iff_toNat] at holder
  rw [sendable_iff_toNat] at hlater
  rw [newer_iff_toNat] at hnewer
  by_cases hwrap : older.toNat < later.toNat
  · have hahead : 0 < later.toNat - older.toNat := by omega
    refine ⟨_, hahead, by omega, ?_⟩
    rw [← UInt32.toNat_inj, hvalue _ hahead]
    omega
  · have hahead : 0 < later.toNat + 2147483646 - older.toNat := by omega
    refine ⟨_, hahead, by omega, ?_⟩
    rw [← UInt32.toNat_inj, hvalue _ hahead]
    omega

/-- From what was accepted last to a newer number the gap counts the numbers in between, and the
steps are one more. -/
theorem gap_of_newer {older later : UInt32} (holder : Origin older) (hlater : Sendable later)
    (hnewer : newer later older = true) :
    gap later older = (skipped older later).ncard ∧
      advance (gap later older + 1) older = later := by
  obtain ⟨k, hpos, hturn, rfl⟩ := exists_advance_of_newer holder hlater hnewer
  rw [gap_advance holder hpos hturn, ncard_skipped_advance holder hpos hturn,
    Nat.sub_add_cancel hpos]
  exact ⟨rfl, rfl⟩

/-! ## The circular order -/

/-- What `newer` and `gap` say of a number and the one `k` steps ahead. -/
theorem advance_circular (hs : Sendable s) :
    (∀ k, Sendable (advance k s)) ∧
      (∀ k, 0 < k → k < 2 ^ 31 - 1 → (advance k s = s ↔ k = 2 ^ 31 - 2)) ∧
      (∀ k, 1 ≤ k → k ≤ 2 ^ 30 - 3 →
        newer (advance k s) s = true ∧ newer s (advance k s) = false) ∧
      (∀ k, 1 ≤ k → k ≤ 2 ^ 31 - 3 → gap (advance k s) s = k - 1) ∧
      ∀ a b, ¬ (newer a b = true ∧ newer b a = true) := by
  refine ⟨advance_sendable hs, fun k hpos hturn => ?_, fun k hpos hrun => ?_,
    fun k hpos hturn => ?_, newer_asymm⟩
  · rw [advance_eq_self_iff hs]
    constructor
    · intro hdvd
      have hle := Nat.le_of_dvd hpos hdvd
      omega
    · rintro rfl
      exact Nat.dvd_refl _
  · exact newer_advance (Or.inr hs) hpos hrun
  · exact gap_advance (Or.inr hs) hpos hturn

/-- Three steps from the last number, across the two words that are never sent. -/
theorem advance_circular_past_end :
    Sendable last ∧ Sendable (advance 3 last) ∧ advance 3 last = 3 ∧
      (newer 3 last = true ∧ newer last 3 = false) ∧ gap 3 last = 2 ∧
      (advance 3 last = last ↔ 3 = 2 ^ 31 - 2) := by
  have hlast : Sendable last := by decide
  have hthree : advance 3 last = 3 := by decide
  obtain ⟨hsendable, hturn, hnewer, hgap, -⟩ := advance_circular hlast
  have hfar := hnewer 3 (by decide) (by decide)
  have hbetween := hgap 3 (by decide) (by decide)
  rw [hthree] at hfar hbetween
  exact ⟨hlast, hsendable 3, hthree, hfar, hbetween, hturn 3 (by decide) (by decide)⟩

end Sequence
end DatagramLink
