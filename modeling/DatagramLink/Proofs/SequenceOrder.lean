import Mathlib.Algebra.Group.Nat.Defs
import Mathlib.Data.Nat.Bitwise
import DatagramLink.Sequence

/-!
# The circular order of sequence numbers

A channel numbers its messages by `Sequence.next` and compares them by
`Sequence.newer`.  The order is circular, so it is a strict order only on runs
that are shorter than half of the circle.  Here a run starts at an origin: zero,
which no message carries, or any number that is sent.  On the first `2 ^ 30 - 3`
numbers behind an origin, `newer` is the order in which they were given out, also
where the run passes the end of the circle.
-/

namespace DatagramLink
namespace Sequence

/-- What the last accepted sequence can be: zero before the first message, and
then a number that is sent. -/
def Origin (sequence : UInt32) : Prop :=
  sequence = 0 ∨ Sendable sequence

/-- The longest run in which earlier and later numbers are told apart. -/
def maxRun : Nat := 2 ^ 30 - 3

/-! ## Numbers as naturals -/

theorem sendable_iff_toNat (s : UInt32) :
    Sendable s ↔ 1 ≤ s.toNat ∧ s.toNat ≤ 2147483646 := by
  simp [Sendable, first, last, UInt32.le_iff_toNat_le]

theorem origin_iff_toNat (s : UInt32) :
    Origin s ↔ s.toNat ≤ 2147483646 := by
  unfold Origin
  rw [sendable_iff_toNat, ← UInt32.toNat_inj, UInt32.toNat_zero]
  omega

theorem toNat_and_mask (s : UInt32) :
    (s &&& mask).toNat = s.toNat % 2147483648 := by
  rw [UInt32.toNat_and]
  exact Nat.and_two_pow_sub_one_eq_mod s.toNat 31

/-- The fragment bit is the highest one of a word. -/
theorem and_fragmentBit_ne_zero (word : UInt32) :
    (word &&& fragmentBit != 0) = decide (2147483648 ≤ word.toNat) := by
  have hword := word.toNat_lt
  have hbit : (word &&& fragmentBit).toNat = (word.toNat.testBit 31).toNat * 2 ^ 31 := by
    rw [UInt32.toNat_and]
    exact Nat.and_two_pow word.toNat 31
  have htest : word.toNat.testBit 31 = decide (2147483648 ≤ word.toNat) := by
    rw [Nat.testBit_eq_decide_div_mod_eq, decide_eq_decide]
    omega
  rw [Bool.eq_iff_iff, bne_iff_ne, ne_eq, ← UInt32.toNat_inj, hbit, UInt32.toNat_zero,
    ← htest]
  cases word.toNat.testBit 31 <;> simp

theorem toNat_next (s : UInt32) :
    (next s).toNat = if 2147483646 ≤ s.toNat then 1 else s.toNat + 1 := by
  have hbound := s.toNat_lt
  by_cases hlast : 2147483646 ≤ s.toNat
  · have hle : last ≤ s := by
      simpa [last, UInt32.le_iff_toNat_le] using hlast
    simp [next, hle, hlast, first]
  · have hle : ¬ last ≤ s := by
      simpa [last, UInt32.le_iff_toNat_le] using hlast
    have hsum : (s + 1).toNat = s.toNat + 1 := by
      rw [UInt32.toNat_add, UInt32.toNat_one]
      omega
    simp [next, hle, hlast, hsum]

/-- How far apart two numbers are on the circle, going forward from `b` to `a`. -/
theorem toNat_sub_and_mask (a b : UInt32) :
    ((a - b) &&& mask).toNat = (4294967296 - b.toNat + a.toNat) % 2147483648 := by
  rw [toNat_and_mask, UInt32.toNat_sub]
  omega

theorem newer_iff_toNat (a b : UInt32) :
    newer a b = true ↔
      0 < (4294967296 - b.toNat + a.toNat) % 2147483648 ∧
        (4294967296 - b.toNat + a.toNat) % 2147483648 < 1073741824 := by
  have hzero : (a - b) &&& mask ≠ 0 ↔ ((a - b) &&& mask).toNat ≠ 0 := by
    rw [ne_eq, ne_eq, ← UInt32.toNat_inj, UInt32.toNat_zero]
  simp only [newer, Bool.and_eq_true, bne_iff_ne, decide_eq_true_eq]
  rw [hzero, UInt32.lt_iff_toNat_lt, toNat_sub_and_mask, Nat.pos_iff_ne_zero]
  rfl

/-! ## The numbers that are sent -/

theorem first_sendable : Sendable first := by decide

theorem next_sendable (s : UInt32) : Sendable (next s) := by
  rw [sendable_iff_toNat, toNat_next]
  split <;> omega

theorem Origin.advance {s : UInt32} (hs : Origin s) (k : Nat) :
    Origin (Sequence.advance k s) := by
  cases k with
  | zero => exact hs
  | succ k => exact Or.inr (next_sendable _)

theorem advance_succ (k : Nat) (s : UInt32) :
    advance (k + 1) s = advance k (next s) := by
  induction k with
  | zero => rfl
  | succ k ih => exact congrArg next ih

theorem advance_add (j k : Nat) (s : UInt32) :
    advance (j + k) s = advance j (advance k s) := by
  induction j with
  | zero => simp [advance]
  | succ j ih =>
      rw [Nat.succ_add]
      exact congrArg next ih

/-- The number `k` steps behind an origin, one turn of the circle being
`2 ^ 31 - 2` steps long. -/
theorem toNat_advance {s : UInt32} (hs : Origin s) {k : Nat} (hk : 0 < k) :
    (advance k s).toNat = (s.toNat + k - 1) % 2147483646 + 1 := by
  rw [origin_iff_toNat] at hs
  induction k with
  | zero => omega
  | succ k ih =>
      rw [advance, toNat_next]
      by_cases hzero : k = 0
      · subst k
        rw [advance]
        by_cases hlast : 2147483646 ≤ s.toNat
        · rw [if_pos hlast]
          omega
        · rw [if_neg hlast]
          omega
      · rw [ih (Nat.pos_of_ne_zero hzero)]
        split <;> omega

/-! ## Earlier and later -/

/-- On a run of less than half of the circle the last number is newer than the
first one, and not the other way round. -/
theorem newer_advance {s : UInt32} (hs : Origin s) {k : Nat}
    (hpos : 0 < k) (hrun : k ≤ maxRun) :
    newer (advance k s) s = true ∧ newer s (advance k s) = false := by
  have hvalue := toNat_advance hs hpos
  rw [origin_iff_toNat] at hs
  have hk : k ≤ 1073741821 := hrun
  rw [← Bool.not_eq_true, newer_iff_toNat, newer_iff_toNat]
  by_cases hwrap : s.toNat + k ≤ 2147483646
  · have hplain : (advance k s).toNat = s.toNat + k := by omega
    rw [hplain]
    omega
  · have hwrapped : (advance k s).toNat = s.toNat + k - 2147483646 := by omega
    rw [hwrapped]
    omega

/-- Of two numbers of one run the newer one is the one that was given out
later. -/
theorem newer_advance_advance_iff {s : UInt32} (hs : Origin s) {i j : Nat}
    (hi : i ≤ maxRun) (hj : j ≤ maxRun) :
    newer (advance i s) (advance j s) = true ↔ j < i := by
  rcases Nat.lt_trichotomy i j with hlt | heq | hgt
  · have hsplit : advance j s = advance (j - i) (advance i s) := by
      rw [← advance_add, Nat.sub_add_cancel (Nat.le_of_lt hlt)]
    have hnewer := newer_advance (hs.advance i) (k := j - i) (by omega) (by omega)
    rw [hsplit, hnewer.2]
    simp only [Bool.false_eq_true, false_iff]
    omega
  · subst j
    have hself : newer (advance i s) (advance i s) = false := by
      simp [newer]
    simp [hself]
  · have hsplit : advance i s = advance (i - j) (advance j s) := by
      rw [← advance_add, Nat.sub_add_cancel (Nat.le_of_lt hgt)]
    have hnewer := newer_advance (hs.advance j) (k := i - j) (by omega) (by omega)
    rw [hsplit, hnewer.1]
    exact iff_of_true rfl hgt

theorem newer_next {s : UInt32} (hs : Origin s) : newer (next s) s = true :=
  (newer_advance hs (k := 1) (by omega) (by decide)).1

/-- Numbers of one run are different. -/
theorem advance_inj {s : UInt32} (hs : Origin s) {i j : Nat}
    (hi : i ≤ maxRun) (hj : j ≤ maxRun) (heq : advance i s = advance j s) :
    i = j := by
  have hij := newer_advance_advance_iff hs hi hj
  have hji := newer_advance_advance_iff hs hj hi
  rw [heq] at hij hji
  have hself : newer (advance j s) (advance j s) = false := by
    simp [newer]
  simp only [hself, Bool.false_eq_true, false_iff] at hij hji
  omega

/-- On a way of less than a whole turn the gap counts the numbers in between. -/
theorem gap_advance {s : UInt32} (hs : Origin s) {k : Nat}
    (hpos : 0 < k) (hturn : k ≤ 2 ^ 31 - 3) : gap (advance k s) s = k - 1 := by
  have hvalue := toNat_advance hs hpos
  rw [origin_iff_toNat] at hs
  simp only [gap, toNat_sub_and_mask, UInt32.lt_iff_toNat_lt]
  by_cases hwrap : s.toNat + k ≤ 2147483646
  · have hplain : (advance k s).toNat = s.toNat + k := by omega
    rw [hplain, if_neg (by omega)]
    omega
  · have hwrapped : (advance k s).toNat = s.toNat + k - 2147483646 := by omega
    rw [hwrapped, if_pos (by omega)]
    omega

theorem gap_next {s : UInt32} (hs : Origin s) : gap (next s) s = 0 :=
  gap_advance hs (k := 1) (by omega) (by omega)

end Sequence
end DatagramLink
