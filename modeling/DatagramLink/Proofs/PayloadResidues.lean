import Mathlib.Data.Nat.ModEq
import DatagramLink.Proofs.ProbeLedger

/-!
# What a payload tells of its probe

A byte of a payload is a window of eight bits on a multiple of the identifier, three bits
above its end.  So nothing of an identifier shows but its residue modulo `2 ^ 11`.  Eight
bytes in a row show all of it: the window moves by an odd number of steps from one byte to
the next, and among eight of them one moves past a multiple of eight for one residue and
not for another.
-/

namespace DatagramLink

/-- What an identifier is multiplied by on its way into a payload. -/
def payloadFactor : Nat := 2654435761 * 31

def payloadByte (id : UInt32) (index : Nat) : UInt8 :=
  (((probeSeed id + UInt32.ofNat index) * 31) >>> 3).toUInt8

/-! ## One byte -/

theorem toNat_payloadByte (id : UInt32) (index : Nat) :
    (payloadByte id index).toNat =
      (id.toNat * payloadFactor + index * 31) / 8 % 256 := by
  have hmixed : ((probeSeed id + UInt32.ofNat index) * 31).toNat =
      (id.toNat * payloadFactor + index * 31) % 2 ^ 32 := by
    have hfactor : id.toNat * payloadFactor + index * 31 =
        (id.toNat * 2654435761 + index) * 31 := by
      rw [payloadFactor, Nat.add_mul, Nat.mul_assoc]
    rw [hfactor, probeSeed, UInt32.toNat_mul, UInt32.toNat_add, UInt32.toNat_mul,
      UInt32.toNat_ofNat']
    simp [Nat.mul_mod, Nat.add_mod]
  rw [payloadByte, UInt32.toNat_toUInt8, UInt32.toNat_shiftRight, hmixed]
  generalize id.toNat * payloadFactor + index * 31 = mixed
  change (mixed % 2 ^ 32) >>> 3 % 2 ^ 8 = mixed / 8 % 256
  rw [Nat.shiftRight_eq_div_pow]
  omega

/-- Equal residues give equal bytes. -/
theorem payloadByte_congr {a b : UInt32}
    (hsame : a.toNat % 2048 = b.toNat % 2048) (index : Nat) :
    payloadByte a index = payloadByte b index := by
  have hmixed : a.toNat * payloadFactor + index * 31 ≡
      b.toNat * payloadFactor + index * 31 [MOD 2048] :=
    (Nat.ModEq.mul_right payloadFactor hsame).add_right (index * 31)
  rw [← UInt8.toNat_inj, toNat_payloadByte, toNat_payloadByte]
  unfold Nat.ModEq at hmixed
  omega

/-! ## Eight bytes -/

/-- Of two numbers in one window, only the one with the larger end moves on to the next one
after as many steps as it has there. -/
theorem window_ne {x y : Nat} (hwindow : x / 8 % 256 = y / 8 % 256) (hless : x % 8 < y % 8) :
    (x + y % 8 * 31) / 8 % 256 ≠ (y + y % 8 * 31) / 8 % 256 := by
  have hx : (x + y % 8 * 31) / 8 = x / 8 + 4 * (y % 8) - 1 := by omega
  have hy : (y + y % 8 * 31) / 8 = y / 8 + 4 * (y % 8) := by omega
  rw [hx, hy]
  omega

theorem residue_eq_of_windows {x y : Nat}
    (hwindows : ∀ index < 8, (x + index * 31) / 8 % 256 = (y + index * 31) / 8 % 256) :
    x % 2048 = y % 2048 := by
  have hfirst : x / 8 % 256 = y / 8 % 256 := hwindows 0 (by decide)
  have hend : x % 8 = y % 8 := by
    rcases Nat.lt_trichotomy (x % 8) (y % 8) with hless | hequal | hless
    · exact absurd (hwindows (y % 8) (Nat.mod_lt y (by decide))) (window_ne hfirst hless)
    · exact hequal
    · exact absurd (hwindows (x % 8) (Nat.mod_lt x (by decide))).symm
        (window_ne hfirst.symm hless)
  omega

theorem residue_eq_of_payloadBytes {a b : UInt32}
    (hbytes : ∀ index < 8, payloadByte a index = payloadByte b index) :
    a.toNat % 2048 = b.toNat % 2048 := by
  have hmixed : a.toNat * payloadFactor % 2048 =
      b.toNat * payloadFactor % 2048 := by
    apply residue_eq_of_windows
    intro index hindex
    rw [← toNat_payloadByte, ← toNat_payloadByte, hbytes index hindex]
  have hinvertible : Nat.gcd 2048 payloadFactor = 1 := by decide
  exact Nat.ModEq.cancel_right_of_coprime hinvertible hmixed

/-! ## Payloads -/

theorem probePayload_eq_iff_bytes (a b : UInt32) (size : Nat) :
    probePayload a size = probePayload b size ↔
      ∀ index < size, payloadByte a index = payloadByte b index := by
  have hlist : probePayload a size = probePayload b size ↔
      (probePayload a size).data.toList = (probePayload b size).data.toList := by
    constructor
    · exact fun hsame => congrArg (·.data.toList) hsame
    · exact fun hsame => ByteArray.ext (Array.toList_inj.mp hsame)
  rw [hlist, probePayload, probePayload, Bytes.toList_generate, Bytes.toList_generate,
    List.map_inj_left]
  simp only [List.mem_range]
  rfl

theorem probePayload_eq_iff {size : Nat} (hsize : 8 ≤ size) (a b : UInt32) :
    probePayload a size = probePayload b size ↔
      a.toNat % 2048 = b.toNat % 2048 := by
  rw [probePayload_eq_iff_bytes]
  constructor
  · intro hbytes
    apply residue_eq_of_payloadBytes
    intro index hindex
    exact hbytes index (Nat.lt_of_lt_of_le hindex hsize)
  · intro hsame index _
    exact payloadByte_congr hsame index

namespace Client

/-- Payloads of eight bytes or more are equal exactly when the identifiers are congruent modulo
2048.  So a client takes the payload of one probe for that of another of the same size exactly
then, and counts it as corrupted otherwise. -/
theorem payload_tells_residue {size : Nat} (hsize : 8 ≤ size) (a b : UInt32) :
    (probePayload a size = probePayload b size ↔ a.toNat % 2048 = b.toNat % 2048) ∧
    ∀ (c : Client) (timestamp clock : UInt64),
      c.inFlight.find? (·.id == a) = some ⟨a, size⟩ →
        (c.handleEcho a timestamp (probePayload b size) clock).2.stats.corrupted =
            c.stats.corrupted + (if a.toNat % 2048 = b.toNat % 2048 then 0 else 1) ∧
          (c.handleEcho a timestamp (probePayload b size) clock).2.stats.echoed =
            c.stats.echoed + (if a.toNat % 2048 = b.toNat % 2048 then 1 else 0) := by
  refine ⟨probePayload_eq_iff hsize a b, ?_⟩
  intro c timestamp clock hawaited
  have hanswers : answers ⟨a, size⟩ (probePayload b size) = true ↔
      a.toNat % 2048 = b.toNat % 2048 := by
    rw [answers_iff, eq_comm]
    exact probePayload_eq_iff hsize a b
  simp only [handleEcho, hawaited, countEcho, hanswers]
  by_cases hsame : a.toNat % 2048 = b.toNat % 2048
  · simp only [if_pos hsame]
    exact ⟨rfl, rfl⟩
  · simp only [if_neg hsame]
    exact ⟨rfl, rfl⟩

/-- The payload of probe 2050 passes for that of probe 2, and that of probe 1 does not. -/
theorem payload_tells_residue_of_small_probes :
    (8 ≤ 8 ∧ (probePayload 2 8 = probePayload 2050 8 ↔ 2 % 2048 = 2050 % 2048)) ∧
    ({ new .loopback 7 with inFlight := [⟨1, 8⟩, ⟨2, 8⟩] } : Client).inFlight.find?
        (·.id == 2) = some ⟨2, 8⟩ ∧
      (({ new .loopback 7 with inFlight := [⟨1, 8⟩, ⟨2, 8⟩] } : Client).handleEcho 2 0
        (probePayload 1 8) 0).2.stats.corrupted = 1 := by
  have hawaited : ({ new .loopback 7 with inFlight := [⟨1, 8⟩, ⟨2, 8⟩] } : Client).inFlight.find?
      (·.id == 2) = some ⟨2, 8⟩ := rfl
  obtain ⟨hpasses, -⟩ := payload_tells_residue (Nat.le_refl 8) 2 2050
  obtain ⟨-, hnoticed⟩ := payload_tells_residue (Nat.le_refl 8) 2 1
  exact ⟨⟨Nat.le_refl 8, hpasses⟩, hawaited, (hnoticed _ 0 0 hawaited).1⟩

/-- Seven bytes do not show the last bit of the residue. -/
example : probePayload 1882 7 = probePayload 489 7 := by decide

end Client
end DatagramLink
