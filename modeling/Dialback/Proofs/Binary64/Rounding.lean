import Dialback.Binary64
import Mathlib.Data.Nat.Log
import Mathlib.Tactic.Ring

/-!
Rounding to doubles. What is rounded is a fraction, so common factors do not matter; magnitudes of
doubles are multiples of the step at their size, so rounding leaves them as they are, and they tell
the bits they come from.
-/
namespace Dialback.Binary64

/-! Fractions. -/

theorem roundDiv_mul {k : Nat} (positive : 0 < k) (n d : Nat) :
    roundDiv (k * n) (k * d) = roundDiv n d := by
  have below (a b : Nat) : 2 * (k * a) < k * b ↔ 2 * a < b := by
    rw [Nat.mul_left_comm]
    exact Nat.mul_lt_mul_left positive
  have above (a b : Nat) : k * b < 2 * (k * a) ↔ b < 2 * a := by
    rw [Nat.mul_left_comm]
    exact Nat.mul_lt_mul_left positive
  simp only [roundDiv, Nat.mul_div_mul_left _ _ positive, Nat.mul_mod_mul_left, below, above]

theorem roundDiv_exact (n : Nat) {d : Nat} (positive : 0 < d) : roundDiv (n * d) d = n := by
  simp [roundDiv, positive]

theorem roundQuanta_mul {k : Nat} (positive : 0 < k) (n d : Nat) :
    roundQuanta (k * n) (k * d) = roundQuanta n d := by
  simp only [roundQuanta, Nat.mul_div_mul_left _ _ positive, Nat.mul_assoc,
    roundDiv_mul positive]

/-- Equal fractions are rounded alike. -/
theorem roundQuanta_congr {n d n' d' : Nat} (positive : 0 < d) (positive' : 0 < d')
    (equal : n * d' = n' * d) : roundQuanta n d = roundQuanta n' d' := by
  calc roundQuanta n d = roundQuanta (d' * n) (d' * d) := (roundQuanta_mul positive' n d).symm
    _ = roundQuanta (d * n') (d * d') := by
      rw [Nat.mul_comm d' n, Nat.mul_comm d n', equal, Nat.mul_comm d d']
    _ = roundQuanta n' d' := roundQuanta_mul positive n' d'

/-- A multiple of its own step is not changed. -/
theorem roundQuanta_of_dvd {n : Nat} (dvd : Nat.pow 2 (n.log2 - 52) ∣ n) : roundQuanta n 1 = n := by
  have positive : 0 < Nat.pow 2 (n.log2 - 52) := Nat.two_pow_pos _
  obtain ⟨k, multiple⟩ := dvd
  have exact := roundDiv_exact k positive
  rw [Nat.mul_comm, ← multiple] at exact
  simp only [roundQuanta, Nat.div_one, Nat.one_mul, exact]
  rw [Nat.mul_comm, ← multiple]

/-! Magnitudes of doubles. -/

variable {x : Binary64}

theorem fraction_lt (x : Binary64) : x.fraction < fractionSize :=
  Nat.mod_lt _ (by decide)

theorem biasedExponent_lt (finite : x.isFinite = true) : x.biasedExponent < 2047 := by
  have bound : x.biasedExponent < 2048 := Nat.mod_lt _ (by decide)
  have below : x.biasedExponent ≠ 2047 := by simpa [isFinite] using finite
  omega

/-- The size of a magnitude that is not below the smallest normal one. -/
theorem log2_normal {f : Nat} (small : f < fractionSize) (e : Nat) :
    ((fractionSize + f) * Nat.pow 2 e).log2 = 52 + e := by
  have power : 0 < 2 ^ e := Nat.two_pow_pos e
  have nonzero : (fractionSize + f) * 2 ^ e ≠ 0 :=
    Nat.mul_ne_zero (by simp [fractionSize]) power.ne'
  have size : fractionSize = 2 ^ 52 := rfl
  change ((fractionSize + f) * 2 ^ e).log2 = 52 + e
  rw [Nat.log2_eq_iff nonzero]
  constructor
  · rw [Nat.pow_add, ← size]
    exact Nat.mul_le_mul_right _ (Nat.le_add_right _ _)
  · have above : fractionSize + f < 2 * fractionSize := by omega
    calc (fractionSize + f) * 2 ^ e < 2 * fractionSize * 2 ^ e :=
          Nat.mul_lt_mul_of_pos_right above power
      _ = 2 ^ (52 + e + 1) := by rw [size]; ring

theorem quanta_normal (normal : x.biasedExponent ≠ 0) : x.quanta =
    (fractionSize + x.fraction) * Nat.pow 2 (x.biasedExponent - 1) := by
  rw [quanta, if_neg normal]

theorem roundQuanta_quanta (x : Binary64) : roundQuanta x.quanta 1 = x.quanta := by
  apply roundQuanta_of_dvd
  by_cases normal : x.biasedExponent = 0
  · have small : x.quanta.log2 - 52 = 0 := by
      have below : x.quanta < 2 ^ 52 := by
        rw [quanta, if_pos normal]
        exact fraction_lt x
      by_cases zero : x.quanta = 0
      · rw [zero]
        rfl
      · have size := (Nat.log2_lt zero).mpr below
        omega
    rw [small]
    exact Nat.one_dvd _
  · rw [quanta_normal normal, log2_normal (fraction_lt x), Nat.add_sub_cancel_left]
    exact Nat.dvd_mul_left _ _

theorem magnitudeBits_quanta (x : Binary64) :
    magnitudeBits x.quanta = x.biasedExponent * fractionSize + x.fraction := by
  have small := fraction_lt x
  by_cases normal : x.biasedExponent = 0
  · simp [quanta, normal, magnitudeBits, small]
  · have power : 0 < Nat.pow 2 (x.biasedExponent - 1) := Nat.two_pow_pos _
    have large : ¬ x.quanta < fractionSize := by
      rw [quanta_normal normal]
      exact Nat.not_lt.mpr (Nat.le_trans (Nat.le_add_right _ _) (Nat.le_mul_of_pos_right _ power))
    have shift : x.quanta.log2 - 52 = x.biasedExponent - 1 := by
      rw [quanta_normal normal, log2_normal small, Nat.add_sub_cancel_left]
    have exponent : x.biasedExponent - 1 + 1 = x.biasedExponent := by omega
    simp only [magnitudeBits, if_neg large, shift, exponent]
    rw [quanta_normal normal, Nat.mul_div_cancel _ power, Nat.add_sub_cancel_left]

theorem quanta_lt (finite : x.isFinite = true) : x.quanta < overflowAt := by
  have small := fraction_lt x
  have bound := biasedExponent_lt finite
  obtain ⟨top, high, limit⟩ : ∃ top, x.biasedExponent - 1 ≤ top ∧
      overflowAt = 2 * fractionSize * Nat.pow 2 top := ⟨2045, by omega, by decide +kernel⟩
  have positive : 0 < Nat.pow 2 top := Nat.two_pow_pos top
  rw [limit]
  by_cases normal : x.biasedExponent = 0
  · have within : x.fraction < 2 * fractionSize := by omega
    rw [quanta, if_pos normal]
    exact Nat.lt_of_lt_of_le within (Nat.le_mul_of_pos_right _ positive)
  · have power : Nat.pow 2 (x.biasedExponent - 1) ≤ Nat.pow 2 top :=
      Nat.pow_le_pow_right (by decide) high
    rw [quanta_normal normal]
    exact Nat.mul_lt_mul_of_lt_of_le (by omega) power positive

/-- The bits of a number that is not negative are those of its magnitude. -/
theorem ofParts_magnitude (unsigned : x.negative = false) :
    ofParts false (x.biasedExponent * fractionSize + x.fraction) = x := by
  have below : x.bits.toNat < signBit := by simpa [negative] using unsigned
  have exponent : x.biasedExponent = x.bits.toNat / fractionSize := by
    apply Nat.mod_eq_of_lt
    simp only [signBit, fractionSize] at below ⊢
    omega
  have whole : x.biasedExponent * fractionSize + x.fraction = x.bits.toNat := by
    rw [exponent, fraction]
    exact Nat.div_add_mod' _ _
  simp [ofParts, whole]

/-- What rounds to the magnitude of a double is that double. -/
theorem ofQuanta_eq (unsigned : x.negative = false) (finite : x.isFinite = true) {n d : Nat}
    (rounds : roundQuanta n d = x.quanta) : ofQuanta false n d = x := by
  simp only [ofQuanta, rounds, if_pos (quanta_lt finite), magnitudeBits_quanta,
    ofParts_magnitude unsigned]

end Dialback.Binary64
