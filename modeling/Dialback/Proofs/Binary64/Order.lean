import Dialback.Proofs.Binary64.Rounding

/-!
Rounding keeps the order. The magnitudes of doubles are the fixed points of rounding, so whatever
lies below one of them is rounded to something that does not lie above it. Infinity takes part as
the first magnitude that is too large.
-/
namespace Dialback.Binary64

/-! The nearest natural. -/

/-- The quotient lies beyond the middle between `k` and `k + 1`, or on it if the upper one is even. -/
theorem lt_roundDiv_iff {n d : Nat} (positive : 0 < d) (k : Nat) : k < roundDiv n d ↔
    (2 * k + 1) * d < 2 * n ∨ (2 * k + 1) * d = 2 * n ∧ k % 2 = 1 := by
  have split : d * (n / d) + n % d = n := Nat.div_add_mod n d
  have rest : n % d < d := Nat.mod_lt n positive
  have between : n / d ≤ roundDiv n d ∧ roundDiv n d ≤ n / d + 1 := by
    unfold roundDiv
    grind
  rcases Nat.lt_trichotomy k (n / d) with below | rfl | above
  · have far : (2 * k + 2) * d ≤ 2 * (d * (n / d)) := by
      rw [Nat.mul_left_comm, Nat.mul_comm _ d]
      exact Nat.mul_le_mul_left d (by omega)
    rw [Nat.add_mul] at far ⊢
    omega
  · rw [roundDiv, Nat.add_mul, Nat.mul_assoc, Nat.mul_comm _ d]
    grind
  · have far : 2 * (d * (n / d + 1)) ≤ 2 * k * d := by
      rw [Nat.mul_assoc, Nat.mul_comm k d]
      exact Nat.mul_le_mul_left 2 (Nat.mul_le_mul_left d above)
    rw [Nat.mul_succ] at far
    rw [Nat.add_mul]
    omega

theorem roundDiv_mono {n d n' d' : Nat} (positive : 0 < d) (positive' : 0 < d')
    (le : n * d' ≤ n' * d) : roundDiv n d ≤ roundDiv n' d' := by
  refine Nat.le_of_not_lt fun less => ?_
  have beyond := (lt_roundDiv_iff positive _).mp less
  have within := mt (lt_roundDiv_iff positive' _).mpr (Nat.lt_irrefl (roundDiv n' d'))
  generalize roundDiv n' d' = k at beyond within
  -- Both middles on one denominator.
  have scaled : 2 * n * d' ≤ 2 * n' * d := by
    rw [Nat.mul_assoc, Nat.mul_assoc]
    exact Nat.mul_le_mul_left 2 le
  rcases Nat.lt_trichotomy ((2 * k + 1) * d') (2 * n') with lt | eq | gt
  · exact within (Or.inl lt)
  · rcases beyond with strict | ⟨_, odd⟩
    · have strictly : (2 * k + 1) * d * d' < 2 * n * d' := Nat.mul_lt_mul_of_pos_right strict positive'
      rw [Nat.mul_right_comm, eq] at strictly
      exact Nat.lt_irrefl _ (Nat.lt_of_lt_of_le strictly scaled)
    · exact within (Or.inr ⟨eq, odd⟩)
  · have middle : (2 * k + 1) * d * d' ≤ 2 * n * d' := by
      apply Nat.mul_le_mul_right
      rcases beyond with strict | ⟨exact, _⟩
      · exact strict.le
      · exact exact.le
    have strictly : 2 * n' * d < (2 * k + 1) * d' * d := Nat.mul_lt_mul_of_pos_right gt positive
    rw [Nat.mul_right_comm] at middle
    exact Nat.lt_irrefl _ (Nat.lt_of_lt_of_le strictly (middle.trans scaled))

theorem roundDiv_le {n d k : Nat} (positive : 0 < d) (le : n ≤ k * d) : roundDiv n d ≤ k := by
  rw [← roundDiv_exact k positive]
  exact roundDiv_mono positive positive (Nat.mul_le_mul_right d le)

theorem le_roundDiv {n d k : Nat} (positive : 0 < d) (le : k * d ≤ n) : k ≤ roundDiv n d := by
  rw [← roundDiv_exact k positive]
  exact roundDiv_mono positive positive (Nat.mul_le_mul_right d le)

/-! The nearest representable magnitude. -/

/-- The distance of neighbouring magnitudes of doubles at a size. -/
def gap (n : Nat) : Nat :=
  Nat.pow 2 (n.log2 - 52)

/-- The magnitudes that need no rounding. -/
def Representable (n : Nat) : Prop :=
  gap n ∣ n

theorem gap_pos (n : Nat) : 0 < gap n :=
  Nat.two_pow_pos _

theorem gap_dvd {n k : Nat} (small : n.log2 ≤ k + 52) : gap n ∣ Nat.pow 2 k :=
  Nat.pow_dvd_pow 2 (by omega)

theorem lt_gap_mul (n : Nat) : n < Nat.pow 2 53 * gap n := by
  have size : n < 2 ^ (n.log2 + 1) := Nat.lt_log2_self
  calc n < 2 ^ (n.log2 + 1) := size
    _ ≤ 2 ^ (53 + (n.log2 - 52)) := Nat.pow_le_pow_right (by decide) (by omega)
    _ = Nat.pow 2 53 * gap n := Nat.pow_add 2 53 _

/-- At most 53 binary digits in front of zeros. -/
theorem representable_mul_pow {q : Nat} (digits : q ≤ Nat.pow 2 53) (k : Nat) :
    Representable (q * Nat.pow 2 k) := by
  have power : 0 < Nat.pow 2 k := Nat.two_pow_pos k
  rcases Nat.eq_or_lt_of_le digits with rfl | fewer
  · have whole : Nat.pow 2 53 * Nat.pow 2 k = Nat.pow 2 (53 + k) := (Nat.pow_add 2 53 k).symm
    have size : (Nat.pow 2 (53 + k)).log2 = 53 + k := Nat.log2_two_pow
    rw [Representable, whole]
    exact gap_dvd (by omega)
  · by_cases zero : q = 0
    · rw [zero, Nat.zero_mul]
      exact Nat.dvd_zero _
    · have size : (q * Nat.pow 2 k).log2 < 53 + k := by
        rw [Nat.log2_lt (Nat.mul_ne_zero zero power.ne'), Nat.pow_add]
        exact Nat.mul_lt_mul_of_pos_right fewer power
      exact Nat.dvd_mul_left_of_dvd (gap_dvd (by omega)) q

theorem roundQuanta_eq (n d : Nat) :
    roundQuanta n d = roundDiv n (d * gap (n / d)) * gap (n / d) :=
  rfl

theorem representable_roundQuanta (n : Nat) {d : Nat} (positive : 0 < d) :
    Representable (roundQuanta n d) := by
  have below : n < Nat.pow 2 53 * gap (n / d) * d :=
    (Nat.div_lt_iff_lt_mul positive).mp (lt_gap_mul (n / d))
  rw [roundQuanta_eq]
  apply representable_mul_pow
  apply roundDiv_le (Nat.mul_pos positive (gap_pos _))
  rw [Nat.mul_comm d, ← Nat.mul_assoc]
  exact below.le

theorem roundQuanta_le_of_dvd {n d m : Nat} (positive : 0 < d) (dvd : gap (n / d) ∣ m)
    (le : n ≤ m * d) : roundQuanta n d ≤ m := by
  obtain ⟨k, rfl⟩ := dvd
  rw [roundQuanta_eq, Nat.mul_comm]
  refine Nat.mul_le_mul_left _ (roundDiv_le (Nat.mul_pos positive (gap_pos _)) ?_)
  rwa [Nat.mul_left_comm, Nat.mul_comm k, Nat.mul_comm d]

theorem le_roundQuanta_of_dvd {n d m : Nat} (positive : 0 < d) (dvd : gap (n / d) ∣ m)
    (le : m * d ≤ n) : m ≤ roundQuanta n d := by
  obtain ⟨k, rfl⟩ := dvd
  rw [roundQuanta_eq, Nat.mul_comm]
  refine Nat.mul_le_mul_right _ (le_roundDiv (Nat.mul_pos positive (gap_pos _)) ?_)
  rwa [Nat.mul_left_comm, Nat.mul_comm k, Nat.mul_comm d]

theorem roundQuanta_mono {n d n' d' : Nat} (positive : 0 < d) (positive' : 0 < d')
    (le : n * d' ≤ n' * d) : roundQuanta n d ≤ roundQuanta n' d' := by
  have floors : n / d ≤ n' / d' := by
    rw [Nat.le_div_iff_mul_le positive']
    refine Nat.le_of_mul_le_mul_right (Nat.le_trans ?_ le) positive
    rw [Nat.mul_right_comm]
    exact Nat.mul_le_mul_right _ (Nat.div_mul_le_self n d)
  have sizes : (n / d).log2 ≤ (n' / d').log2 := by
    rw [Nat.log2_eq_log_two, Nat.log2_eq_log_two]
    exact Nat.log_mono_right floors
  rcases Nat.eq_or_lt_of_le sizes with same | smaller
  · have step : gap (n / d) = gap (n' / d') := by rw [gap, gap, same]
    rw [roundQuanta_eq, roundQuanta_eq, step]
    apply Nat.mul_le_mul_right
    apply roundDiv_mono (Nat.mul_pos positive (gap_pos _)) (Nat.mul_pos positive' (gap_pos _))
    rw [← Nat.mul_assoc, ← Nat.mul_assoc]
    exact Nat.mul_le_mul_right _ le
  · -- A power of two lies between both quotients, and is a multiple of both gaps.
    have nonzero : n' / d' ≠ 0 := fun zero => by simp [zero] at smaller
    have lower : Nat.pow 2 (n' / d').log2 ≤ n' / d' := Nat.log2_self_le nonzero
    have upper : n / d < Nat.pow 2 (n' / d').log2 :=
      Nat.lt_of_lt_of_le Nat.lt_log2_self (Nat.pow_le_pow_right (by decide) smaller)
    calc roundQuanta n d ≤ Nat.pow 2 (n' / d').log2 :=
          roundQuanta_le_of_dvd positive (gap_dvd (by omega))
            ((Nat.div_lt_iff_lt_mul positive).mp upper).le
      _ ≤ roundQuanta n' d' := le_roundQuanta_of_dvd positive' (gap_dvd (by omega))
            ((Nat.le_div_iff_mul_le positive').mp lower)

theorem roundQuanta_eq_self {m : Nat} (representable : Representable m) : roundQuanta m 1 = m :=
  roundQuanta_of_dvd representable

theorem roundQuanta_le {n d m : Nat} (positive : 0 < d) (representable : Representable m)
    (le : n ≤ m * d) : roundQuanta n d ≤ m := by
  rw [← roundQuanta_eq_self representable]
  exact roundQuanta_mono positive Nat.one_pos (by simpa using le)

theorem le_roundQuanta {n d m : Nat} (positive : 0 < d) (representable : Representable m)
    (le : m * d ≤ n) : m ≤ roundQuanta n d := by
  rw [← roundQuanta_eq_self representable]
  exact roundQuanta_mono Nat.one_pos positive (by simpa using le)

/-- A whole number of quanta that does not lie above a double is not rounded above it. -/
theorem roundQuanta_whole_le {n m : Nat} (representable : Representable m) (le : n ≤ m) :
    roundQuanta n 1 ≤ m :=
  roundQuanta_le Nat.one_pos representable (le.trans (Nat.mul_one m).ge)

theorem gap_add {m rest : Nat} (representable : Representable m) (small : rest < gap m) :
    gap (m + rest) = gap m := by
  by_cases zero : m = 0
  · have nothing : rest = 0 := by simpa [zero, gap] using small
    rw [nothing, Nat.add_zero]
  · have below : m + gap m ≤ 2 ^ (m.log2 + 1) := by
      have size : m < 2 ^ (m.log2 + 1) := Nat.lt_log2_self
      exact Nat.le_of_lt_add_of_dvd (Nat.add_lt_add_right size _)
        (Nat.dvd_add representable (Nat.dvd_refl _)) (gap_dvd (by omega))
    have same : (m + rest).log2 = m.log2 := by
      rw [Nat.log2_eq_iff (by omega)]
      exact ⟨(Nat.log2_self_le zero).trans (Nat.le_add_right _ _), by omega⟩
    rw [gap, gap, same]

/-- What is less than half of the gap is lost. -/
theorem roundQuanta_absorbs {m rest : Nat} (representable : Representable m)
    (small : 2 * rest < gap m) : roundQuanta (m + rest) 1 = m := by
  have positive : 0 < gap m := gap_pos m
  have same : gap (m + rest) = gap m := gap_add representable (by omega)
  apply Nat.le_antisymm
  · obtain ⟨k, whole⟩ := representable
    have nearest : ¬ k < roundDiv (m + rest) (gap m) := by
      have middle : (2 * k + 1) * gap m = 2 * m + gap m := by
        calc (2 * k + 1) * gap m = 2 * (gap m * k) + gap m := by ring
          _ = 2 * m + gap m := by rw [← whole]
      rw [lt_roundDiv_iff positive, middle]
      omega
    rw [roundQuanta_eq, Nat.div_one, same, Nat.one_mul, Nat.mul_comm]
    calc gap m * roundDiv (m + rest) (gap m) ≤ gap m * k :=
          Nat.mul_le_mul_left _ (Nat.le_of_not_lt nearest)
      _ = m := whole.symm
  · exact le_roundQuanta Nat.one_pos representable (by omega)

/-! Units. -/

theorem quantaPerUnit_pos : 0 < quantaPerUnit := by
  decide +kernel

theorem representable_unit : Representable quantaPerUnit := by
  rw [Representable]
  decide +kernel

theorem representable_overflowAt : Representable overflowAt := by
  rw [Representable]
  decide +kernel

/-- The exponent of the first power of two that is too large. -/
def topPower : Nat := 1024

theorem overflowAt_eq : overflowAt = Nat.pow 2 topPower * quantaPerUnit := by
  decide +kernel

theorem representable_units {q : Nat} (digits : q ≤ Nat.pow 2 53) (k : Nat) :
    Representable (q * Nat.pow 2 k * quantaPerUnit) := by
  obtain ⟨p, unit⟩ : ∃ p, quantaPerUnit = Nat.pow 2 p := ⟨1074, by decide +kernel⟩
  have whole : q * Nat.pow 2 k * Nat.pow 2 p = q * Nat.pow 2 (k + p) := by
    rw [Nat.mul_assoc]
    exact congrArg (q * ·) (Nat.pow_add 2 k p).symm
  rw [unit, whole]
  exact representable_mul_pow digits _

theorem representable_pow (k : Nat) : Representable (Nat.pow 2 k * quantaPerUnit) := by
  have units := representable_units (q := 1) (by decide) k
  rwa [Nat.one_mul] at units

/-! The number behind a magnitude. -/

theorem toNat_ofParts (negative : Bool) {bits : Nat} (small : bits < signBit) :
    (ofParts negative bits).bits.toNat = (if negative then signBit else 0) + bits := by
  cases negative with
  | false =>
    simp only [ofParts, Bool.false_eq_true, if_false, UInt64.toNat_ofNat', signBit] at small ⊢
    omega
  | true =>
    simp only [ofParts, if_true, UInt64.toNat_ofNat', signBit] at small ⊢
    omega

section Parts

variable (negative : Bool) {e f : Nat} (exponent : e < 2048) (fraction : f < fractionSize)
include exponent fraction

theorem toNat_parts : (ofParts negative (e * fractionSize + f)).bits.toNat =
    (if negative then signBit else 0) + (e * fractionSize + f) := by
  apply toNat_ofParts
  simp only [fractionSize, signBit] at fraction ⊢
  omega

theorem biasedExponent_ofParts :
    (ofParts negative (e * fractionSize + f)).biasedExponent = e := by
  rw [biasedExponent, toNat_parts negative exponent fraction]
  simp only [fractionSize, signBit] at fraction ⊢
  split <;> omega

theorem fraction_ofParts : (ofParts negative (e * fractionSize + f)).fraction = f := by
  rw [Binary64.fraction, toNat_parts negative exponent fraction]
  simp only [fractionSize, signBit] at fraction ⊢
  split <;> omega

theorem negative_ofParts : (ofParts negative (e * fractionSize + f)).negative = negative := by
  rw [Binary64.negative, toNat_parts negative exponent fraction]
  simp only [fractionSize, signBit] at fraction ⊢
  cases negative with
  | false => simpa using by omega
  | true => simp

end Parts

/-- A magnitude within the range, taken apart. -/
theorem magnitudeBits_parts {m : Nat} (representable : Representable m) (within : m < overflowAt) :
    ∃ e f, e < 2047 ∧ f < fractionSize ∧ magnitudeBits m = e * fractionSize + f ∧
      (if e = 0 then f else (fractionSize + f) * Nat.pow 2 (e - 1)) = m := by
  by_cases small : m < fractionSize
  · exact ⟨0, m, by decide, small, by simp [magnitudeBits, small], if_pos rfl⟩
  · have nonzero : m ≠ 0 := by
      simp only [fractionSize] at small
      omega
    obtain ⟨top, bound, limit⟩ : ∃ top, top = 2098 ∧ overflowAt = Nat.pow 2 top :=
      ⟨2098, rfl, by decide +kernel⟩
    rw [limit] at within
    have size : m.log2 < top := (Nat.log2_lt nonzero).mpr within
    have positive : 0 < gap m := gap_pos m
    have exact : m / gap m * gap m = m := Nat.div_mul_cancel representable
    have least : fractionSize ≤ m / gap m := by
      rw [Nat.le_div_iff_mul_le positive]
      have large : 52 ≤ m.log2 := (Nat.le_log2 nonzero).mpr (by simpa [fractionSize] using small)
      calc fractionSize * gap m = 2 ^ (52 + (m.log2 - 52)) := (Nat.pow_add 2 52 _).symm
        _ = 2 ^ m.log2 := by rw [Nat.add_sub_cancel' large]
        _ ≤ m := Nat.log2_self_le nonzero
    have most : m / gap m < Nat.pow 2 53 := (Nat.div_lt_iff_lt_mul positive).mpr (lt_gap_mul m)
    have double : Nat.pow 2 53 = 2 * fractionSize := rfl
    refine ⟨m.log2 - 52 + 1, m / gap m - fractionSize, by omega, by omega, ?_, ?_⟩
    · rw [magnitudeBits, if_neg small]
      rfl
    · rw [if_neg (Nat.succ_ne_zero _), Nat.add_sub_cancel, Nat.add_sub_cancel' least]
      exact exact

/-- The magnitude of a number, infinity as the first one that is too large. -/
def size (x : Binary64) : Nat :=
  if x.isFinite then x.quanta else overflowAt

/-- A number of some size that is not negative. -/
structure HasSize (x : Binary64) (n : Nat) : Prop where
  unsigned : x.negative = false
  number : x.isNan = false
  size : x.size = n

variable {x y : Binary64} {m n : Nat}

theorem HasSize.isFinite_iff (sized : x.HasSize n) : x.isFinite = true ↔ n < overflowAt := by
  rw [← sized.size, Binary64.size]
  constructor
  · intro finite
    rw [if_pos finite]
    exact quanta_lt finite
  · intro within
    by_contra infinite
    rw [if_neg infinite] at within
    exact Nat.lt_irrefl _ within

theorem HasSize.isFinite_zero (sized : x.HasSize 0) : x.isFinite = true :=
  sized.isFinite_iff.mpr (by decide +kernel)

theorem HasSize.quanta_eq (sized : x.HasSize n) (finite : x.isFinite = true) : x.quanta = n := by
  rw [← sized.size, Binary64.size, if_pos finite]

theorem HasSize.isInfinite_eq (sized : x.HasSize n) : x.isInfinite = !x.isFinite := by
  have number := sized.number
  simp only [isNan, isInfinite, isFinite, bne, Bool.not_not] at number ⊢
  by_cases top : x.biasedExponent = 2047 <;> simp_all

theorem HasSize.le_overflowAt (sized : x.HasSize n) : n ≤ overflowAt := by
  rw [← sized.size, Binary64.size]
  split
  case isTrue finite => exact (quanta_lt finite).le
  case isFalse => exact Nat.le_refl _

theorem HasSize.eq_overflowAt (sized : x.HasSize n) (infinite : x.isFinite = false) :
    n = overflowAt := by
  rw [← sized.size, Binary64.size]
  exact if_neg (by simp [infinite])

theorem hasSize_of_finite (unsigned : x.negative = false) (finite : x.isFinite = true) :
    x.HasSize x.quanta where
  unsigned
  number := by
    have exponent : x.biasedExponent ≠ 2047 := by simpa [isFinite] using finite
    simp [isNan, exponent]
  size := if_pos finite

theorem hasSize_ofParts (representable : Representable m) (within : m < overflowAt) :
    (ofParts false (magnitudeBits m)).HasSize m := by
  obtain ⟨e, f, exponent, fraction, bits, value⟩ := magnitudeBits_parts representable within
  have room : e < 2048 := by omega
  rw [bits]
  have finite : (ofParts false (e * fractionSize + f)).isFinite = true := by
    rw [isFinite, biasedExponent_ofParts false room fraction]
    simpa using by omega
  have sized := hasSize_of_finite (negative_ofParts false room fraction) finite
  rwa [quanta, biasedExponent_ofParts false room fraction, fraction_ofParts false room fraction,
    value] at sized

theorem hasSize_infinity : (infinity false).HasSize overflowAt where
  unsigned := by decide
  number := by decide
  size := if_neg (by decide)

/-- What is rounded, cut at the first magnitude that is too large. -/
theorem hasSize_ofQuanta (n : Nat) {d : Nat} (positive : 0 < d) :
    (ofQuanta false n d).HasSize (min (roundQuanta n d) overflowAt) := by
  rw [ofQuanta]
  by_cases within : roundQuanta n d < overflowAt
  · rw [if_pos within, Nat.min_eq_left within.le]
    exact hasSize_ofParts (representable_roundQuanta n positive) within
  · rw [if_neg within, Nat.min_eq_right (Nat.le_of_not_lt within)]
    exact hasSize_infinity

theorem hasSize_of_lt {d : Nat} (positive : 0 < d) (within : roundQuanta n d < overflowAt) :
    (ofQuanta false n d).HasSize (roundQuanta n d) := by
  have sized := hasSize_ofQuanta n positive
  rwa [Nat.min_eq_left within.le] at sized

theorem quanta_of_lt {d : Nat} (positive : 0 < d) (within : roundQuanta n d < overflowAt) :
    (ofQuanta false n d).quanta = roundQuanta n d :=
  have sized := hasSize_of_lt positive within
  sized.quanta_eq (sized.isFinite_iff.mpr within)

/-! Comparisons. -/

theorem atLeastNonneg_iff (sized : x.HasSize m) (sized' : y.HasSize n) :
    x.atLeastNonneg y = true ↔ n ≤ m := by
  simp only [atLeastNonneg, sized.number, sized'.number, sized.isInfinite_eq, Bool.not_false,
    Bool.true_and, Bool.or_eq_true, Bool.and_eq_true, Bool.not_eq_true', decide_eq_true_eq]
  cases finite : x.isFinite with
  | false =>
    simpa [sized.eq_overflowAt finite] using sized'.le_overflowAt
  | true =>
    have within := sized.isFinite_iff.mp finite
    cases finite' : y.isFinite with
    | false =>
      have beyond := sized'.eq_overflowAt finite'
      simp only [Bool.true_eq_false, Bool.false_eq_true, false_and, or_self, false_iff, not_le]
      omega
    | true => simp [sized.quanta_eq finite, sized'.quanta_eq finite']

end Dialback.Binary64
