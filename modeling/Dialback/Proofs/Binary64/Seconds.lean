import Dialback.Proofs.Binary64.Order

/-!
Spans of time as seconds. Seconds are rounded three times on the way, yet a double that is not
below the span is not below its seconds either. So a double below the seconds of a span comes back
as a span that is no longer.
-/
namespace Dialback.Binary64

variable {d : Duration} {x : Binary64} {n : Nat}

theorem seconds_lt (d : Duration) : d.seconds < Nat.pow 2 64 := by
  have bound := d.bound
  have size : Nat.pow 2 64 = 18_446_744_073_709_551_616 := by decide
  simp only [Duration.seconds, Duration.nanosPerSecond, size]
  omega

theorem subsecond_lt (d : Duration) : d.subsecond < Duration.nanosPerSecond :=
  Nat.mod_lt _ (by decide)

/-- The whole seconds of a span, rounded, in quanta. -/
def wholeQuanta (d : Duration) : Nat :=
  roundQuanta (d.seconds * quantaPerUnit) 1

/-- What is left of them, rounded. -/
def restQuanta (d : Duration) : Nat :=
  roundQuanta (d.subsecond * quantaPerUnit) Duration.nanosPerSecond

theorem wholeQuanta_le {k : Nat} (bound : d.seconds ≤ Nat.pow 2 k) :
    wholeQuanta d ≤ Nat.pow 2 k * quantaPerUnit :=
  roundQuanta_whole_le (representable_pow k) (Nat.mul_le_mul_right _ bound)

/-- A fraction of nanoseconds is not rounded up to a second. -/
theorem restQuanta_lt (d : Duration) : restQuanta d < quantaPerUnit := by
  obtain ⟨u, unit⟩ : ∃ u, quantaPerUnit = Nat.pow 2 53 * Nat.pow 2 u := ⟨1021, by decide +kernel⟩
  have positive : 0 < Nat.pow 2 u := Nat.two_pow_pos u
  have rest := subsecond_lt d
  have fits : d.subsecond * Nat.pow 2 53 ≤ (Nat.pow 2 53 - 1) * Duration.nanosPerSecond := by
    have digits : Nat.pow 2 53 = 9_007_199_254_740_992 := by decide
    simp only [Duration.nanosPerSecond, digits] at rest ⊢
    omega
  have below : restQuanta d ≤ (Nat.pow 2 53 - 1) * Nat.pow 2 u := by
    apply roundQuanta_le (by decide) (representable_mul_pow (Nat.sub_le _ _) u)
    calc d.subsecond * quantaPerUnit = d.subsecond * Nat.pow 2 53 * Nat.pow 2 u := by
          rw [unit, Nat.mul_assoc]
      _ ≤ (Nat.pow 2 53 - 1) * Duration.nanosPerSecond * Nat.pow 2 u :=
          Nat.mul_le_mul_right _ fits
      _ = (Nat.pow 2 53 - 1) * Nat.pow 2 u * Duration.nanosPerSecond := Nat.mul_right_comm _ _ _
  refine Nat.lt_of_le_of_lt below ?_
  rw [unit]
  exact Nat.mul_lt_mul_of_pos_right (by decide) positive

/-- The seconds of a span in quanta. -/
def secondsQuanta (d : Duration) : Nat :=
  roundQuanta (wholeQuanta d + restQuanta d) 1

theorem hasSize_ofDuration (d : Duration) :
    (ofDuration d).HasSize (secondsQuanta d) ∧ (ofDuration d).isFinite = true := by
  obtain ⟨k, bound, room⟩ : ∃ k, d.seconds ≤ Nat.pow 2 k ∧ k + 1 < topPower :=
    ⟨64, (seconds_lt d).le, by decide⟩
  have whole := wholeQuanta_le bound
  have rest := restQuanta_lt d
  have sum : wholeQuanta d + restQuanta d ≤ Nat.pow 2 (k + 1) * quantaPerUnit := by
    have positive : 0 < Nat.pow 2 k := Nat.two_pow_pos k
    have double : Nat.pow 2 (k + 1) = Nat.pow 2 k * 2 := rfl
    calc wholeQuanta d + restQuanta d ≤ (Nat.pow 2 k + 1) * quantaPerUnit := by
          rw [Nat.succ_mul]
          omega
      _ ≤ Nat.pow 2 (k + 1) * quantaPerUnit := Nat.mul_le_mul_right _ (by omega)
  have most : secondsQuanta d ≤ Nat.pow 2 (k + 1) * quantaPerUnit :=
    roundQuanta_whole_le (representable_pow (k + 1)) sum
  have within : Nat.pow 2 (k + 1) * quantaPerUnit < overflowAt := by
    rw [overflowAt_eq]
    generalize topPower = top at room ⊢
    exact Nat.mul_lt_mul_of_pos_right (Nat.pow_lt_pow_right (by decide) room) quantaPerUnit_pos
  have parts : ofDuration d = ofQuanta false (wholeQuanta d + restQuanta d) 1 := by
    have wholeWithin : wholeQuanta d < overflowAt :=
      Nat.lt_of_le_of_lt (Nat.le_add_right _ _) (Nat.lt_of_le_of_lt sum within)
    have restWithin : restQuanta d < overflowAt :=
      Nat.lt_of_le_of_lt (Nat.le_add_left _ _) (Nat.lt_of_le_of_lt sum within)
    have wholePart : (ofNat d.seconds).quanta = wholeQuanta d := by
      rw [wholeQuanta] at wholeWithin ⊢
      rw [ofNat, ofRatio, quanta_of_lt Nat.one_pos wholeWithin]
    have restPart : (ofRatio false d.subsecond Duration.nanosPerSecond).quanta = restQuanta d := by
      rw [restQuanta] at restWithin ⊢
      rw [ofRatio, quanta_of_lt (by decide) restWithin]
    rw [ofDuration, addNonneg, wholePart, restPart]
  have sized : (ofDuration d).HasSize (secondsQuanta d) := by
    rw [parts]
    exact hasSize_of_lt Nat.one_pos (most.trans_lt within)
  exact ⟨sized, sized.isFinite_iff.mpr (most.trans_lt within)⟩

/-- The magnitudes behind one are whole numbers of steps, and so is what is above whole seconds. -/
theorem representable_sub {X s : Nat} (representable : Representable X)
    (le : s * quantaPerUnit ≤ X) (small : X - s * quantaPerUnit < quantaPerUnit) :
    Representable (X - s * quantaPerUnit) := by
  obtain ⟨u, unit⟩ : ∃ u, quantaPerUnit = Nat.pow 2 52 * Nat.pow 2 u := ⟨1022, by decide +kernel⟩
  rcases Nat.eq_zero_or_pos s with rfl | some
  · rwa [Nat.zero_mul, Nat.sub_zero]
  · have large : quantaPerUnit ≤ X := (Nat.le_mul_of_pos_left _ some).trans le
    have size : 52 + u ≤ X.log2 := by
      have nonzero : X ≠ 0 := (Nat.lt_of_lt_of_le quantaPerUnit_pos large).ne'
      rw [Nat.le_log2 nonzero, Nat.pow_add]
      rwa [unit] at large
    have step : Nat.pow 2 u ∣ X - s * quantaPerUnit := by
      apply Nat.dvd_sub
      · exact (Nat.pow_dvd_pow 2 (by omega)).trans representable
      · rw [unit]
        exact Nat.dvd_mul_left_of_dvd (Nat.dvd_mul_left _ _) s
    obtain ⟨q, multiple⟩ := step
    have digits : q < Nat.pow 2 52 := by
      rw [multiple, unit, Nat.mul_comm] at small
      exact Nat.lt_of_mul_lt_mul_right small
    rw [multiple, Nat.mul_comm]
    exact representable_mul_pow (digits.le.trans (by decide)) u

theorem nanoseconds_eq (d : Duration) :
    Duration.nanosPerSecond * d.seconds + d.subsecond = d.nanoseconds :=
  Nat.div_add_mod _ _

/-- A magnitude that is not below a span, taken apart at its whole seconds. -/
theorem rest_le {X : Nat} (representable : Representable X)
    (le : d.nanoseconds * quantaPerUnit ≤ Duration.nanosPerSecond * X) :
    d.seconds * quantaPerUnit ≤ X ∧ d.seconds * quantaPerUnit + restQuanta d ≤ X := by
  have parts : Duration.nanosPerSecond * (d.seconds * quantaPerUnit) + d.subsecond * quantaPerUnit ≤
      Duration.nanosPerSecond * X := by
    rwa [← Nat.mul_assoc, ← Nat.add_mul, nanoseconds_eq]
  have whole : d.seconds * quantaPerUnit ≤ X :=
    Nat.le_of_mul_le_mul_left (Nat.le_of_add_right_le parts) (by decide)
  refine ⟨whole, ?_⟩
  have rest : restQuanta d ≤ X - d.seconds * quantaPerUnit := by
    rcases Nat.lt_or_ge (X - d.seconds * quantaPerUnit) quantaPerUnit with small | large
    · apply roundQuanta_le (by decide) (representable_sub representable whole small)
      rw [Nat.mul_comm _ Duration.nanosPerSecond, Nat.mul_sub]
      omega
    · exact (restQuanta_lt d).le.trans large
  omega

theorem small_exact (small : d.seconds ≤ Nat.pow 2 53) :
    wholeQuanta d = d.seconds * quantaPerUnit := by
  have units := representable_units small 0
  rw [show Nat.pow 2 0 = 1 from rfl, Nat.mul_one d.seconds] at units
  exact roundQuanta_eq_self units

/-- Large whole seconds leave no room for a fraction. -/
theorem large_absorbs {k : Nat} (digits : 53 ≤ k) (large : Nat.pow 2 k ≤ d.seconds) :
    secondsQuanta d = wholeQuanta d := by
  obtain ⟨u, unit⟩ : ∃ u, quantaPerUnit = Nat.pow 2 u := ⟨1074, by decide +kernel⟩
  have least : Nat.pow 2 (k + u) ≤ wholeQuanta d := by
    have units : Nat.pow 2 (k + u) = Nat.pow 2 k * quantaPerUnit := by
      rw [unit]
      exact Nat.pow_add 2 k u
    rw [units, wholeQuanta]
    apply le_roundQuanta Nat.one_pos (representable_pow k)
    rw [Nat.mul_one (Nat.pow 2 k * quantaPerUnit)]
    exact Nat.mul_le_mul_right quantaPerUnit large
  have room : 2 * quantaPerUnit ≤ gap (wholeQuanta d) := by
    have nonzero : wholeQuanta d ≠ 0 := (Nat.lt_of_lt_of_le (Nat.two_pow_pos _) least).ne'
    have size : k + u ≤ (wholeQuanta d).log2 := (Nat.le_log2 nonzero).mpr least
    calc 2 * quantaPerUnit = Nat.pow 2 (u + 1) := by
          rw [unit, Nat.mul_comm]
          rfl
      _ ≤ gap (wholeQuanta d) := Nat.pow_le_pow_right (by decide) (by omega)
  have rest := restQuanta_lt d
  exact roundQuanta_absorbs (representable_roundQuanta _ Nat.one_pos) (by omega)

/-- A magnitude that is not below a span is not below its seconds. -/
theorem ofDuration_le {X : Nat} (representable : Representable X)
    (le : d.nanoseconds * quantaPerUnit ≤ Duration.nanosPerSecond * X) :
    secondsQuanta d ≤ X := by
  obtain ⟨whole, parts⟩ := rest_le representable le
  rcases Nat.lt_or_ge d.seconds (Nat.pow 2 53) with small | large
  · apply roundQuanta_whole_le representable
    rwa [small_exact small.le]
  · rw [large_absorbs (Nat.le_refl _) large]
    exact roundQuanta_whole_le representable whole

/-- A span that is not empty has some seconds. -/
theorem secondsQuanta_eq_zero : secondsQuanta d = 0 ↔ d = .zero := by
  have one : Representable 1 := representable_mul_pow (q := 1) (by decide) 0
  constructor
  · intro nothing
    by_contra some
    have positive : d.nanoseconds ≠ 0 := by
      rintro none
      cases d
      cases none
      exact some rfl
    have parts : 1 ≤ wholeQuanta d + restQuanta d := by
      rcases Nat.eq_zero_or_pos d.seconds with none | whole
      · have unit : Duration.nanosPerSecond ≤ quantaPerUnit := by decide +kernel
        have rest : 0 < d.subsecond := by
          have sum := nanoseconds_eq d
          rw [none] at sum
          omega
        refine le_add_left (le_roundQuanta (by decide) one ?_)
        rw [Nat.one_mul]
        exact unit.trans (Nat.le_mul_of_pos_left _ rest)
      · exact le_add_right (le_roundQuanta Nat.one_pos one (Nat.mul_pos whole quantaPerUnit_pos))
    have sum : 1 ≤ secondsQuanta d :=
      le_roundQuanta Nat.one_pos one ((Nat.mul_one 1).le.trans parts)
    omega
  · rintro rfl
    exact Nat.le_zero.mp (ofDuration_le (Nat.dvd_zero _) (by simp [Duration.zero]))

theorem toDuration?_of_zero (sized : x.HasSize 0) : x.toDuration? = some .zero := by
  have finite := sized.isFinite_zero
  have nothing : roundDiv 0 quantaPerUnit = 0 :=
    Nat.le_zero.mp (roundDiv_le quantaPerUnit_pos (Nat.zero_le _))
  rw [toDuration?, sized.quanta_eq finite, Nat.mul_zero, nothing, finite, sized.unsigned]
  rfl

/-- Seconds that compare below those of a span are a span, and not a longer one. -/
theorem toDuration?_of_below (sized : x.HasSize n) (finite : x.isFinite = true)
    (below : x.atLeastNonneg (ofDuration d) = false) :
    ∃ e, x.toDuration? = some e ∧ e.nanoseconds ≤ d.nanoseconds := by
  have representable : Representable n := by
    have rounded := representable_roundQuanta x.quanta Nat.one_pos
    rwa [roundQuanta_quanta, sized.quanta_eq finite] at rounded
  have less : Duration.nanosPerSecond * n ≤ d.nanoseconds * quantaPerUnit := by
    refine (Nat.lt_of_not_le fun least => ?_).le
    have above := (atLeastNonneg_iff sized (hasSize_ofDuration d).1).mpr
      (ofDuration_le representable least)
    exact absurd above (by simp [below])
  have shorter : roundDiv (Duration.nanosPerSecond * n) quantaPerUnit ≤ d.nanoseconds :=
    roundDiv_le quantaPerUnit_pos less
  have accepted : x.toDuration? =
      Duration.ofNanos? (roundDiv (Duration.nanosPerSecond * n) quantaPerUnit) := by
    simp [toDuration?, finite, sized.unsigned, sized.quanta_eq finite]
  generalize roundDiv (Duration.nanosPerSecond * n) quantaPerUnit = nanos at shorter accepted
  have fits := Nat.lt_of_le_of_lt shorter d.bound
  exact ⟨⟨nanos, fits⟩, accepted.trans (dif_pos fits), shorter⟩

end Dialback.Binary64
