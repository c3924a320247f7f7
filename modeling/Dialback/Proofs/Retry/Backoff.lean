import Dialback.Proofs.Binary64.Power
import Dialback.Proofs.Binary64.Seconds
import Dialback.Retry.Policy

/-!
An exponential backoff stays below its cap. Whether a delay is capped is decided on rounded seconds,
and what is not capped is rounded once more on its way back to a span. Both roundings keep the order,
so there always is a span, and it is not above the cap.
-/
namespace Dialback.Retry.Backoff

open Binary64

/-- What the cap guarantees. -/
structure Bounded (b : Backoff) : Prop where
  /-- Seconds that are not capped are a span: neither negative nor infinite nor too long. -/
  spans : ∀ retry, b.capped retry = false → (b.seconds retry).toDuration? = some (b.delay retry)
  /-- No delay is above the cap. -/
  within : ∀ h d, b.policy h = some d → d.nanoseconds ≤ b.limit.nanoseconds

variable {b : Backoff} {retry : Nat}

theorem atLeastOne_withMultiplier (b : Backoff) (multiplier : Binary64) :
    (b.withMultiplier multiplier).multiplier.atLeastOne = true := by
  dsimp only [withMultiplier]
  split
  case isTrue large => exact large
  case isFalse => exact atLeastOne_one

/-- What the initial delay is multiplied by. -/
def growth (b : Backoff) (retry : Nat) : Binary64 :=
  b.multiplier.pow (min (retry - 1) maxExponent)

theorem exists_hasSize_growth (large : b.multiplier.atLeastOne = true) (retry : Nat) :
    ∃ n, (b.growth retry).HasSize n :=
  have ⟨n, power, _⟩ := exists_hasSize_pow large (min (retry - 1) maxExponent)
  ⟨n, power⟩

/-- Seconds that are not capped are a span that is not above the cap. -/
theorem span_of_uncapped (large : b.multiplier.atLeastOne = true)
    (uncapped : b.capped retry = false) :
    ∃ d, (b.seconds retry).toDuration? = some d ∧ d.nanoseconds ≤ b.limit.nanoseconds := by
  simp only [capped, Bool.or_eq_false_iff, Bool.not_eq_false'] at uncapped
  obtain ⟨finite, below⟩ := uncapped
  obtain ⟨m, power⟩ := exists_hasSize_growth large retry
  have initial := (hasSize_ofDuration b.initial).1
  exact toDuration?_of_below (hasSize_mul_of_finite initial power finite) finite below

theorem delay_of_span {d : Duration} (uncapped : b.capped retry = false)
    (span : (b.seconds retry).toDuration? = some d) : b.delay retry = d := by
  rw [delay, uncapped, span]
  rfl

theorem delay_le (large : b.multiplier.atLeastOne = true) (retry : Nat) :
    (b.delay retry).nanoseconds ≤ b.limit.nanoseconds := by
  cases capped : b.capped retry with
  | true =>
    rw [delay, capped]
    exact Nat.le_refl _
  | false =>
    obtain ⟨d, span, shorter⟩ := span_of_uncapped large capped
    rwa [delay_of_span capped span]

theorem withMultiplier_bounded (b : Backoff) (multiplier : Binary64) :
    (b.withMultiplier multiplier).Bounded where
  spans retry uncapped := by
    obtain ⟨d, span, _⟩ := span_of_uncapped (atLeastOne_withMultiplier b multiplier) uncapped
    rw [delay_of_span uncapped span, span]
  within h d answer := by
    simp only [policy, Option.ite_none_left_eq_some, Option.some.injEq] at answer
    obtain ⟨_, rfl⟩ := answer
    exact delay_le (atLeastOne_withMultiplier b multiplier) _

end Dialback.Retry.Backoff
