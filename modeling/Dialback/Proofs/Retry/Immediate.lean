import Dialback.Proofs.Retry.Backoff
import Dialback.Proofs.Retry.History
import Dialback.Proofs.Settings.Validation

/-!
Settings whose first retry comes without a delay. The later ones do so, too, as long as the powers of
the multiplier are finite. Beyond that zero is multiplied by infinity, which gives no number, and
what is no number is answered by the largest delay.
-/
namespace Dialback

open Binary64 Retry

namespace Retry.Backoff

variable {b : Backoff} {h : History} {retry k : Nat}

theorem hasSize_initial (empty : b.initial = .zero) : (ofDuration b.initial).HasSize 0 := by
  have sized := (hasSize_ofDuration b.initial).1
  rwa [secondsQuanta_eq_zero.mpr empty] at sized

section Empty

variable (empty : b.initial = .zero) (large : b.multiplier.atLeastOne = true)
include empty large

/-- Zero times a finite growth. If that is capped, then the cap is empty as well. -/
theorem delay_of_finite (finite : (b.growth retry).isFinite = true) : b.delay retry = .zero := by
  obtain ⟨n, power⟩ := exists_hasSize_growth large retry
  have nothing : (b.seconds retry).HasSize 0 := hasSize_zero_mul (hasSize_initial empty) power finite
  cases capped : b.capped retry with
  | true =>
    have below : (b.seconds retry).atLeastNonneg (ofDuration b.limit) = true := by
      simpa [Backoff.capped, nothing.isFinite_zero] using capped
    have least := (atLeastNonneg_iff nothing (hasSize_ofDuration b.limit).1).mp below
    rw [delay, if_pos capped]
    exact secondsQuanta_eq_zero.mp (Nat.le_zero.mp least)
  | false => exact delay_of_span capped (toDuration?_of_zero nothing)

/-- Zero times infinity. -/
theorem delay_of_infinite (infinite : (b.growth retry).isFinite = false) :
    b.delay retry = b.limit := by
  obtain ⟨n, power⟩ := exists_hasSize_growth large retry
  have undefined : b.seconds retry = nan := zero_mul_of_infinite (hasSize_initial empty) power infinite
  have capped : b.capped retry = true := by
    rw [Backoff.capped, undefined]
    rfl
  rw [delay, if_pos capped]

end Empty

/-- Multipliers up to `2 ^ k` stay finite before a power of that one is infinite. -/
theorem growth_finite (large : b.multiplier.atLeastOne = true)
    (most : (ofNat (Nat.pow 2 k)).atLeastNonneg b.multiplier = true)
    (within : k * (retry - 1) < topPower) : (b.growth retry).isFinite = true :=
  isFinite_pow large most
    (Nat.lt_of_le_of_lt (Nat.mul_le_mul_left k (Nat.min_le_left _ _)) within)

/-- Multipliers from `2 ^ k` on are infinite as soon as a power of that one is. -/
theorem growth_infinite (large : b.multiplier.atLeastOne = true)
    (least : b.multiplier.atLeastNonneg (ofNat (Nat.pow 2 k)) = true)
    (beyond : topPower ≤ k * (retry - 1)) : (b.growth retry).isFinite = false := by
  apply isFinite_pow_eq_false large least
  have some : 0 < k := by
    refine Nat.pos_of_ne_zero fun none => ?_
    rw [none, Nat.zero_mul] at beyond
    exact absurd beyond (by decide)
  -- The exponent is cut far above what any multiplier needs.
  rcases Nat.le_total (retry - 1) maxExponent with le | ge
  · rwa [Nat.min_eq_left le]
  · rw [Nat.min_eq_right ge]
    exact (show topPower ≤ maxExponent by decide).trans (Nat.le_mul_of_pos_left _ some)

theorem policy_unlimited (unlimited : b.maxRetries = none) (h : History) :
    b.policy h = some (b.delay (max h.sinceConnected 1)) := by
  simp [policy, exhausted, unlimited]

end Retry.Backoff

namespace RetrySettings

variable {s : RetrySettings}

/-- How retries go on that begin without a delay. -/
structure Immediate (s : RetrySettings) : Prop where
  /-- As long as the growth is finite there is no delay, and then the largest one. -/
  answer : ∀ h, s.backoff.policy h = some
    (if (s.backoff.growth (max h.sinceConnected 1)).isFinite then .zero
      else Duration.ofMillis s.maxDelayMs)
  /-- Multipliers up to `2 ^ k` bear that many failures in a row, and one bears any number. -/
  stays : ∀ k h, (ofNat (Nat.pow 2 k)).atLeastNonneg s.multiplier = true →
    k * (h.sinceConnected - 1) < topPower → s.backoff.policy h = some .zero
  /-- Multipliers from `2 ^ k` on bear no more. -/
  leaves : ∀ k h, s.multiplier.atLeastNonneg (ofNat (Nat.pow 2 k)) = true →
    topPower ≤ k * (h.sinceConnected - 1) →
      s.backoff.policy h = some (Duration.ofMillis s.maxDelayMs)

theorem backoff_multiplier (large : s.multiplier.atLeastOne = true) :
    s.backoff.multiplier = s.multiplier :=
  if_pos large

section Empty

variable (empty : s.initialDelayMs = 0) (large : s.multiplier.atLeastOne = true)
  (unlimited : s.maxRetries = none)
include empty large unlimited

theorem policy_of_finite (h : History)
    (finite : (s.backoff.growth (max h.sinceConnected 1)).isFinite = true) :
    s.backoff.policy h = some .zero := by
  rw [Backoff.policy_unlimited unlimited h, Backoff.delay_of_finite _ _ finite]
  · rw [backoff, empty]
    rfl
  · rwa [backoff_multiplier large]

theorem policy_of_infinite (h : History)
    (infinite : (s.backoff.growth (max h.sinceConnected 1)).isFinite = false) :
    s.backoff.policy h = some (Duration.ofMillis s.maxDelayMs) := by
  rw [Backoff.policy_unlimited unlimited h, Backoff.delay_of_infinite _ _ infinite]
  · rfl
  · rw [backoff, empty]
    rfl
  · rwa [backoff_multiplier large]

end Empty

end RetrySettings

namespace Settings

variable {s : Settings}

theorem immediate_retries (valid : s.validate = .ok ()) (empty : s.retry.initialDelayMs = 0)
    (unlimited : s.retry.maxRetries = none) : s.retry.Immediate := by
  have large := (validate_eq_ok.mp valid).multiplier
  have same := RetrySettings.backoff_multiplier large
  have own : s.retry.backoff.multiplier.atLeastOne = true := by rwa [same]
  have behind (h : History) : max h.sinceConnected 1 - 1 = h.sinceConnected - 1 := by omega
  refine ⟨fun h => ?_, fun k h most within => ?_, fun k h least beyond => ?_⟩
  · cases finite : (s.retry.backoff.growth (max h.sinceConnected 1)).isFinite with
    | true => exact RetrySettings.policy_of_finite empty large unlimited h finite
    | false => exact RetrySettings.policy_of_infinite empty large unlimited h finite
  · apply RetrySettings.policy_of_finite empty large unlimited h
    exact Backoff.growth_finite own (by rwa [same]) (by rwa [behind])
  · apply RetrySettings.policy_of_infinite empty large unlimited h
    exact Backoff.growth_infinite own (by rwa [same]) (by rwa [behind])

/-- The standard settings without a delay at the beginning. -/
def eager : Settings where
  retry := { initialDelayMs := 0 }

theorem immediate_retries_eager : eager.validate = .ok () ∧ eager.retry.initialDelayMs = 0 ∧
    eager.retry.maxRetries = none ∧ eager.retry.Immediate :=
  have valid : eager.validate = .ok () := by decide +kernel
  ⟨valid, rfl, rfl, immediate_retries valid rfl rfl⟩

/-- A doubling backoff is immediate for 1024 failures in a row, and takes a minute from then on. -/
theorem eager_minute :
    eager.validate = .ok () ∧ eager.retry.initialDelayMs = 0 ∧ eager.retry.maxRetries = none ∧
      eager.retry.backoff.policy
        (.of 32 (List.replicate 1025 (.failed (.opening .closed)))) =
          some (Duration.ofMillis 60000) ∧
      Duration.ofMillis 60000 ≠ .zero := by
  have valid : eager.validate = .ok () := by decide +kernel
  have large := (validate_eq_ok.mp valid).multiplier
  refine ⟨valid, rfl, rfl, RetrySettings.policy_of_infinite rfl large rfl _ ?_, by decide⟩
  have count : (History.of 32 (List.replicate 1025 (.failed (.opening .closed)))).sinceConnected =
      1025 := by decide +kernel
  have own : eager.retry.backoff.multiplier.atLeastOne = true := by decide +kernel
  have doubling : eager.retry.backoff.multiplier.atLeastNonneg (ofNat (Nat.pow 2 1)) = true := by
    decide +kernel
  rw [count]
  exact Backoff.growth_infinite own doubling (by decide)

end Settings
end Dialback
