import Dialback.Proofs.Settings.Validation
import Mathlib.Data.UInt

/-!
What valid settings amount to. Validation looks at the interval of the pings and leaves their number
aside. The product is the silence that a connection may have, unless no duration is so long.
-/
namespace Dialback

namespace CallSettings

variable {s : CallSettings} {d : Duration}

/-- From here on a silence is longer than any duration. -/
def endlessMs : Nat := 18_446_744_073_709_551_616_000

theorem pingTimeoutMs_nanos (s : CallSettings) : Duration.nanosPerMilli * s.pingTimeoutMs =
    s.pingInterval.nanoseconds * max s.pingTimeoutMultiplier.toNat 1 :=
  (Nat.mul_assoc ..).symm

theorem pingTimeout_eq (s : CallSettings) :
    s.pingTimeout? = Duration.ofNanos? (Duration.nanosPerMilli * s.pingTimeoutMs) := by
  rw [pingTimeout?, Duration.scale?, UInt32.toNat_max, pingTimeoutMs_nanos]
  rfl

theorem pingTimeout_eq_none : s.pingTimeout? = none ↔ endlessMs ≤ s.pingTimeoutMs := by
  rw [pingTimeout_eq, Duration.ofNanos?, dite_eq_right_iff]
  simp only [Duration.nanosPerMilli, endlessMs, reduceCtorEq, imp_false]
  omega

theorem pingTimeout_eq_some : s.pingTimeout? = some d ↔
    d.nanoseconds = s.pingInterval.nanoseconds * max s.pingTimeoutMultiplier.toNat 1 := by
  rw [pingTimeout_eq, ← pingTimeoutMs_nanos, Duration.ofNanos?]
  obtain ⟨n, bound⟩ := d
  constructor
  · intro same
    split at same
    case isTrue fits => exact (Duration.mk.inj (Option.some.inj same)).symm
    case isFalse => cases same
  · rintro rfl
    exact dif_pos bound

end CallSettings

namespace Settings

variable {s : Settings}

/-- What settings amount to. -/
structure Derived (s : Settings) : Prop where
  identity : ∃ identity, s.handshake.identity = .ok identity
  /-- There is room for one request and for one message. -/
  counts : 0 < s.call.permits ∧ 0 < s.call.buffer
  spans : s.call.connectTimeout.nanoseconds =
      Duration.nanosPerMilli * s.call.connectTimeoutMs.toNat ∧
    s.call.drainTimeout.nanoseconds = Duration.nanosPerMilli * s.call.drainTimeoutMs.toNat ∧
    s.handshake.timeout.nanoseconds = Duration.nanosPerMilli * s.handshake.timeoutMs.toNat
  backoff : s.retry.backoff.initial.nanoseconds ≤ s.retry.backoff.limit.nanoseconds ∧
    s.retry.backoff.multiplier = s.retry.multiplier
  interval : 0 < s.call.pingInterval.nanoseconds
  /-- The silence a connection may have, exactly. -/
  timeout : ∀ d, s.call.pingTimeout? = some d ↔
    d.nanoseconds = s.call.pingInterval.nanoseconds * max s.call.pingTimeoutMultiplier.toNat 1
  patience : ∀ d, s.call.pingTimeout? = some d →
    s.call.pingInterval.nanoseconds ≤ d.nanoseconds
  /-- There is none if it is too long, which takes more than a thousand pings. -/
  endless : s.call.pingTimeout? = none ↔ CallSettings.endlessMs ≤ s.call.pingTimeoutMs
  thousand : s.call.pingTimeoutMultiplier.toNat ≤ 1_000 → s.call.pingTimeout? ≠ none

theorem pingInterval_pos (valid : s.Valid) : 0 < s.call.pingInterval.nanoseconds := by
  have some : s.call.pingIntervalMs.toNat ≠ 0 :=
    fun none => valid.interval (UInt64.toNat_inj.mp none)
  exact Nat.mul_pos (by decide) (Nat.pos_of_ne_zero some)

theorem derived_of_valid (valid : s.Valid) : s.Derived where
  identity := valid.identity
  counts := ⟨Nat.le_max_right _ _, Nat.le_max_right _ _⟩
  spans := ⟨rfl, rfl, rfl⟩
  backoff := ⟨Nat.mul_le_mul_left _ valid.delays, if_pos valid.multiplier⟩
  interval := pingInterval_pos valid
  timeout _ := CallSettings.pingTimeout_eq_some
  patience d found := by
    rw [CallSettings.pingTimeout_eq_some.mp found]
    exact Nat.le_mul_of_pos_right _ (Nat.le_max_right _ _)
  endless := CallSettings.pingTimeout_eq_none
  thousand few := by
    have bound := s.call.pingIntervalMs.toNat_lt
    have most : s.call.pingTimeoutMs ≤ s.call.pingIntervalMs.toNat * 1_000 :=
      Nat.mul_le_mul_left _ (Nat.max_le.mpr ⟨few, by decide⟩)
    rw [ne_eq, CallSettings.pingTimeout_eq_none, CallSettings.endlessMs]
    omega

end Settings
end Dialback
