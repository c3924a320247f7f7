import Dialback.Settings.Document

/-!
What validation accepts. Settings that are read from a document have been validated.
-/
namespace Dialback.Settings

variable {s : Settings} {text : String} {fault : SettingsFault}

/-- What the types of the fields leave open, and validation checks. -/
structure Valid (s : Settings) : Prop where
  identity : ∃ identity, s.handshake.identity = .ok identity
  interval : s.call.pingIntervalMs ≠ 0
  multiplier : s.retry.multiplier.atLeastOne = true
  delays : s.retry.initialDelayMs ≤ s.retry.maxDelayMs

theorem validate_eq_ok : s.validate = .ok () ↔ s.Valid := by
  constructor
  · intro valid
    unfold validate at valid
    cases identity : s.handshake.identity with
    | error fault =>
      rw [identity] at valid
      cases valid
    | ok known =>
      by_cases interval : s.call.pingIntervalMs = 0
      · rw [identity, if_pos interval] at valid
        cases valid
      · by_cases small : (!s.retry.multiplier.atLeastOne) = true
        · rw [identity, if_neg interval, if_pos small] at valid
          cases valid
        · by_cases exceeds : s.retry.maxDelayMs < s.retry.initialDelayMs
          · rw [identity, if_neg interval, if_neg small, if_pos exceeds] at valid
            cases valid
          · exact ⟨⟨known, identity⟩, interval, by simpa using small, UInt64.not_lt.mp exceeds⟩
  · rintro ⟨⟨known, identity⟩, interval, large, delays⟩
    have enough : ¬ (!s.retry.multiplier.atLeastOne) = true := by simp [large]
    unfold validate
    rw [identity, if_neg interval, if_neg enough, if_neg (UInt64.not_lt.mpr delays)]
    rfl

/-- Versions are checked first, and only they are reported as versions. -/
theorem fault_of_validate (refused : s.validate = .error fault) :
    (∃ unread, s.handshake.identity = .error unread ∧ fault = .version unread) ∨
      ∃ identity text, s.handshake.identity = .ok identity ∧ fault = .invalid text := by
  unfold validate at refused
  cases identity : s.handshake.identity with
  | error unread =>
    rw [identity] at refused
    cases refused
    exact .inl ⟨unread, rfl, rfl⟩
  | ok known =>
    right
    by_cases interval : s.call.pingIntervalMs = 0
    · rw [identity, if_pos interval] at refused
      cases refused
      exact ⟨known, _, rfl, rfl⟩
    · by_cases small : (!s.retry.multiplier.atLeastOne) = true
      · rw [identity, if_neg interval, if_pos small] at refused
        cases refused
        exact ⟨known, _, rfl, rfl⟩
      · by_cases exceeds : s.retry.maxDelayMs < s.retry.initialDelayMs
        · rw [identity, if_neg interval, if_neg small, if_pos exceeds] at refused
          cases refused
          exact ⟨known, _, rfl, rfl⟩
        · rw [identity, if_neg interval, if_neg small, if_neg exceeds] at refused
          cases refused

theorem valid_of_parse (accepted : parse text = .ok s) : s.Valid := by
  unfold parse at accepted
  split at accepted
  case h_1 => cases accepted
  case h_2 found _ =>
    cases checked : found.validate with
    | error fault =>
      rw [checked] at accepted
      cases accepted
    | ok _ =>
      rw [checked] at accepted
      cases accepted
      exact validate_eq_ok.mp checked

end Dialback.Settings
