import Dialback.Proofs.Session.Listening

/-!
Whether a connection can be serviced with its settings. That takes a queue and a semaphore of the
sizes they ask for, and a clock that can show when the silence is too long: once when servicing
begins, and again with every message. Where it cannot be done, servicing fails at once.
-/
namespace Dialback.Session

variable {α γ θ ρ : Type} {s s' : Session α γ θ ρ} {terms : Terms θ} {settings : CallSettings}
  {now : Nat}

/-- A connection whose silence begins now can be serviced. -/
structure Serviceable (terms : Terms θ) (now : Nat) : Prop where
  permits : terms.settings.permits ≤ Permits.most
  buffer : terms.settings.buffer ≤ Permits.most
  /-- The clock can show when the silence is too long. -/
  shown : terms.epoch + silenceLimit terms now < clockLimit

theorem hasRoom_iff : hasRoom settings = true ↔
    settings.permits ≤ Permits.most ∧ settings.buffer ≤ Permits.most := by
  rw [hasRoom, decide_eq_true_iff, and_comm]

/-- What a clock can show is no longer than a duration can be. -/
theorem pingTimeout_of_short (short : settings.pingTimeoutMs < clockLimit) :
    settings.pingTimeout? ≠ none := by
  intro endless
  have long := CallSettings.pingTimeout_eq_none.mp endless
  have most : clockLimit ≤ CallSettings.endlessMs := by decide +kernel
  omega

theorem deadline_ne_none : deadline? terms now ≠ none ↔ Serviceable terms now := by
  constructor
  · intro known
    obtain ⟨limit, known⟩ := Option.ne_none_iff_exists'.mp known
    obtain ⟨room, d, silence, short, _⟩ := deadline_eq_some.mp known
    obtain ⟨permits, buffer⟩ := hasRoom_iff.mp room
    rw [(silence_eq silence).2, Nat.add_assoc] at short
    exact ⟨permits, buffer, short⟩
  · intro able
    have shown := able.shown
    rw [silenceLimit, ← Nat.add_assoc] at shown
    have short : terms.settings.pingTimeoutMs < clockLimit := by omega
    obtain ⟨d, silence⟩ := Option.ne_none_iff_exists'.mp (pingTimeout_of_short short)
    have room := hasRoom_iff.mpr ⟨able.permits, able.buffer⟩
    rw [← (silence_eq silence).2] at shown
    simp [deadline_eq_some.mpr ⟨room, d, silence, shown, rfl⟩]

theorem deadline_eq_none : deadline? terms now = none ↔ ¬ Serviceable terms now := by
  rw [← deadline_ne_none, not_not]

/-- How a connection is serviced with its settings. -/
structure Serviced (terms : Terms θ) (s : Session α γ θ ρ) : Prop where
  /-- Where it can be serviced, servicing begins with the exact limit. -/
  begins : Serviceable terms s.now → ∀ s', s.act terms (.event .serve) = some s' →
    s'.phase = .servicing (silenceLimit terms s.now)
  /-- And every message that does not end it moves the limit. -/
  goesOn : Serviceable terms s.now → ∀ x rest, s.phase.isServicing = true → s.attentive = true →
    s.inbox = x :: rest → x.ending? s.outbox.writer = none →
      ∃ s', s.act terms (.move .read) = some s' ∧ s'.phase = .servicing (silenceLimit terms s.now)
  /-- Elsewhere it does not begin. -/
  refused : ¬ Serviceable terms s.now → ∀ s', s.act terms (.event .serve) = some s' →
    s'.phase = .unserviceable
  /-- And no message can be read, only run into. -/
  overruns : ¬ Serviceable terms s.now → ∀ x rest, s.phase.isServicing = true →
    s.attentive = true → s.inbox = x :: rest → x.isMessage = true →
      s.act terms (.move .read) = none ∧
        ∃ s', s.act terms (.move .overrun) = some s' ∧ s'.phase = .unserviceable
  /-- There is no other way to fail. -/
  fails : ∀ a s', s.act terms a = some s' → s.phase ≠ .unserviceable →
    s'.phase = .unserviceable →
      (a = .event .serve ∨ a = .move .overrun) ∧ ¬ Serviceable terms s.now
  /-- What has failed does not become possible later. -/
  failed : s.phase = .unserviceable → ¬ Serviceable terms s.now

/-- Only what sets a limit, or cannot, fails for want of one. -/
theorem Turn.fails {a : Action γ θ ρ} (turn : Turn terms s a s') (before : s.phase ≠ .unserviceable)
    (refused : s'.phase = .unserviceable) : a.restarts = true ∨ a = .move .overrun := by
  cases turn with
  | stays quiet same => exact absurd (same.symm.trans refused) before
  | restarts restarts => exact Or.inl restarts
  | overruns same => exact Or.inr same
  | givesUp limit d same phase late inbox silence left =>
    rw [left] at refused
    cases refused
  | leaves cause serving other left =>
    rw [left] at refused
    rcases leavingPhase_cases (γ := γ) s.now terms cause with ⟨_, limit, same⟩ | ⟨_, same⟩ <;>
      simp [same] at refused
  | beside quiet outside after => exact absurd refused after.2

theorem serve_phase (acted : s.act terms (.event .serve) = some s') :
    s'.phase = servingPhase s.now terms := by
  simp only [act, receive] at acted
  split at acted
  · cases acted
    rfl
  · cases acted

/-- Nothing that can be read makes servicing fail. -/
theorem Effect.reads_on (effect : Effect terms s (.move .read) s') :
    s'.phase ≠ .unserviceable := by
  have restarted : (deadline? terms s.now).isSome = true →
      (servingPhase s.now terms : Phase γ) ≠ .unserviceable := by
    intro timely
    rw [servingPhase_eq timely]
    simp
  have left : ∀ cause, (leavingPhase s.now terms cause : Phase γ) ≠ .unserviceable := by
    intro cause
    rcases leavingPhase_cases (γ := γ) s.now terms cause with ⟨_, limit, same⟩ | ⟨_, same⟩ <;>
      simp [same]
  cases effect with
  | ignore x rest reading message timely | ping rest outbox reading taken timely
  | dispatch request rest outbox reading retained timely => exact restarted timely
  | hangUp x rest cause reading => exact left cause
  | pingRefused rest reading => exact left .writerEnded
  | control other | finish outcome other | flush cause outbox other
  | endJob i t how outbox job other | sink b outbox other => cases other

theorem Watched.serviced {w : Watch γ θ} (watched : Watched terms w s) : Serviced terms s where
  begins able s' acted := by
    rw [serve_phase acted]
    exact servingPhase_eq (Option.isSome_iff_ne_none.mpr (deadline_ne_none.mpr able))
  goesOn able x rest serving attentive inbox harmless := by
    obtain ⟨s', acted, _, phase⟩ :=
      watched.listening.moves x rest serving attentive inbox harmless (deadline_ne_none.mpr able)
    exact ⟨s', acted, phase⟩
  refused unable s' acted := by
    simp only [serve_phase acted, servingPhase, deadline_eq_none.mpr unable]
  overruns unable x rest serving attentive inbox message := by
    have none := deadline_eq_none.mpr unable
    obtain ⟨limit, phase⟩ := Phase.servicing_of_isServicing serving
    have overdue : s.isOverdue terms x = true := by simp [isOverdue, message, none]
    refine ⟨by simp [act, advance, read?, phase, inbox, overdue], { s with phase := .unserviceable },
      ?_, rfl⟩
    simp [act, advance, phase, inbox, attentive, overdue]
  fails a s' acted before refused := by
    have effect := Effect.of_act acted
    rcases effect.turn.refused refused with stuck | late
    · exact absurd stuck before
    · refine ⟨?_, deadline_eq_none.mp late⟩
      rcases effect.turn.fails before refused with restarts | overrun
      · rcases Action.restarts_cases restarts with rfl | rfl
        · exact Or.inl rfl
        · exact absurd refused effect.reads_on
      · exact Or.inr overrun
  failed stuck := deadline_eq_none.mp (watched.refused stuck)

/-- With a few hundred pings at most, half of what a clock can show is enough. -/
theorem serviceable_of_few (few : terms.settings.pingTimeoutMultiplier.toNat ≤ 250)
    (permits : terms.settings.permits ≤ Permits.most)
    (buffer : terms.settings.buffer ≤ Permits.most)
    (early : 2 * (terms.epoch + now) ≤ clockLimit) : Serviceable terms now := by
  refine ⟨permits, buffer, ?_⟩
  have bound := terms.settings.pingIntervalMs.toNat_lt
  have pings : max terms.settings.pingTimeoutMultiplier.toNat 1 ≤ 250 := by omega
  have most : terms.settings.pingTimeoutMs ≤ terms.settings.pingIntervalMs.toNat * 250 :=
    Nat.mul_le_mul_left _ pings
  rw [silenceLimit]
  rw [clockLimit] at early ⊢
  omega

/-- What becomes of the settings in a document. Their silence is exact where there is one, and
connections can be serviced for as long as the clock can show it. -/
theorem accepted_served {text : String} {known : Settings}
    (accepted : Settings.parse text = .ok known) : known.Derived ∧
      ∀ terms : Terms θ, terms.settings = known.call →
        (∀ now, known.call.pingTimeoutMultiplier.toNat ≤ 250 →
          known.call.permits ≤ Permits.most → known.call.buffer ≤ Permits.most →
          2 * (terms.epoch + now) ≤ clockLimit → Serviceable terms now) ∧
        ∀ (openedAt : Nat) (arguments : ConnectArguments α) (actions : List (Action γ θ ρ))
          (s : Session α γ θ ρ),
          (Session.opened terms.settings openedAt arguments).run terms actions = some s →
            Serviced terms s := by
  refine ⟨Settings.derived_of_valid (Settings.valid_of_parse accepted), fun terms same => ⟨?_, ?_⟩⟩
  · intro now few permits buffer early
    rw [← same] at few permits buffer
    exact serviceable_of_few few permits buffer early
  · intro openedAt arguments actions s ran
    exact (Watched.of_run ran).serviced

/-- The standard settings, in a document that says nothing. -/
theorem accepted_served_standard : Settings.parse "" = .ok {} ∧ ({} : Settings).Derived ∧
    Serviceable exchangeTerms 0 ∧ ∃ s : Session String String Nat String,
      (Session.opened exchangeTerms.settings 0 { payload := "hello" }).run exchangeTerms
        exchangeStart = some s ∧
      s.phase = .servicing 15_000 ∧ Serviced exchangeTerms s :=
  have accepted : Settings.parse "" = .ok {} := by decide +kernel
  have served := accepted_served (α := String) (γ := String) (θ := Nat) (ρ := String) accepted
  have serves := served.2 exchangeTerms rfl
  ⟨accepted, served.1, serves.1 0 (by decide) (by decide) (by decide) (by decide), _, rfl, rfl,
    serves.2 0 { payload := "hello" } exchangeStart _ rfl⟩

/-- Pings at the longest interval a document can tell, of which two thousand may be missed. -/
def sparsePings : String :=
  "[reverse_call]\nping_interval_ms = 9223372036854775807\nping_timeout_multiplier = 2001"

/-- A document is accepted though its silence is longer than any duration, and a connection that is
made with its settings cannot be serviced. -/
theorem sparsePings_unserviceable : ∃ known, Settings.parse sparsePings = .ok known ∧
    known.call.pingTimeout? = none ∧
    ∃ s : Session String String Nat String,
      (Session.opened known.call 0 { payload := "hello" }).run
        { exchangeTerms with settings := known.call } exchangeStart = some s ∧
      s.phase = .unserviceable :=
  ⟨{ call := { pingIntervalMs := 9223372036854775807, pingTimeoutMultiplier := 2001 } },
    by decide +kernel, by decide +kernel, _, rfl, rfl⟩

end Dialback.Session
