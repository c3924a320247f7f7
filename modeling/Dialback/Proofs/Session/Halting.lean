import Dialback.Proofs.Session.Reception

/-!
Sessions that have been told to stop. Wherever the signal finds a session that has not failed and
whose remote end has not closed the stream, it ends as cancelled: nothing is read any more, and what
handlers, writer and remote end do makes no difference. Only one that is connected but not serviced
yet can still come to grief, if it turns out that it cannot be serviced.
-/
namespace Dialback.Session

variable {α γ θ ρ : Type}

/-- The session has neither failed nor been closed by the remote end. -/
def Phase.mayStop : Phase γ → Bool
  | introducing | connecting _ | accepted _ | servicing _ => true
  | _ => false

/-- On the way to the outcome of a session that was stopped. It may have been connected before and
not serviced yet, or it was not. -/
def Phase.isHalting (unserved : Bool) : Phase γ → Bool
  | introducing | connecting _ | servicing _ => true
  | accepted _ | unserviceable => unserved
  | draining cause _ | aborting cause | flushing cause => decide (cause = .stopped)
  | ended outcome _ => decide (outcome = .cancelled)

/-- The signals have fired in time. -/
structure Halting (terms : Terms θ) (unserved : Bool) (s : Session α γ θ ρ) : Prop where
  stopped : s.stop ≠ none
  cancelled : s.cancel ≠ none
  phase : s.phase.isHalting unserved = true
  stranded : s.phase = .unserviceable → deadline? terms s.now = none

/-- The session is connected, but cannot be serviced any more. -/
def isStranded (s : Session α γ θ ρ) (terms : Terms θ) : Bool :=
  match s.phase with
  | .accepted _ | .unserviceable => (deadline? terms s.now).isNone
  | _ => false

/-- The write of the connect arguments fails. -/
def Action.failsIntroduction : Action γ θ ρ → Bool
  | .event (.introductionFailed _) => true
  | _ => false

variable {s s' : Session α γ θ ρ} {terms : Terms θ} {a : Action γ θ ρ} {unserved : Bool}

/-- The signals have reached a session in time. -/
theorem Halting.of_mayStop (able : s.phase.mayStop = true) {u : Session α γ θ ρ}
    (signalled : u.stop ≠ none ∧ u.cancel ≠ none) (same : u.phase = s.phase) :
    Halting terms s.phase.isAccepted u where
  stopped := signalled.1
  cancelled := signalled.2
  phase := by
    rw [same]
    cases phase : s.phase <;> simp_all [Phase.mayStop, Phase.isHalting, Phase.isAccepted]
  stranded := by
    intro stuck
    rw [← same, stuck] at able
    cases able

/-- A session that was not waiting to be serviced is never stranded. -/
theorem Halting.not_stranded (halting : Halting terms false s) : s.isStranded terms = false := by
  have here := halting.phase
  unfold isStranded
  split
  case h_1 phase | h_2 phase =>
    rw [phase] at here
    cases here
  case h_3 => rfl

/-- A session that has been told to stop reads nothing. -/
theorem Halting.inattentive (halting : Halting terms unserved s) : s.undisturbed = false := by
  obtain ⟨time, stopped⟩ := Option.ne_none_iff_exists'.mp halting.stopped
  simp [undisturbed, stopped]

theorem Halting.not_reading (halting : Halting terms unserved s) {x : Inbound γ θ}
    {rest : List (Inbound γ θ)} : ¬ Reading s x rest := by
  intro reading
  have attentive := reading.attentive
  simp [Session.attentive, halting.inattentive] at attentive

/-- The session goes on towards the same outcome. -/
private theorem Halting.next (halting : Halting terms unserved s)
    (same : s'.stop = s.stop ∧ s'.cancel = s.cancel) (phase : s'.phase.isHalting unserved = true)
    (stranded : s'.phase = .unserviceable → deadline? terms s'.now = none) :
    Halting terms unserved s' where
  stopped := by
    rw [same.1]
    exact halting.stopped
  cancelled := by
    rw [same.2]
    exact halting.cancelled
  phase := phase
  stranded := stranded

theorem Halting.step (halting : Halting terms unserved s) (sent : a.failsIntroduction = false)
    (effect : Effect terms s a s') : Halting terms unserved s' := by
  have here := halting.phase
  cases effect with
  | control control =>
    cases control with
    | stop unset => exact absurd unset halting.stopped
    | cancel unset => exact absurd unset halting.cancelled
    | elapse time later =>
      refine halting.next ⟨rfl, rfl⟩ here fun stuck => ?_
      exact deadline_eq_none_of_le (halting.stranded stuck) (Nat.le_of_lt later)
    | introduced => exact halting.next ⟨rfl, rfl⟩ rfl (by simp)
    | serve payload phase =>
      rw [phase] at here
      cases known : deadline? terms s.now with
      | some limit =>
        exact halting.next ⟨rfl, rfl⟩ (by simp [servingPhase, known, Phase.isHalting])
          (by simp [servingPhase, known])
      | none =>
        refine halting.next ⟨rfl, rfl⟩ ?_ fun _ => known
        simp only [servingPhase, known]
        exact here
    | heedStop limit phase =>
      exact halting.next ⟨rfl, rfl⟩ rfl (by simp [leavingPhase, Cause.isGraceful])
    | heedWriter limit phase unstopped => exact absurd unstopped halting.stopped
    | giveUpServicing limit d phase inbox silence attentive
    | overrun limit x rest phase inbox attentive =>
      simp [Session.attentive, halting.inattentive] at attentive
    | drainOver cause limit phase =>
      rw [phase] at here
      exact halting.next ⟨rfl, rfl⟩ here (by simp)
  | finish o ends =>
    cases ends with
    | introductionFailed => cases sent
    | cancelConnect => exact halting.next ⟨rfl, rfl⟩ rfl (by simp)
    | giveUpConnecting limit phase inbox uncancelled => exact absurd uncancelled halting.cancelled
    | aborted fault phase =>
      rw [phase] at here
      simp [Phase.isHalting] at here
    | settle cause how phase =>
      rw [phase] at here
      have stopped : cause = .stopped := of_decide_eq_true here
      exact halting.next ⟨rfl, rfl⟩ (decide_eq_true ((outcomeOf_cases cause how).1.mpr stopped))
        (by simp)
  | accept limit payload rest phase inbox uncancelled => exact absurd uncancelled halting.cancelled
  | dismiss limit x rest o phase inbox uncancelled => exact absurd uncancelled halting.cancelled
  | ignore x rest reading | hangUp x rest cause reading | ping rest outbox reading
  | pingRefused rest reading | dispatch request rest outbox reading =>
    exact absurd reading halting.not_reading
  | joinPanicked i t limit job unnoticed phase undisturbed =>
    simp [halting.inattentive] at undisturbed
  | flush cause outbox flushes =>
    refine halting.next ⟨rfl, rfl⟩ ?_ (by simp)
    cases flushes with
    | drained cause limit phase => rwa [phase] at here
    | aborted cause phase => rwa [phase] at here
  | arrive | join | ask | start | answer | place | endJob | sink =>
    exact halting.next ⟨rfl, rfl⟩ here halting.stranded

theorem Halting.unread (halting : Halting terms unserved s) (effect : Effect terms s a s') :
    a ≠ .move .read := by
  rintro rfl
  obtain ⟨x, rest, reading⟩ := effect.reading
  exact halting.not_reading reading

theorem Halting.run (halting : Halting terms unserved s) {actions : List (Action γ θ ρ)}
    (sent : ∀ a ∈ actions, a.failsIntroduction = false) (ran : s.run terms actions = some s') :
    Halting terms unserved s' :=
  Runs.preserved (fun a => a.failsIntroduction = false)
    (fun _ _ _ sent halting acted => halting.step sent (.of_act acted)) halting sent ran

theorem Action.not_failsIntroduction_of_isOwn (own : a.isOwn = true) :
    a.failsIntroduction = false := by
  cases a with
  | move m => rfl
  | event e =>
    cases e with
    | introductionFailed => cases own
    | _ => rfl

private theorem Halting.goes_on (halting : Halting terms false s) (steady : Steady terms s) :
    (∃ time, s.phase = .ended .cancelled time) ∨ CanGoOn terms s := by
  have here := halting.phase
  obtain ⟨time, stopped⟩ := Option.ne_none_iff_exists'.mp halting.stopped
  obtain ⟨time', cancelled⟩ := Option.ne_none_iff_exists'.mp halting.cancelled
  cases phase : s.phase with
  | introducing =>
    exact Or.inr (onward (a := .event .introduced) rfl rfl (by simp)
      (by simp [act, receive, phase]))
  | connecting limit =>
    exact Or.inr (onward (a := .move .cancelConnect) rfl rfl (by simp)
      (by simp [act, advance, phase, cancelled]))
  | servicing limit =>
    exact Or.inr (onward (a := .move .heedStop) rfl rfl (by simp)
      (by simp [act, advance, phase, stopped]))
  | draining cause limit | aborting cause | flushing cause =>
    rw [phase] at here
    have same : cause = .stopped := of_decide_eq_true here
    have outlook : s.outlook? = some .cancelled := by
      simp [outlook?, phase, same, Cause.outcome?]
    rw [← phase]
    exact steady.goes_on outlook
  | ended o time =>
    rw [phase] at here
    exact Or.inl ⟨time, by rw [of_decide_eq_true here]⟩
  | accepted | unserviceable =>
    rw [phase] at here
    cases here

private theorem Halting.ends_begun (halting : Halting terms false s) (steady : Steady terms s) :
    ∃ rest s' time, (∀ a ∈ rest, a.isOwn = true) ∧ s.run terms rest = some s' ∧
      s'.phase = .ended .cancelled time := by
  refine ends_of_onward (fun s => Halting terms false s ∧ Steady terms s) ?_ ?_ ⟨halting, steady⟩
  · intro s actions s' known own ran
    have sent := fun a member => Action.not_failsIntroduction_of_isOwn (own a member)
    exact ⟨known.1.run sent ran, known.2.run ran⟩
  · exact fun s known => known.1.goes_on known.2

/-- A session that was stopped in time can go on to its end. If it is connected and not serviced
yet, it has to be serviced first. -/
theorem Halting.ends (halting : Halting terms unserved s) (steady : Steady terms s)
    (able : s.isStranded terms = false) :
    ∃ rest s' time, (∀ a ∈ rest, a.isOwn = true) ∧ s.run terms rest = some s' ∧
      s'.phase = .ended .cancelled time := by
  have begun : s.phase.isHalting false = true → Halting terms false s :=
    fun phase => ⟨halting.stopped, halting.cancelled, phase, halting.stranded⟩
  have here := halting.phase
  cases phase : s.phase with
  | accepted payload =>
    have timely : (deadline? terms s.now).isSome = true := by
      simpa [isStranded, phase] using able
    obtain ⟨limit, serving⟩ := servingPhase_of_timely (γ := γ) timely
    have acted : s.act terms (.event .serve) = some (s.serve terms) := by
      simp [act, receive, phase]
    have halting' : Halting terms false (s.serve terms) :=
      ⟨halting.stopped, halting.cancelled, by simp [serve, serving, Phase.isHalting],
        by simp [serve, serving]⟩
    obtain ⟨rest, s', time, own, ran, ended⟩ :=
      halting'.ends_begun (steady.step (.of_act acted))
    exact ⟨.event .serve :: rest, s', time, List.forall_mem_cons.mpr ⟨rfl, own⟩,
      Runs.foldlM_cons.mpr ⟨_, acted, ran⟩, ended⟩
  | unserviceable => simp [isStranded, phase, halting.stranded phase] at able
  | introducing | connecting | servicing | draining | aborting | flushing | ended =>
    rw [phase] at here
    exact (begun (by rw [phase]; exact here)).ends_begun steady

end Dialback.Session
