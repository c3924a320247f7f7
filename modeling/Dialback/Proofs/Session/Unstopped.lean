import Dialback.Proofs.Session.Inbound

/-!
Sessions that are neither stopped nor cancelled. Such a session does not end as cancelled, and it
completes only behind an accepted connect response.
-/
namespace Dialback.Session

variable {α γ θ ρ : Type}

/-- Why servicing came to an end, while its end is under way. -/
def Phase.cause? : Phase γ → Option Cause
  | draining cause _ | aborting cause | flushing cause => some cause
  | _ => none

/-- The accepted connect response of which the caller has been told. -/
def served? (s : Session α γ θ ρ) : Option γ :=
  match s.phase with
  | .accepted _ => none
  | _ => s.welcome.map Prod.snd

def Action.isSignal : Action γ θ ρ → Bool
  | .event .stop | .event .cancel => true
  | _ => false

structure Unstopped (s : Session α γ θ ρ) : Prop where
  stop : s.stop = none
  cancel : s.cancel = none
  cause : s.phase.cause? ≠ some .stopped
  uncancelled : ∀ time, s.phase ≠ .ended .cancelled time
  early : s.phase.isEarly = true → s.welcome = none
  accepted : ∀ payload, s.phase = .accepted payload → s.welcome.map Prod.snd = some payload
  welcomed : s.phase.isEarly = false → s.phase.isEnded = false → s.welcome.isSome = true
  completed : ∀ time, s.phase = .ended .completed time → s.welcome.isSome = true

variable {s s' : Session α γ θ ρ} {terms : Terms θ} {a : Action γ θ ρ}

theorem Unstopped.opened (settings : CallSettings) (openedAt : Nat)
    (arguments : ConnectArguments α) :
    Unstopped (Session.opened settings openedAt arguments : Session α γ θ ρ) where
  stop := rfl
  cancel := rfl
  cause := by simp [Session.opened, Phase.cause?]
  uncancelled time phase := by simp [Session.opened] at phase
  early _ := rfl
  accepted payload phase := by simp [Session.opened] at phase
  welcomed late := by simp [Session.opened, Phase.isEarly] at late
  completed time phase := by simp [Session.opened] at phase

/-- The session goes on in another phase. -/
private theorem Unstopped.move (unstopped : Unstopped s)
    (same : s'.stop = s.stop ∧ s'.cancel = s.cancel ∧ s'.welcome = s.welcome)
    (cause : s'.phase.cause? ≠ some .stopped) (lasts : s'.phase.isEnded = false)
    (early : s'.phase.isEarly = true → s.phase.isEarly = true)
    (accepted : ∀ payload, s'.phase = .accepted payload → s.phase = .accepted payload)
    (late : s'.phase.isEarly = false → s.phase.isEarly = false ∧ s.phase.isEnded = false) :
    Unstopped s' where
  stop := same.1.trans unstopped.stop
  cancel := same.2.1.trans unstopped.cancel
  cause := cause
  uncancelled time phase := by simp [phase, Phase.isEnded] at lasts
  early before := same.2.2.trans (unstopped.early (early before))
  accepted payload phase := by
    rw [same.2.2]
    exact unstopped.accepted payload (accepted payload phase)
  welcomed past _ := by
    rw [same.2.2]
    exact unstopped.welcomed (late past).1 (late past).2
  completed time phase := by simp [phase, Phase.isEnded] at lasts

/-- The session goes on in the same phase. -/
private theorem Unstopped.stay (unstopped : Unstopped s)
    (same : s'.stop = s.stop ∧ s'.cancel = s.cancel ∧ s'.welcome = s.welcome)
    (phase : s'.phase = s.phase) : Unstopped s' where
  stop := same.1.trans unstopped.stop
  cancel := same.2.1.trans unstopped.cancel
  cause := by
    rw [phase]
    exact unstopped.cause
  uncancelled := by
    rw [phase]
    exact unstopped.uncancelled
  early := by
    rw [phase, same.2.2]
    exact unstopped.early
  accepted := by
    rw [phase, same.2.2]
    exact unstopped.accepted
  welcomed := by
    rw [phase, same.2.2]
    exact unstopped.welcomed
  completed := by
    rw [phase, same.2.2]
    exact unstopped.completed

/-- The loop goes on. -/
private theorem Unstopped.serve (unstopped : Unstopped s) {now : Nat}
    (same : s'.stop = s.stop ∧ s'.cancel = s.cancel ∧ s'.welcome = s.welcome)
    (phase : s'.phase = servingPhase now terms)
    (before : s.phase.isEarly = false ∧ s.phase.isEnded = false) : Unstopped s' := by
  rcases servingPhase_cases (γ := γ) now terms with ⟨limit, serving⟩ | serving
  all_goals
    rw [serving] at phase
    refine unstopped.move same ?_ ?_ ?_ ?_ fun _ => before
  all_goals simp [phase, Phase.cause?, Phase.isEnded, Phase.isEarly]

/-- The loop is left, for another reason than the stop signal. -/
private theorem Unstopped.leave (unstopped : Unstopped s) (terms : Terms θ) (cause : Cause)
    (other : cause ≠ .stopped)
    (same : s'.stop = s.stop ∧ s'.cancel = s.cancel ∧ s'.welcome = s.welcome)
    (phase : s'.phase = leavingPhase s.now terms cause)
    (before : s.phase.isEarly = false ∧ s.phase.isEnded = false) : Unstopped s' := by
  rcases leavingPhase_cases (γ := γ) s.now terms cause with ⟨_, limit, leaving⟩ | ⟨_, leaving⟩
  all_goals
    rw [leaving] at phase
    refine unstopped.move same ?_ ?_ ?_ ?_ fun _ => before
  all_goals simp [phase, Phase.cause?, Phase.isEnded, Phase.isEarly, other]

/-- The session ends, not as cancelled. -/
private theorem Unstopped.finish (unstopped : Unstopped s) {outcome : Outcome} {time : Nat}
    (same : s'.stop = s.stop ∧ s'.cancel = s.cancel ∧ s'.welcome = s.welcome)
    (phase : s'.phase = .ended outcome time) (uncancelled : outcome ≠ .cancelled)
    (completed : outcome = .completed → s.welcome.isSome = true) : Unstopped s' where
  stop := same.1.trans unstopped.stop
  cancel := same.2.1.trans unstopped.cancel
  cause := by simp [phase, Phase.cause?]
  uncancelled time' ended := by
    rw [phase, Phase.ended.injEq] at ended
    exact uncancelled ended.1
  early before := by simp [phase, Phase.isEarly] at before
  accepted payload accepting := by simp [phase] at accepting
  welcomed _ lasts := by simp [phase, Phase.isEnded] at lasts
  completed time' ended := by
    rw [phase, Phase.ended.injEq] at ended
    rw [same.2.2]
    exact completed ended.1

private theorem Unstopped.control (unstopped : Unstopped s) (quiet : a.isSignal = false)
    (control : Control terms s a s') : Unstopped s' := by
  cases control with
  | stop | cancel => cases quiet
  | elapse => exact unstopped.stay ⟨rfl, rfl, rfl⟩ rfl
  | introduced phase =>
    refine unstopped.move ⟨rfl, rfl, rfl⟩ ?_ rfl (fun _ => by rw [phase]; rfl) ?_ fun late => ?_
    · simp [Phase.cause?]
    · intro payload next
      cases next
    · simp [Phase.isEarly] at late
  | serve payload phase =>
    exact unstopped.serve ⟨rfl, rfl, rfl⟩ rfl (by simp [phase, Phase.isEarly, Phase.isEnded])
  | heedStop limit phase stopped =>
    rw [unstopped.stop] at stopped
    cases stopped
  | heedWriter limit phase =>
    exact unstopped.leave terms .writerEnded (by simp) ⟨rfl, rfl, rfl⟩ rfl
      (by simp [phase, Phase.isEarly, Phase.isEnded])
  | giveUpServicing limit d phase =>
    exact unstopped.leave terms (.fault (.silent d)) (by simp) ⟨rfl, rfl, rfl⟩ rfl
      (by simp [phase, Phase.isEarly, Phase.isEnded])
  | overrun limit x rest phase =>
    exact unstopped.move ⟨rfl, rfl, rfl⟩ (by simp [Phase.cause?]) rfl
      (fun early => by simp [Phase.isEarly] at early) (by simp)
      fun _ => by simp [phase, Phase.isEarly, Phase.isEnded]
  | drainOver cause limit phase =>
    refine unstopped.move ⟨rfl, rfl, rfl⟩ ?_ rfl (fun early => by simp [Phase.isEarly] at early) ?_
      fun _ => by simp [phase, Phase.isEarly, Phase.isEnded]
    · have other := unstopped.cause
      rwa [phase] at other
    · intro payload next
      cases next

private theorem Reading.late {x : Inbound γ θ} {rest : List (Inbound γ θ)}
    (reading : Reading s x rest) : s.phase.isEarly = false ∧ s.phase.isEnded = false := by
  obtain ⟨limit, phase⟩ := reading.serving
  simp [phase, Phase.isEarly, Phase.isEnded]

/-- How the writer ended makes no difference but to a session that ends because of it. -/
theorem outcomeOf_cases (cause : Cause) (how : WriterEnd) :
    (outcomeOf cause how = .cancelled ↔ cause = .stopped) ∧
      (outcomeOf cause how = .completed ↔ cause = .closed) := by
  cases cause with
  | stopped => simp [outcomeOf]
  | closed => simp [outcomeOf]
  | fault fault => simp [outcomeOf]
  | writerEnded => cases how <;> simp [outcomeOf]

theorem Unstopped.step (unstopped : Unstopped s) (quiet : a.isSignal = false)
    (effect : Effect terms s a s') : Unstopped s' := by
  cases effect with
  | control control => exact unstopped.control quiet control
  | finish outcome ends =>
    cases ends with
    | introductionFailed | giveUpConnecting | aborted =>
      exact unstopped.finish ⟨rfl, rfl, rfl⟩ rfl (by simp) (by simp)
    | cancelConnect limit phase cancelled =>
      rw [unstopped.cancel] at cancelled
      cases cancelled
    | settle cause how phase =>
      refine unstopped.finish ⟨rfl, rfl, rfl⟩ rfl ?_ fun _ => ?_
      · intro cancelled
        have stopped := (outcomeOf_cases cause how).1.mp cancelled
        have other := unstopped.cause
        simp [phase, Phase.cause?, stopped] at other
      · exact unstopped.welcomed (by rw [phase]; rfl) (by rw [phase]; rfl)
  | accept limit payload rest phase =>
    refine ⟨unstopped.stop, unstopped.cancel, by simp [Phase.cause?], ?_, ?_, ?_,
      fun _ _ => rfl, ?_⟩
    · intro time next
      cases next
    · intro early
      simp [Phase.isEarly] at early
    · intro other next
      cases next
      rfl
    · intro time next
      cases next
  | dismiss limit x rest outcome phase inbox uncancelled dismissal =>
    have failed : ∃ fault, outcome = .failed fault := by
      unfold dismissal? at dismissal
      split at dismissal <;> cases dismissal <;> exact ⟨_, rfl⟩
    obtain ⟨fault, rfl⟩ := failed
    exact unstopped.finish ⟨rfl, rfl, rfl⟩ rfl (by simp) (by simp)
  | hangUp x rest cause reading ends =>
    refine unstopped.leave terms cause ?_ ⟨rfl, rfl, rfl⟩ rfl reading.late
    rintro rfl
    cases x <;> simp [Inbound.cause?] at ends
  | ignore x rest reading | ping rest outbox reading | dispatch request rest outbox reading =>
    exact unstopped.serve ⟨rfl, rfl, rfl⟩ rfl reading.late
  | pingRefused rest reading =>
    exact unstopped.leave terms .writerEnded (by simp) ⟨rfl, rfl, rfl⟩ rfl reading.late
  | joinPanicked i t limit job unnoticed phase =>
    exact unstopped.leave terms (.fault .handlerPanicked) (by simp) ⟨rfl, rfl, rfl⟩ rfl
      (by simp [phase, Phase.isEarly, Phase.isEnded])
  | flush cause outbox flushes =>
    have before : s.phase.cause? = some cause ∧ s.phase.isEarly = false ∧
        s.phase.isEnded = false := by
      cases flushes with
      | drained cause limit phase => simp [phase, Phase.cause?, Phase.isEarly, Phase.isEnded]
      | aborted cause phase => simp [phase, Phase.cause?, Phase.isEarly, Phase.isEnded]
    refine unstopped.move ⟨rfl, rfl, rfl⟩ ?_ rfl (fun early => by simp [Phase.isEarly] at early) ?_
      fun _ => before.2
    · have other := unstopped.cause
      rwa [before.1] at other
    · intro payload next
      cases next
  | arrive | join | ask | start | answer | place | endJob | sink =>
    exact unstopped.stay ⟨rfl, rfl, rfl⟩ rfl

/-! What the caller has been told. -/

theorem served_eq (past : ∀ payload, s.phase ≠ .accepted payload) :
    s.served? = s.welcome.map Prod.snd := by
  unfold served?
  split
  case h_1 payload phase => exact absurd phase (past payload)
  case h_2 => rfl

private theorem served_move (welcome : s'.welcome = s.welcome)
    (before : ∀ payload, s.phase ≠ .accepted payload)
    (after : ∀ payload, s'.phase ≠ .accepted payload) : s'.served? = s.served? := by
  rw [served_eq before, served_eq after, welcome]

theorem servingPhase_accepted {now : Nat} {payload : γ} :
    (servingPhase now terms : Phase γ) ≠ .accepted payload := by
  rcases servingPhase_cases (γ := γ) now terms with ⟨limit, same⟩ | same <;> simp [same]

private theorem served_leave (terms : Terms θ) (cause : Cause) (welcome : s'.welcome = s.welcome)
    (before : ∀ payload, s.phase ≠ .accepted payload)
    (phase : s'.phase = leavingPhase s.now terms cause) : s'.served? = s.served? := by
  refine served_move welcome before fun payload => ?_
  rcases leavingPhase_cases (γ := γ) s.now terms cause with ⟨_, limit, same⟩ | ⟨_, same⟩ <;>
    simp [phase, same]

private theorem Reading.unaccepted {x : Inbound γ θ} {rest : List (Inbound γ θ)}
    (reading : Reading s x rest) (payload : γ) : s.phase ≠ .accepted payload := by
  obtain ⟨limit, phase⟩ := reading.serving
  simp [phase]

/-- The caller is told when it begins to serve. -/
theorem Unstopped.served_serve (unstopped : Unstopped s) (terms : Terms θ) {payload : γ}
    (phase : s.phase = .accepted payload) :
    s.served? = none ∧ (s.serve terms).served? = some payload := by
  constructor
  · simp [served?, phase]
  · rw [served_eq fun _ => servingPhase_accepted]
    exact unstopped.accepted payload phase

/-- Nothing else tells it. -/
theorem Unstopped.served_step (unstopped : Unstopped s) (other : a ≠ .event .serve)
    (effect : Effect terms s a s') : s'.served? = s.served? := by
  cases effect with
  | control control =>
    cases control with
    | stop | cancel | elapse => rfl
    | introduced phase => exact served_move rfl (by simp [phase]) (by simp)
    | serve => exact absurd rfl other
    | heedStop limit phase => exact served_leave terms .stopped rfl (by simp [phase]) rfl
    | heedWriter limit phase => exact served_leave terms .writerEnded rfl (by simp [phase]) rfl
    | giveUpServicing limit d phase =>
      exact served_leave terms (.fault (.silent d)) rfl (by simp [phase]) rfl
    | overrun limit x rest phase | drainOver cause limit phase =>
      exact served_move rfl (by simp [phase]) (by simp)
  | finish outcome ends =>
    refine served_move rfl ?_ (by simp)
    cases ends with
    | introductionFailed fault phase => simp [phase]
    | cancelConnect limit phase => simp [phase]
    | giveUpConnecting limit phase => simp [phase]
    | aborted fault phase => simp [phase]
    | settle cause how phase => simp [phase]
  | accept limit payload rest phase =>
    have none := unstopped.early (by rw [phase]; rfl)
    rw [served_eq (s := s) (by simp [phase]), none]
    rfl
  | dismiss limit x rest outcome phase => exact served_move rfl (by simp [phase]) (by simp)
  | ignore x rest reading | ping rest outbox reading | dispatch request rest outbox reading =>
    exact served_move rfl reading.unaccepted fun _ => servingPhase_accepted
  | hangUp x rest cause reading => exact served_leave terms cause rfl reading.unaccepted rfl
  | pingRefused rest reading => exact served_leave terms .writerEnded rfl reading.unaccepted rfl
  | joinPanicked i t limit job unnoticed phase =>
    exact served_leave terms (.fault .handlerPanicked) rfl (by simp [phase]) rfl
  | flush cause outbox flushes =>
    refine served_move rfl ?_ (by simp)
    cases flushes with
    | drained cause limit phase => simp [phase]
    | aborted cause phase => simp [phase]
  | arrive | join | ask | start | answer | place | endJob | sink => rfl

end Dialback.Session
