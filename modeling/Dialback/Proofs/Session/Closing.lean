import Dialback.Proofs.Session.Handles
import Dialback.Proofs.Session.Remaining
import Dialback.Proofs.Session.Unstopped

/-!
From the end of servicing to the outcome. Once the serving loop has been left, the outcome is
settled: whatever handlers, writer and remote end do while the session drains, tears down and
flushes, it ends with that outcome, and nothing can keep it from ending.
-/
namespace Dialback.Session

variable {α γ θ ρ : Type}

/-- The outcome of a session that is left for this cause. If it is left because of its writer, how
the writer ended tells. -/
def Cause.outcome? {μ : Type} (cause : Cause) (w : Writer μ) : Option Outcome :=
  match cause with
  | stopped => some .cancelled
  | closed => some .completed
  | fault reason => some (.failed reason)
  | writerEnded => w.ending?.map (outcomeOf .writerEnded)

/-- The outcome to come, once it is settled. -/
def outlook? (s : Session α γ θ ρ) : Option Outcome :=
  match s.phase with
  | .draining cause _ | .aborting cause | .flushing cause => cause.outcome? s.outbox.writer
  | .ended outcome _ => some outcome
  | _ => none

/-- What a session does by itself, what its caller and its sink do if nothing fails, and the passing
of time. -/
def Action.isOwn : Action γ θ ρ → Bool
  | .move _ | .event .introduced | .event .serve | .event .wrote | .event .closed
  | .event (.elapse _) => true
  | _ => false

/-- The session is bound to end with this outcome. -/
structure Settles (terms : Terms θ) (s : Session α γ θ ρ) (outcome : Outcome) : Prop where
  /-- Nothing that happens later changes the outcome. -/
  only : ∀ actions s', s.run terms actions = some s' →
    ∀ other time, s'.phase = .ended other time → other = outcome
  /-- Whatever else happens, the session can go on to its end. -/
  ends : ∀ actions s', s.run terms actions = some s' → ∃ rest s'' time,
    (∀ a ∈ rest, a.isOwn = true) ∧ s'.run terms rest = some s'' ∧ s''.phase = .ended outcome time
  /-- And it cannot go on for ever. -/
  bounded : ∀ actions s', s.run terms actions = some s' →
    actions.countP (fun a => !a.isIdle) ≤ s.remaining

/-- The sink has been asked to write or to close. -/
def Writer.isBusy {μ : Type} : Writer μ → Bool
  | writing _ _ | closing => true
  | _ => false

/-- What the end of a session relies on, at every moment. -/
structure Steady (terms : Terms θ) (s : Session α γ θ ρ) : Prop where
  heard : ∃ l : Log γ θ ρ, Heard l s
  tended : Tended s
  measured : ∀ limit, s.phase = .servicing limit → terms.settings.pingTimeout?.isSome = true
  released : ∀ cause, s.phase = .flushing cause →
    s.outbox.pongsOpen = false ∧ s.outbox.handles = 0
  gone : s.phase.cause? = some .writerEnded → s.outbox.writer.hasEnded = true

variable {s s' : Session α γ θ ρ} {terms : Terms θ} {a : Action γ θ ρ} {outcome : Outcome}

/-- Only the clock moves the clock. -/
theorem Effect.now_eq (instant : ∀ time, a ≠ .event (.elapse time)) (effect : Effect terms s a s') :
    s'.now = s.now := by
  cases effect with
  | control control =>
    cases control with
    | elapse time => exact absurd rfl (instant time)
    | _ => rfl
  | _ => rfl

theorem Effect.now_of_byLoop (byLoop : a.byLoop = true) (effect : Effect terms s a s') :
    s'.now = s.now := by
  refine effect.now_eq ?_
  rintro time rfl
  cases byLoop

/-! The outcome stays as it is. -/

theorem Cause.outcome_of_ending {μ : Type} {w : Writer μ} {how : WriterEnd} (cause : Cause)
    (ended : w.ending? = some how) : cause.outcome? w = some (outcomeOf cause how) := by
  cases cause <;> simp [outcome?, outcomeOf, ended]

/-- A writer that has ended keeps the outcome as it is; any other has no part in it. -/
private theorem Cause.outcome_stays {μ : Type} {cause : Cause} {w w' : Writer μ}
    (same : w.hasEnded = true → w' = w) (known : cause.outcome? w = some outcome) :
    cause.outcome? w' = some outcome := by
  cases cause with
  | stopped | closed | fault => exact known
  | writerEnded =>
    obtain ⟨how, ended, _⟩ := Option.map_eq_some_iff.mp known
    rw [same (by simp [Writer.hasEnded, ended])]
    exact known

private theorem outlook_keep (known : s.outlook? = some outcome) (phase : s'.phase = s.phase)
    (writer : s.outbox.writer.hasEnded = true → s'.outbox.writer = s.outbox.writer) :
    s'.outlook? = some outcome := by
  unfold outlook? at known ⊢
  rw [phase]
  split <;> simp_all [Cause.outcome_stays writer]

theorem outlook_of_cause {cause : Cause} (phase : s.phase.cause? = some cause) :
    s.outlook? = cause.outcome? s.outbox.writer := by
  unfold outlook?
  cases here : s.phase <;> simp_all [Phase.cause?]

/-- No action changes an outcome that is settled. -/
theorem Effect.outlook (effect : Effect terms s a s') (known : s.outlook? = some outcome) :
    s'.outlook? = some outcome := by
  cases effect with
  | control control =>
    cases control with
    | stop | cancel | elapse => exact known
    | introduced phase | serve payload phase | heedStop limit phase | heedWriter limit phase
    | giveUpServicing limit d phase | overrun limit x rest phase => simp [outlook?, phase] at known
    | drainOver cause limit phase => simpa [outlook?, phase] using known
  | finish o ends =>
    cases ends with
    | introductionFailed fault phase | cancelConnect limit phase | giveUpConnecting limit phase =>
      simp [outlook?, phase] at known
    | aborted fault phase => simpa [outlook?, phase, Cause.outcome?] using known
    | settle cause how phase ended =>
      simpa [outlook?, phase, cause.outcome_of_ending ended] using known
  | arrive | join | ask | start => exact outlook_keep known rfl fun _ => rfl
  | accept limit payload rest phase | dismiss limit x rest o phase =>
    simp [outlook?, phase] at known
  | ignore x rest reading | hangUp x rest cause reading | ping rest outbox reading
  | pingRefused rest reading | dispatch request rest outbox reading =>
    obtain ⟨limit, phase⟩ := reading.serving
    simp [outlook?, phase] at known
  | joinPanicked i t limit job unnoticed phase => simp [outlook?, phase] at known
  | flush cause outbox flushes left =>
    obtain ⟨_, rfl⟩ := Outbox.run_owners_leave.mp left
    cases flushes with
    | drained cause limit phase => simpa [outlook?, phase] using known
    | aborted cause phase => simpa [outlook?, phase] using known
  | answer i t response outbox job running offered =>
    rw [← Outbox.step_offer offered]
    exact outlook_keep known rfl fun _ => rfl
  | place i t placed outbox job offering room left =>
    obtain ⟨_, m, _, rfl⟩ := Outbox.step_place.mp room
    obtain ⟨_, rfl⟩ := Outbox.run_sender_leaves.mp left
    exact outlook_keep known rfl fun _ => rfl
  | endJob i t how outbox job ends left =>
    obtain ⟨_, rfl⟩ := Outbox.run_sender_leaves.mp left
    exact outlook_keep known rfl fun _ => rfl
  | sink b outbox sunk work =>
    refine outlook_keep known rfl fun ended => ?_
    rw [work.unended] at ended
    cases ended

theorem run_outlook {actions : List (Action γ θ ρ)} (ran : s.run terms actions = some s')
    (known : s.outlook? = some outcome) :
    s'.outlook? = some outcome ∧ ∀ a ∈ actions, a ≠ .move .read := by
  induction actions generalizing s with
  | nil =>
    cases ran
    exact ⟨known, by simp⟩
  | cons a rest ih =>
    obtain ⟨next, acted, ran⟩ := Runs.foldlM_cons.mp ran
    obtain ⟨kept, unread⟩ := ih ran ((Effect.of_act acted).outlook known)
    refine ⟨kept, List.forall_mem_cons.mpr ⟨?_, unread⟩⟩
    rintro rfl
    obtain ⟨x, rest, reading⟩ := (Effect.of_act acted).reading
    obtain ⟨limit, phase⟩ := reading.serving
    simp [outlook?, phase] at known

/-! Steady sessions. -/

theorem Steady.opened (settings : CallSettings) (openedAt : Nat) (arguments : ConnectArguments α) :
    Steady terms (Session.opened settings openedAt arguments : Session α γ θ ρ) where
  heard := ⟨{}, .opened settings openedAt arguments⟩
  tended := .opened settings openedAt arguments
  measured limit phase := by simp [Session.opened] at phase
  released cause phase := by simp [Session.opened] at phase
  gone phase := by simp [Session.opened, Phase.cause?] at phase

/-- A limit that has been set is one that the clock can show. -/
theorem deadline_of_servingPhase {now limit : Nat}
    (serving : (servingPhase now terms : Phase γ) = .servicing limit) :
    deadline? terms now = some limit := by
  unfold servingPhase at serving
  split at serving
  case h_1 limit' known =>
    cases serving
    exact known
  case h_2 => cases serving

theorem pingTimeout_of_servingPhase {now limit : Nat}
    (serving : (servingPhase now terms : Phase γ) = .servicing limit) :
    terms.settings.pingTimeout?.isSome = true := by
  obtain ⟨_, d, known, _⟩ := deadline_eq_some.mp (deadline_of_servingPhase serving)
  rw [known]
  rfl

theorem leavingPhase_cause (now : Nat) (terms : Terms θ) (cause : Cause) :
    (leavingPhase now terms cause : Phase γ).cause? = some cause := by
  rcases leavingPhase_cases (γ := γ) now terms cause with ⟨_, limit, phase⟩ | ⟨_, phase⟩ <;>
    simp [phase, Phase.cause?]

private theorem servingPhase_cause (now : Nat) (terms : Terms θ) :
    (servingPhase now terms : Phase γ).cause? = none := by
  rcases servingPhase_cases (γ := γ) now terms with ⟨limit, phase⟩ | phase <;>
    simp [phase, Phase.cause?]

theorem Writer.hasEnded_of_reportsFailure {μ : Type} {w : Writer μ}
    (failed : w.reportsFailure = true) : w.hasEnded = true := by
  cases w with
  | ended how => rfl
  | idle | writing | closing => cases failed

/-- The phase is one of which nothing is to be shown. -/
private theorem Steady.next (heard : ∃ l : Log γ θ ρ, Heard l s') (tended : Tended s')
    (serving : ∀ limit, s'.phase ≠ .servicing limit)
    (flushing : ∀ cause, s'.phase ≠ .flushing cause)
    (gone : s'.phase.cause? = some .writerEnded → s'.outbox.writer.hasEnded = true) :
    Steady terms s' where
  heard := heard
  tended := tended
  measured limit phase := absurd phase (serving limit)
  released cause phase := absurd phase (flushing cause)
  gone := gone

/-- The loop goes on. -/
private theorem Steady.serve (heard : ∃ l : Log γ θ ρ, Heard l s') (tended : Tended s') {now : Nat}
    (phase : s'.phase = servingPhase now terms) : Steady terms s' where
  heard := heard
  tended := tended
  measured limit serving := pingTimeout_of_servingPhase (phase.symm.trans serving)
  released cause flushing := by
    rw [phase] at flushing
    rcases servingPhase_cases (γ := γ) now terms with ⟨limit, same⟩ | same <;>
      simp [same] at flushing
  gone because := by simp [phase, servingPhase_cause] at because

/-- The loop is left. -/
private theorem Steady.leave (heard : ∃ l : Log γ θ ρ, Heard l s') (tended : Tended s') (now : Nat)
    (cause : Cause) (phase : s'.phase = leavingPhase now terms cause)
    (gone : cause = .writerEnded → s'.outbox.writer.hasEnded = true) : Steady terms s' := by
  refine Steady.next heard tended ?_ ?_ fun because => ?_
  · rcases leavingPhase_cases (γ := γ) now terms cause with ⟨_, limit, same⟩ | ⟨_, same⟩ <;>
      simp [phase, same]
  · rcases leavingPhase_cases (γ := γ) now terms cause with ⟨_, limit, same⟩ | ⟨_, same⟩ <;>
      simp [phase, same]
  · rw [phase, leavingPhase_cause] at because
    exact gone (Option.some.inj because)

/-- The phase stays as it is, and so does a writer that has ended. -/
private theorem Steady.keep (steady : Steady terms s) (heard : ∃ l : Log γ θ ρ, Heard l s')
    (tended : Tended s') (phase : s'.phase = s.phase)
    (writer : s.outbox.writer.hasEnded = true → s'.outbox.writer = s.outbox.writer)
    (owners : s.phase.isClosed = true →
      s'.outbox.pongsOpen = s.outbox.pongsOpen ∧ s'.outbox.handles = s.outbox.handles) :
    Steady terms s' where
  heard := heard
  tended := tended
  measured := by
    rw [phase]
    exact steady.measured
  released cause flushing := by
    rw [phase] at flushing
    obtain ⟨pongs, handles⟩ := owners (by rw [flushing]; rfl)
    rw [pongs, handles]
    exact steady.released cause flushing
  gone because := by
    rw [phase] at because
    rw [writer (steady.gone because)]
    exact steady.gone because

theorem Steady.step (steady : Steady terms s) (effect : Effect terms s a s') : Steady terms s' := by
  obtain ⟨l, heard⟩ := steady.heard
  have heard' : ∃ l : Log γ θ ρ, Heard l s' := ⟨_, heard.step effect⟩
  have tended' := steady.tended.step heard effect
  have isOpen : ∀ (i : Nat) (t : Job θ), s.jobs[i]? = some t → t.hasEnded = false →
      s.phase.isClosed ≠ true :=
    fun i t job lasts => by simp [steady.tended.open_of_live job lasts]
  cases effect with
  | control control =>
    cases control with
    | stop | cancel | elapse =>
      exact steady.keep heard' tended' rfl (fun _ => rfl) fun _ => ⟨rfl, rfl⟩
    | introduced phase => exact .next heard' tended' (by simp) (by simp) (by simp [Phase.cause?])
    | serve payload phase => exact .serve heard' tended' rfl
    | heedStop limit phase => exact .leave heard' tended' s.now .stopped rfl (by simp)
    | heedWriter limit phase unstopped failed =>
      exact .leave heard' tended' s.now .writerEnded rfl fun _ =>
        Writer.hasEnded_of_reportsFailure failed
    | giveUpServicing limit d phase =>
      exact .leave heard' tended' s.now (.fault (.silent d)) rfl (by simp)
    | overrun => exact .next heard' tended' (by simp) (by simp) (by simp [Phase.cause?])
    | drainOver cause limit phase =>
      refine .next heard' tended' (by simp) (by simp) fun because => ?_
      exact steady.gone (by rw [phase]; exact because)
  | finish o ends => exact .next heard' tended' (by simp) (by simp) (by simp [Phase.cause?])
  | arrive | join | ask | start =>
    exact steady.keep heard' tended' rfl (fun _ => rfl) fun _ => ⟨rfl, rfl⟩
  | accept | dismiss => exact .next heard' tended' (by simp) (by simp) (by simp [Phase.cause?])
  | ignore | ping | dispatch => exact .serve heard' tended' rfl
  | hangUp x rest cause reading ends =>
    refine .leave heard' tended' s.now cause rfl ?_
    rintro rfl
    cases x <;> simp [Inbound.cause?] at ends
  | pingRefused rest reading refused =>
    have gone := steady.tended.refused reading.isOpen refused
    exact .leave heard' tended' s.now .writerEnded rfl fun _ => gone
  | joinPanicked i t limit job unnoticed phase =>
    exact .leave heard' tended' s.now (.fault .handlerPanicked) rfl (by simp)
  | flush cause outbox flushes left =>
    obtain ⟨able, rfl⟩ := Outbox.run_owners_leave.mp left
    have before : s.phase.isClosed = false ∧ s.phase.cause? = some cause ∧ s.allJoined = true := by
      cases flushes with
      | drained cause limit phase joined => simp [phase, Phase.isClosed, Phase.cause?, joined]
      | aborted cause phase reported joined => simp [phase, Phase.isClosed, Phase.cause?, joined]
    obtain ⟨closed, because, joined⟩ := before
    have held := (steady.tended.held closed).2
    have idle := steady.tended.live_of_joined joined
    refine ⟨heard', tended', by simp, fun _ _ => ⟨rfl, ?_⟩, fun same => ?_⟩
    · change s.outbox.handles - 2 = 0
      unfold ownHandles at held
      omega
    · exact steady.gone (because.trans same)
  | answer i t response outbox job running offered =>
    rw [← Outbox.step_offer offered] at tended' heard' ⊢
    exact steady.keep heard' tended' rfl (fun _ => rfl) fun _ => ⟨rfl, rfl⟩
  | place i t placed outbox job offering room left =>
    obtain ⟨_, m, _, rfl⟩ := Outbox.step_place.mp room
    obtain ⟨_, rfl⟩ := Outbox.run_sender_leaves.mp left
    have lasts : t.hasEnded = false := Job.hasEnded_of_stage offering
    exact steady.keep heard' tended' rfl (fun _ => rfl) fun closed =>
      absurd closed (isOpen i t job lasts)
  | endJob i t how outbox job ends left =>
    obtain ⟨_, rfl⟩ := Outbox.run_sender_leaves.mp left
    exact steady.keep heard' tended' rfl (fun _ => rfl) fun closed =>
      absurd closed (isOpen i t job ends.lasts)
  | sink b outbox sunk work =>
    refine steady.keep heard' tended' rfl (fun ended => ?_) fun _ => ⟨work.frame.1, work.frame.2.1⟩
    rw [work.unended] at ended
    cases ended

theorem Steady.run (steady : Steady terms s) {actions : List (Action γ θ ρ)}
    (ran : s.run terms actions = some s') : Steady terms s' :=
  Runs.preserved (fun _ => True) (fun _ _ _ _ steady acted => steady.step (.of_act acted)) steady
    (fun _ _ => trivial) ran

theorem Steady.of_run {settings : CallSettings} {openedAt : Nat} {arguments : ConnectArguments α}
    {actions : List (Action γ θ ρ)}
    (ran : (Session.opened settings openedAt arguments).run terms actions = some s) :
    Steady terms s :=
  (Steady.opened settings openedAt arguments).run ran

/-! The end comes. -/

/-- The session can come nearer to its end by itself. -/
def CanGoOn (terms : Terms θ) (s : Session α γ θ ρ) : Prop :=
  ∃ actions s', (∀ b ∈ actions, b.isOwn = true) ∧ s.run terms actions = some s' ∧
    s'.remaining < s.remaining

/-- An action that leaves less to do than before. -/
theorem onward (own : a.isOwn = true) (busy : a.isIdle = false) (unread : a ≠ .move .read)
    (able : (s.act terms a).isSome = true) : CanGoOn terms s := by
  obtain ⟨s', acted⟩ := Option.isSome_iff_exists.mp able
  have ran : s.run terms [a] = some s' := Runs.foldlM_cons.mpr ⟨s', acted, rfl⟩
  exact ⟨[a], s', by simpa using own, ran, (Effect.of_act acted).remaining_lt busy unread⟩

/-- Time may have to pass first. -/
theorem CanGoOn.later {time : Nat} (later : s.now < time)
    (goesOn : CanGoOn terms { s with now := time }) : CanGoOn terms s := by
  obtain ⟨actions, s', own, ran, less⟩ := goesOn
  have passed : s.act terms (.event (.elapse time)) = some { s with now := time } := by
    simp [act, receive, later]
  exact ⟨.event (.elapse time) :: actions, s', List.forall_mem_cons.mpr ⟨rfl, own⟩,
    Runs.foldlM_cons.mpr ⟨_, passed, ran⟩, less⟩

/-- The induction is on what is left to do, so it does not matter in which order things happen. -/
theorem ends_of_onward (good : Session α γ θ ρ → Prop)
    (kept : ∀ s actions s', good s → (∀ a ∈ actions, a.isOwn = true) →
      s.run terms actions = some s' → good s')
    (goesOn : ∀ s, good s → (∃ time, s.phase = .ended outcome time) ∨ CanGoOn terms s)
    (known : good s) : ∃ rest s' time, (∀ a ∈ rest, a.isOwn = true) ∧
      s.run terms rest = some s' ∧ s'.phase = .ended outcome time := by
  obtain ⟨rest, s', own, ran, time, ended⟩ :=
    Runs.reaches remaining (fun a : Action γ θ ρ => a.isOwn = true) kept goesOn known
  exact ⟨rest, s', time, own, ran, ended⟩

/-- Some move is enabled by which nothing is read. -/
def HasMove (terms : Terms θ) (s : Session α γ θ ρ) : Prop :=
  ∃ m ∈ s.moves, m ≠ .read ∧ (s.act terms (.move m)).isSome = true

theorem HasMove.canGoOn (hasMove : HasMove terms s) : CanGoOn terms s := by
  obtain ⟨m, _, unread, able⟩ := hasMove
  exact onward rfl rfl (by simpa using unread) able

theorem not_quiet {m : Move} (member : m ∈ s.moves)
    (able : (s.act terms (.move m)).isSome = true) : s.isQuiet terms ≠ true := by
  intro quiet
  have none := List.all_eq_true.mp quiet m member
  change (s.advance terms m).isSome = true at able
  simp [Option.isNone_iff_eq_none.mp none] at able

theorem HasMove.not_quiet (hasMove : HasMove terms s) : s.isQuiet terms ≠ true := by
  obtain ⟨m, member, _, able⟩ := hasMove
  exact Session.not_quiet member able

/-- Moves are tried for all jobs that have not been joined. -/
theorem mem_pendingJobs {i : Nat} {t : Job θ} (job : s.jobs[i]? = some t)
    (unjoined : t.joined = false) : i ∈ s.pendingJobs := by
  obtain ⟨inside, here⟩ := List.getElem?_eq_some_iff.mp job
  simp [pendingJobs, inside, here, unjoined]

theorem Tended.unjoined (tended : Tended s) {i : Nat} {t : Job θ} (job : s.jobs[i]? = some t)
    (lasts : t.hasEnded = false) : t.joined = false := by
  by_contra joined
  have ended := tended.joined t (List.mem_of_getElem? job) (by simpa using joined)
  rw [lasts] at ended
  cases ended

theorem endJob_isSome {i : Nat} (t : Job θ) (how : JobEnd) (held : 0 < s.outbox.handles) :
    (s.endJob? i t how).isSome = true := by
  have left : s.outbox.run [.withdraw i, .release] = some _ :=
    Outbox.run_sender_leaves.mpr ⟨held, rfl⟩
  simp [endJob?, left]

theorem flush_isSome (cause : Cause) (pongs : s.outbox.pongsOpen = true)
    (held : 2 ≤ s.outbox.handles) : (s.flush? cause).isSome = true := by
  have left : s.outbox.run [.closePongs, .release, .release] = some _ :=
    Outbox.run_owners_leave.mpr ⟨⟨pongs, held⟩, rfl⟩
  simp [flush?, left]

theorem unnoticed_job (some : s.hasUnnoticed = true) :
    ∃ (i : Nat) (t : Job θ), s.jobs[i]? = .some t ∧ t.unnoticed = true := by
  obtain ⟨t, member, unnoticed⟩ := List.any_eq_true.mp some
  obtain ⟨i, job⟩ := List.mem_iff_getElem?.mp member
  exact ⟨i, t, job, unnoticed⟩

theorem live_job (unfinished : s.allJoined = false) (noticed : s.hasUnnoticed = false) :
    ∃ (i : Nat) (t : Job θ), s.jobs[i]? = some t ∧ t.hasEnded = false := by
  obtain ⟨t, member, unjoined⟩ := List.all_eq_false.mp unfinished
  obtain ⟨i, job⟩ := List.mem_iff_getElem?.mp member
  refine ⟨i, t, job, ?_⟩
  have met := List.any_eq_false.mp noticed t member
  cases ended : t.hasEnded <;> simp_all [Job.unnoticed]

/-- While jobs drain or are torn down, the end of a job can be noticed. -/
theorem join_isSome {i : Nat} {t : Job θ} (job : s.jobs[i]? = some t)
    (unnoticed : t.unnoticed = true)
    (noticing : (∃ limit, s.phase = .servicing limit ∧ s.undisturbed = true) ∨
      (∃ cause limit, s.phase = .draining cause limit) ∨ ∃ cause, s.phase = .aborting cause) :
    (s.act terms (.move (.join i))).isSome = true := by
  have joined : s.act terms (.move (.join i)) = s.join? terms i t := by
    simp only [act, advance, onJob?, job, Option.bind_some]
  rw [joined, join?, guard, if_pos unnoticed]
  rcases noticing with ⟨limit, phase, undisturbed⟩ | ⟨cause, limit, phase⟩ | ⟨cause, phase⟩
  · rw [phase]
    dsimp only
    rw [guard, if_pos undisturbed]
    by_cases panicked : t.stage = .ended .panicked
    · rw [if_pos panicked]
      rfl
    · rw [if_neg panicked]
      rfl
  · rw [phase]
    rfl
  · rw [phase]
    rfl

theorem drainOver_isSome {cause : Cause} {limit : Nat} (phase : s.phase = .draining cause limit)
    (unfinished : s.allJoined = false) (noticed : s.hasUnnoticed = false) (late : limit ≤ s.now) :
    (s.act terms (.move .drainOver)).isSome = true := by
  simp [act, advance, phase, unfinished, noticed, late]

theorem abort_isSome {i : Nat} {t : Job θ} (aborting : s.phase.isAborting = true)
    (held : 0 < s.outbox.handles) (job : s.jobs[i]? = some t) (lasts : t.hasEnded = false) :
    (s.act terms (.move (.abort i))).isSome = true := by
  simp only [act, advance, aborting, if_true, onJob?, job, Option.bind_some, lasts,
    Bool.false_eq_true, if_false]
  exact endJob_isSome t .aborted held

/-- The end of a job is noticed whenever jobs drain or are torn down. -/
private theorem hasMove_of_unnoticed (noticed : s.hasUnnoticed = true)
    (noticing : (∃ cause limit, s.phase = .draining cause limit) ∨
      ∃ cause, s.phase = .aborting cause) : HasMove terms s := by
  obtain ⟨i, t, job, unnoticed⟩ := unnoticed_job noticed
  refine ⟨.join i, ?_, by simp, join_isSome job unnoticed (Or.inr noticing)⟩
  simp only [Job.unnoticed, Bool.and_eq_true, Bool.not_eq_true'] at unnoticed
  simp [moves, loopMoves, mem_pendingJobs job unnoticed.2]

/-- Draining goes on unless it waits for a handler, and the limit is still to come. -/
theorem Steady.drains (steady : Steady terms s) {cause : Cause} {limit : Nat}
    (phase : s.phase = .draining cause limit) :
    HasMove terms s ∨ (s.allJoined = false ∧ s.hasUnnoticed = false ∧ s.now < limit) := by
  obtain ⟨pongs, held⟩ := steady.tended.held (by rw [phase]; rfl)
  cases joined : s.allJoined with
  | true =>
    refine Or.inl ⟨.drained, by simp [moves, loopMoves], by simp, ?_⟩
    simp only [act, advance, phase, joined, if_true]
    exact flush_isSome cause pongs (by unfold ownHandles at held; omega)
  | false =>
    cases noticed : s.hasUnnoticed with
    | true => exact Or.inl (hasMove_of_unnoticed noticed (Or.inl ⟨cause, limit, phase⟩))
    | false =>
      by_cases late : limit ≤ s.now
      · exact Or.inl ⟨.drainOver, by simp [moves, loopMoves], by simp,
          drainOver_isSome phase joined noticed late⟩
      · exact Or.inr ⟨rfl, rfl, Nat.lt_of_not_le late⟩

/-- Tearing down waits for nobody. -/
theorem Steady.aborts (steady : Steady terms s) {cause : Cause}
    (phase : s.phase = .aborting cause) : HasMove terms s := by
  obtain ⟨pongs, held⟩ := steady.tended.held (by rw [phase]; rfl)
  unfold ownHandles at held
  cases joined : s.allJoined with
  | true =>
    refine ⟨.aborted, by simp [moves, loopMoves], by simp, ?_⟩
    cases cause with
    | fault reason => simp [act, advance, phase, joined]
    | stopped | closed | writerEnded =>
      simp only [act, advance, phase, joined, Bool.not_true, Bool.false_eq_true, if_false]
      exact flush_isSome _ pongs (by omega)
  | false =>
    cases noticed : s.hasUnnoticed with
    | true => exact hasMove_of_unnoticed noticed (Or.inr ⟨cause, phase⟩)
    | false =>
      obtain ⟨i, t, job, lasts⟩ := live_job joined noticed
      refine ⟨.abort i, ?_, by simp, abort_isSome (by rw [phase]; rfl) (by omega) job lasts⟩
      simp [moves, loopMoves, mem_pendingJobs job (steady.tended.unjoined job lasts)]

/-- Flushing waits for the sink only. -/
theorem Steady.flushes (steady : Steady terms s) {cause : Cause}
    (phase : s.phase = .flushing cause) : HasMove terms s ∨ s.outbox.writer.isBusy = true := by
  obtain ⟨pongs, handles⟩ := steady.released cause phase
  cases writer : s.outbox.writer with
  | writing | closing => exact Or.inr rfl
  | ended how =>
    refine Or.inl ⟨.settle, by simp [moves, loopMoves], by simp, ?_⟩
    simp [act, advance, phase, writer, Writer.ending?]
  | idle =>
    refine Or.inl ⟨.pick, by simp [moves], by simp, ?_⟩
    simp only [act, advance, Outbox.step, writer, Option.isSome_map, Outbox.picked?]
    split
    · rfl
    · rfl
    · simp [pongs, handles]

/-- The sink accepts what it is handed. -/
theorem accept_isSome (busy : s.outbox.writer.isBusy = true) :
    (s.act terms (.event .wrote)).isSome = true ∨ (s.act terms (.event .closed)).isSome = true := by
  cases writer : s.outbox.writer with
  | writing | closing => simp [act, receive, sink, Outbox.step, writer]
  | idle | ended => simp [writer, Writer.isBusy] at busy

private theorem Steady.draining (steady : Steady terms s) {cause : Cause} {limit : Nat}
    (phase : s.phase = .draining cause limit) : CanGoOn terms s := by
  rcases steady.drains phase with hasMove | ⟨joined, noticed, early⟩
  · exact hasMove.canGoOn
  · have enabled : (act { s with now := limit } terms (.move .drainOver)).isSome = true :=
      drainOver_isSome phase joined noticed (Nat.le_refl limit)
    apply CanGoOn.later early
    exact onward rfl rfl (by simp) enabled

private theorem Steady.flushing (steady : Steady terms s) {cause : Cause}
    (phase : s.phase = .flushing cause) : CanGoOn terms s := by
  rcases steady.flushes phase with hasMove | busy
  · exact hasMove.canGoOn
  · rcases accept_isSome busy with able | able
    · exact onward rfl rfl (by simp) able
    · exact onward rfl rfl (by simp) able

theorem Steady.goes_on (steady : Steady terms s) (known : s.outlook? = some outcome) :
    (∃ time, s.phase = .ended outcome time) ∨ CanGoOn terms s := by
  cases phase : s.phase with
  | introducing | connecting | accepted | servicing | unserviceable =>
    simp [outlook?, phase] at known
  | draining cause limit => exact Or.inr (steady.draining phase)
  | aborting cause => exact Or.inr (steady.aborts phase).canGoOn
  | flushing cause => exact Or.inr (steady.flushing phase)
  | ended o time =>
    have same : o = outcome := by simpa [outlook?, phase] using known
    exact Or.inl ⟨time, by rw [same]⟩

theorem Steady.ends (steady : Steady terms s) (known : s.outlook? = some outcome) :
    ∃ rest s' time, (∀ a ∈ rest, a.isOwn = true) ∧ s.run terms rest = some s' ∧
      s'.phase = .ended outcome time := by
  refine ends_of_onward (fun s => Steady terms s ∧ s.outlook? = some outcome) ?_ ?_ ⟨steady, known⟩
  · exact fun s actions s' known _ ran => ⟨known.1.run ran, (run_outlook ran known.2).1⟩
  · exact fun s known => known.1.goes_on known.2

theorem Steady.settles (steady : Steady terms s) (known : s.outlook? = some outcome) :
    Settles terms s outcome where
  only actions s' ran other time ended := by
    have kept := (run_outlook ran known).1
    simpa [outlook?, ended] using kept
  ends actions s' ran := (steady.run ran).ends (run_outlook ran known).1
  bounded actions s' ran := by
    have bound := run_remaining ran (run_outlook ran known).2
    omega

end Dialback.Session
