import Dialback.Proofs.Session.Pending
import Dialback.Proofs.Session.Progress

/-!
Sessions on time. Everything is done as soon as it can be, and the sink accepts at once whatever it
is handed; so when time passes no response is on its way, and a response that waits for room has been
given at this very moment. Along a run it is noted which handlers have come to an end, and when.
-/
namespace Dialback.Session

variable {α γ θ ρ : Type}

/-- A write does not succeed. -/
def Action.breaksWrite : Action γ θ ρ → Bool
  | .event (.writeFailed _) | .event .writerCrashed => true
  | _ => false

/-- Everything is done as soon as it can be, and no write takes any time or fails. -/
def actSwiftly (s : Session α γ θ ρ) (terms : Terms θ) :
    Action γ θ ρ → Option (Session α γ θ ρ)
  | .event (.writeFailed _) | .event .writerCrashed => none
  | .event (.elapse time) =>
    if s.outbox.writer.isBusy then none else s.actPromptly terms (.event (.elapse time))
  | a => s.actPromptly terms a

def runSwiftly (s : Session α γ θ ρ) (terms : Terms θ) (actions : List (Action γ θ ρ)) :
    Option (Session α γ θ ρ) :=
  actions.foldlM (fun s a => s.actSwiftly terms a) s

/-- Whose handler returns or panics, and when. -/
def noteEnd (ends : List (Nat × Nat)) (s : Session α γ θ ρ) : Action γ θ ρ → List (Nat × Nat)
  | .event (.answer job _) | .event (.panic job) => ends ++ [(job, s.now)]
  | _ => ends

/-- The ends of handlers in a run that begins in `s`. -/
def handlerEnds (s : Session α γ θ ρ) (terms : Terms θ) (actions : List (Action γ θ ρ)) :
    List (Nat × Nat) :=
  Runs.noted (fun s a => s.act terms a) noteEnd [] s actions

/-- What makes an action one of a run on time. -/
structure Swift (terms : Terms θ) (s : Session α γ θ ρ) (a : Action γ θ ρ) : Prop where
  unbroken : a.breaksWrite = false
  waits : ∀ time, a = .event (.elapse time) → s.isQuiet terms = true ∧
    (∀ limit, s.phase.limit? = some limit → time ≤ limit) ∧ s.outbox.writer.isBusy = false

/-- What a job at a stage has to say about its handler: when it returned, and at which times it is
noted to have ended. -/
inductive Stage.Told (noted : Nat → Prop) : Stage → Option Nat → Prop
  | unfinished (stage : Stage) (early : stage = .waiting ∨ stage = .inLine ∨ stage = .running)
      (never : ∀ time, ¬ noted time) : Told noted stage none
  | returned (stage : Stage) (time : Nat)
      (late : stage = .offering ∨ stage = .ended .queued ∨ stage = .ended .aborted)
      (once : ∀ u, noted u ↔ u = time) : Told noted stage (some time)
  | panicked (time : Nat) (known : noted time) : Told noted (.ended .panicked) none
  | aborted (never : ∀ time, ¬ noted time) : Told noted (.ended .aborted) none

structure Timed (ends : List (Nat × Nat)) (s : Session α γ θ ρ) : Prop where
  told : ∀ (i : Nat) (t : Job θ), s.jobs[i]? = some t →
    t.stage.Told (fun time => (i, time) ∈ ends) t.answered
  inside : ∀ e ∈ ends, e.1 < s.jobs.length ∧ e.2 ≤ s.now
  /-- A response that waits for room has just been given. -/
  fresh : ∀ t ∈ s.jobs, t.stage = .offering → t.answered = some s.now

structure Punctual (terms : Terms θ) (ends : List (Nat × Nat)) (s : Session α γ θ ρ) : Prop where
  orderly : Orderly terms s
  steady : Steady terms s
  timed : Timed ends s
  /-- The writer goes only with the session. -/
  unlost : s.outbox.writer.isLost = true → s.phase.isEnded = true

variable {s s' : Session α γ θ ρ} {terms : Terms θ} {a : Action γ θ ρ} {ends : List (Nat × Nat)}

/-! Actions of a run on time. -/

theorem act_of_swiftly (acted : s.actSwiftly terms a = some s') :
    s.act terms a = some s' ∧ Swift terms s a := by
  unfold actSwiftly at acted
  split at acted
  case h_1 => cases acted
  case h_2 => cases acted
  case h_3 time =>
    split at acted
    case isTrue => cases acted
    case isFalse idle =>
      change (if s.mayWait terms time then s.act terms (.event (.elapse time)) else none) = some s'
        at acted
      split at acted
      case isTrue waits =>
        simp only [mayWait, Bool.and_eq_true, Option.all_eq_true, decide_eq_true_eq] at waits
        refine ⟨acted, rfl, ?_⟩
        rintro _ ⟨⟩
        exact ⟨waits.1, waits.2, by simpa using idle⟩
      case isFalse => cases acted
  case h_4 failed crashed other =>
    refine ⟨(act_of_promptly acted).1, ?_, fun time same => absurd same (other time)⟩
    unfold Action.breaksWrite
    split
    · exact absurd rfl (failed _)
    · exact absurd rfl crashed
    · rfl

theorem run_of_swiftly {actions : List (Action γ θ ρ)}
    (ran : s.runSwiftly terms actions = some s') : s.run terms actions = some s' :=
  Runs.run_of_narrower (fun _ _ _ acted => (act_of_swiftly acted).1) ran

/-- Induction along a run on time, with a note of the ends of handlers. -/
theorem swift_induction {invariant : List (Nat × Nat) → Session α γ θ ρ → Prop}
    (step : ∀ ends s a s', invariant ends s → Swift terms s a → Effect terms s a s' →
      invariant (noteEnd ends s a) s')
    {actions : List (Action γ θ ρ)} (initial : invariant ends s)
    (ran : s.runSwiftly terms actions = some s') :
    invariant (Runs.noted (fun s a => s.act terms a) noteEnd ends s actions) s' := by
  apply Runs.narrower_induction (fun _ _ _ acted => (act_of_swiftly acted).1) _ initial ran
  intro ends s a s' known acted
  obtain ⟨done, swift⟩ := act_of_swiftly acted
  exact step ends s a s' known swift (.of_act done)

/-! When the session may wait. -/

/-- While a job has not ended the writer is at work. -/
theorem Punctual.writer_lasts (punctual : Punctual terms ends s) {i : Nat} {t : Job θ}
    (job : s.jobs[i]? = some t) (lasts : t.hasEnded = false) :
    s.outbox.writer.hasEnded = false ∧ s.outbox.writer.isShutting = false := by
  have isOpen := punctual.steady.tended.open_of_live job lasts
  have working : s.outbox.writer.isShutting = false := by
    by_contra shutting
    rw [punctual.steady.tended.shutting (by simpa using shutting)] at isOpen
    cases isOpen
  refine ⟨?_, working⟩
  by_contra gone
  rcases Writer.lost_or_shutting (by simpa using gone) with lost | shutting
  · rw [Phase.isClosed_of_isEnded (punctual.unlost lost)] at isOpen
    cases isOpen
  · rw [working] at shutting
    cases shutting

/-- No response is on its way when time passes. -/
theorem Punctual.none_offering (punctual : Punctual terms ends s) (quiet : s.isQuiet terms = true)
    (idle : s.outbox.writer.isBusy = false) : ∀ t ∈ s.jobs, t.stage ≠ .offering := by
  intro t member offering
  obtain ⟨i, job⟩ := List.mem_iff_getElem?.mp member
  have lasts : t.hasEnded = false := Job.hasEnded_of_stage offering
  have tended := punctual.steady.tended
  have seated := punctual.orderly.seated
  have held : 0 < s.outbox.handles := by
    have handles := (tended.held (tended.open_of_live job lasts)).2
    unfold ownHandles at handles
    omega
  obtain ⟨working, _⟩ := punctual.writer_lasts job lasts
  have writer : s.outbox.writer = .idle := by
    cases writer : s.outbox.writer with
    | idle => rfl
    | writing | closing => simp [writer, Writer.isBusy] at idle
    | ended => simp [writer, Writer.hasEnded, Writer.ending?] at working
  cases queue : s.outbox.queue with
  | cons m rest =>
    refine not_quiet (m := .pick) (by simp [moves]) ?_ quiet
    simp only [act, advance, Outbox.step, writer, Option.isSome_map, Outbox.picked?, queue]
    split <;> simp_all
  | nil =>
    obtain ⟨e, rest, offers⟩ : ∃ e rest, s.outbox.offers = e :: rest := by
      have known := (seated.offers i).mpr (by rw [stage_known job, offering])
      exact List.exists_cons_of_ne_nil (by rintro none; simp [none] at known)
    obtain ⟨u, here, stage⟩ := job_of_stage ((seated.offers e.1).mp (by simp [offers]))
    have unjoined := tended.unjoined here (Job.hasEnded_of_stage stage)
    refine not_quiet (m := .place e.1) ?_ (seated.place_isSome held working queue offers) quiet
    simp [moves, jobMoves, mem_pendingJobs here unjoined]

/-! Actions at which no handler ends. -/

theorem Control.noteEnd (control : Control terms s a s') : noteEnd ends s a = ends := by
  cases control <;> rfl

theorem Ends.noteEnd {outcome : Outcome} (finished : Ends s a outcome) : noteEnd ends s a = ends := by
  cases finished <;> rfl

theorem Flushes.noteEnd {cause : Cause} (flushes : Flushes s a cause) :
    noteEnd ends s a = ends := by
  cases flushes <;> rfl

theorem Sinks.noteEnd {b : Outbox.Action (ClientMessage α ρ)} (sunk : Sinks s.now a b) :
    noteEnd ends s a = ends := by
  cases sunk <;> rfl

/-! Times of jobs. -/

theorem Stage.Told.congr {noted noted' : Nat → Prop} {stage : Stage} {answered : Option Nat}
    (told : stage.Told noted answered) (same : ∀ time, noted' time ↔ noted time) :
    stage.Told noted' answered := by
  have equal : noted' = noted := funext fun time => propext (same time)
  rwa [equal]

/-- A handler that has returned is noted at that time, and at no other. -/
theorem Stage.Told.of_answered {noted : Nat → Prop} {stage : Stage} {time : Nat}
    (told : stage.Told noted (some time)) :
    (stage = .offering ∨ stage = .ended .queued ∨ stage = .ended .aborted) ∧
      ∀ u, noted u ↔ u = time := by
  cases told with
  | returned _ _ late once => exact ⟨late, once⟩

theorem Stage.Told.noted_of_queued {noted : Nat → Prop} {answered : Option Nat}
    (told : (Stage.ended .queued).Told noted answered) : ∃ time, noted time := by
  cases told with
  | unfinished _ early => simp at early
  | returned _ time _ once => exact ⟨time, (once time).mpr rfl⟩

theorem Timed.opened (settings : CallSettings) (openedAt : Nat) (arguments : ConnectArguments α) :
    Timed [] (Session.opened settings openedAt arguments : Session α γ θ ρ) where
  told i t job := by simp [Session.opened] at job
  inside e member := by simp at member
  fresh t member := by simp [Session.opened] at member

/-- The jobs stay as they are. -/
private theorem Timed.keep (timed : Timed ends s) (jobs : s'.jobs = s.jobs)
    (now : s'.now = s.now) : Timed ends s' where
  told := by
    rw [jobs]
    exact timed.told
  inside := by
    rw [jobs, now]
    exact timed.inside
  fresh := by
    rw [jobs, now]
    exact timed.fresh

/-- A job takes a step. -/
private theorem Timed.update (timed : Timed ends s) {i : Nat} {t t' : Job θ}
    {ends' : List (Nat × Nat)} (job : s.jobs[i]? = some t) (jobs : s'.jobs = s.jobs.set i t')
    (now : s'.now = s.now) (own : t'.stage.Told (fun time => (i, time) ∈ ends') t'.answered)
    (others : ∀ e, e.1 ≠ i → (e ∈ ends' ↔ e ∈ ends))
    (inside : ∀ e ∈ ends', e.1 = i → e.2 ≤ s.now)
    (fresh : t'.stage = .offering → t'.answered = some s.now) : Timed ends' s' where
  told j u known := by
    rw [jobs, List.getElem?_set] at known
    by_cases same : i = j
    · subst same
      simp only [if_true, (List.getElem?_eq_some_iff.mp job).1] at known
      cases known
      exact own
    · rw [if_neg same] at known
      exact (timed.told j u known).congr fun time => others (j, time) (Ne.symm same)
  inside e member := by
    rw [jobs, List.length_set, now]
    by_cases same : e.1 = i
    · rw [same]
      exact ⟨(List.getElem?_eq_some_iff.mp job).1, inside e member same⟩
    · exact timed.inside e ((others e same).mp member)
  fresh u member offering := by
    rw [now]
    rw [jobs] at member
    rcases List.mem_or_eq_of_mem_set member with known | rfl
    · exact timed.fresh u known offering
    · exact fresh offering

/-- A job takes a step at which its handler does not end. -/
private theorem Timed.progress (timed : Timed ends s) {i : Nat} {t t' : Job θ}
    (job : s.jobs[i]? = some t) (jobs : s'.jobs = s.jobs.set i t') (now : s'.now = s.now)
    (own : t'.stage.Told (fun time => (i, time) ∈ ends) t'.answered)
    (fresh : t'.stage = .offering → t'.answered = some s.now) : Timed ends s' :=
  timed.update job jobs now own (fun _ _ => Iff.rfl) (fun e member _ => (timed.inside e member).2)
    fresh

/-- A handler ends now. -/
private theorem Timed.finish (timed : Timed ends s) {i : Nat} {t t' : Job θ}
    (job : s.jobs[i]? = some t) (jobs : s'.jobs = s.jobs.set i t') (now : s'.now = s.now)
    (own : t'.stage.Told (fun time => (i, time) ∈ ends ++ [(i, s.now)]) t'.answered)
    (fresh : t'.stage = .offering → t'.answered = some s.now) :
    Timed (ends ++ [(i, s.now)]) s' := by
  refine timed.update job jobs now own (fun e other => ?_) (fun e member _ => ?_) fresh
  · have different : e ≠ (i, s.now) := by
      rintro rfl
      exact other rfl
    simp [different]
  · rcases List.mem_append.mp member with known | new
    · exact (timed.inside e known).2
    · exact Nat.le_of_eq (congrArg Prod.snd (List.mem_singleton.mp new))

/-- What is told of a job whose handler is still to end, or to begin. -/
private theorem Stage.Told.never {noted : Nat → Prop} {stage : Stage} {answered : Option Nat}
    (told : stage.Told noted answered)
    (early : stage = .waiting ∨ stage = .inLine ∨ stage = .running) :
    answered = none ∧ ∀ time, ¬ noted time := by
  cases told with
  | unfinished stage _ never => exact ⟨rfl, never⟩
  | returned stage time late => rcases late with rfl | rfl | rfl <;> simp at early
  | panicked | aborted => simp at early

private theorem Stage.Told.once {noted : Nat → Prop} {answered : Option Nat}
    (told : Stage.offering.Told noted answered) :
    ∃ time, answered = some time ∧ ∀ u, noted u ↔ u = time := by
  cases told with
  | unfinished _ early => simp at early
  | returned _ time _ once => exact ⟨time, rfl, once⟩

/-- An aborted job tells what it has told before. -/
private theorem Stage.Told.abort {noted : Nat → Prop} {stage : Stage} {answered : Option Nat}
    (told : stage.Told noted answered) (lasts : stage.isEnded = false) :
    (Stage.ended .aborted).Told noted answered := by
  cases told with
  | unfinished _ _ never => exact .aborted never
  | returned _ time _ once => exact .returned _ time (Or.inr (Or.inr rfl)) once
  | panicked | aborted => cases lasts

theorem Timed.step (punctual : Punctual terms ends s) (swift : Swift terms s a)
    (effect : Effect terms s a s') : Timed (noteEnd ends s a) s' := by
  have timed := punctual.timed
  cases effect with
  | control control =>
    rw [control.noteEnd]
    cases control with
    | elapse time later =>
      obtain ⟨quiet, _, idle⟩ := swift.waits time rfl
      refine ⟨timed.told, fun e member => ?_, fun t member offering => ?_⟩
      · obtain ⟨inside, early⟩ := timed.inside e member
        exact ⟨inside, Nat.le_trans early (Nat.le_of_lt later)⟩
      · exact absurd offering (punctual.none_offering quiet idle t member)
    | _ => exact timed.keep rfl rfl
  | finish outcome finished =>
    rw [finished.noteEnd]
    exact timed.keep rfl rfl
  | arrive | accept | dismiss | ignore | hangUp | ping | pingRefused => exact timed.keep rfl rfl
  | flush cause outbox flushes =>
    rw [flushes.noteEnd]
    exact timed.keep rfl rfl
  | sink b outbox sunk =>
    rw [sunk.noteEnd]
    exact timed.keep rfl rfl
  | dispatch request rest outbox =>
    refine ⟨fun i t known => ?_, fun e member => ?_, fun t member offering => ?_⟩
    · rcases job_of_append known with before | ⟨rfl, rfl⟩
      · exact timed.told i t before
      · refine .unfinished _ (Or.inl rfl) fun time noted => ?_
        exact absurd (timed.inside _ noted).1 (Nat.lt_irrefl _)
    · obtain ⟨inside, early⟩ := timed.inside e member
      refine ⟨?_, early⟩
      simp only [List.length_append, List.length_singleton]
      omega
    · rcases List.mem_append.mp member with known | new
      · exact timed.fresh t known offering
      · rw [List.mem_singleton.mp new] at offering
        cases offering
  | join i t job =>
    exact timed.progress job rfl rfl (timed.told i t job) (timed.fresh t (List.mem_of_getElem? job))
  | joinPanicked i t limit job =>
    exact timed.progress job rfl rfl (timed.told i t job) (timed.fresh t (List.mem_of_getElem? job))
  | ask i t job waiting =>
    obtain ⟨unanswered, never⟩ := (timed.told i t job).never (Or.inl waiting)
    refine timed.progress job rfl rfl ?_ (by simp [Job.withStage])
    rw [Job.withStage, unanswered]
    exact .unfinished _ (Or.inr (Or.inl rfl)) never
  | start i t permits job inLine =>
    obtain ⟨unanswered, never⟩ := (timed.told i t job).never (Or.inr (Or.inl inLine))
    refine timed.progress job rfl rfl ?_ (by simp)
    dsimp only
    rw [unanswered]
    exact .unfinished _ (Or.inr (Or.inr rfl)) never
  | answer i t response outbox job running =>
    obtain ⟨_, never⟩ := (timed.told i t job).never (Or.inr (Or.inr running))
    refine timed.finish job rfl rfl (.returned _ s.now (Or.inl rfl) fun u => ?_) fun _ => rfl
    simp [never u]
  | place i t placed outbox job offering =>
    have told := timed.told i t job
    rw [offering] at told
    obtain ⟨time, answered, once⟩ := told.once
    refine timed.progress job rfl rfl ?_ (by simp [Job.withStage])
    rw [Job.withStage, answered]
    exact .returned _ time (Or.inr (Or.inl rfl)) once
  | endJob i t how outbox job finished =>
    have told := timed.told i t job
    cases finished with
    | refuse offering gone =>
      have lasts : t.hasEnded = false := Job.hasEnded_of_stage offering
      rw [(punctual.writer_lasts job lasts).1] at gone
      cases gone
    | panic running =>
      obtain ⟨unanswered, _⟩ := told.never (Or.inr (Or.inr running))
      refine timed.finish job rfl rfl ?_ (by simp [Job.withStage])
      rw [Job.withStage, unanswered]
      exact .panicked s.now (List.mem_append_right _ (List.mem_singleton.mpr rfl))
    | abort aborting live =>
      exact timed.progress job rfl rfl (told.abort live) (by simp [Job.withStage])

/-! The writer. -/

/-- A writer that is kept while the session goes on is not lost afterwards. -/
private theorem Punctual.unlost_keep (punctual : Punctual terms ends s)
    (writer : s'.outbox.writer = s.outbox.writer)
    (phase : s'.phase = s.phase ∨ s.phase.isEnded = false) :
    s'.outbox.writer.isLost = true → s'.phase.isEnded = true := by
  intro lost
  rw [writer] at lost
  have finished := punctual.unlost lost
  rcases phase with same | lasts
  · rwa [same]
  · rw [lasts] at finished
    cases finished

theorem Punctual.unlost_step (punctual : Punctual terms ends s) (swift : Swift terms s a)
    (effect : Effect terms s a s') : s'.outbox.writer.isLost = true → s'.phase.isEnded = true := by
  cases effect with
  | control control =>
    cases control with
    | stop | cancel | elapse => exact punctual.unlost_keep rfl (Or.inl rfl)
    | introduced phase | serve payload phase | heedStop limit phase | heedWriter limit phase
    | giveUpServicing limit d phase | overrun limit x rest phase | drainOver cause limit phase =>
      exact punctual.unlost_keep rfl (Or.inr (by rw [phase]; rfl))
  | finish | dismiss => exact fun _ => rfl
  | accept limit payload rest phase | joinPanicked i t limit job unnoticed phase =>
    exact punctual.unlost_keep rfl (Or.inr (by rw [phase]; rfl))
  | arrive | join | ask | start => exact punctual.unlost_keep rfl (Or.inl rfl)
  | ignore x rest reading | hangUp x rest cause reading | pingRefused rest reading =>
    exact punctual.unlost_keep rfl (Or.inr reading.past.2)
  | ping rest outbox reading taken =>
    obtain ⟨_, rfl⟩ := Outbox.step_pong.mp taken
    exact punctual.unlost_keep rfl (Or.inr reading.past.2)
  | dispatch request rest outbox reading retained =>
    obtain ⟨_, rfl⟩ := Outbox.step_retain.mp retained
    exact punctual.unlost_keep rfl (Or.inr reading.past.2)
  | flush cause outbox flushes left =>
    obtain ⟨_, rfl⟩ := Outbox.run_owners_leave.mp left
    refine punctual.unlost_keep rfl (Or.inr ?_)
    cases flushes with
    | drained cause limit phase => rw [phase]; rfl
    | aborted cause phase => rw [phase]; rfl
  | answer i t response outbox job running offered =>
    rw [← Outbox.step_offer offered]
    exact punctual.unlost_keep rfl (Or.inl rfl)
  | place i t placed outbox job offering room left =>
    obtain ⟨_, m, _, rfl⟩ := Outbox.step_place.mp room
    obtain ⟨_, rfl⟩ := Outbox.run_sender_leaves.mp left
    exact punctual.unlost_keep rfl (Or.inl rfl)
  | endJob i t how outbox job finished left =>
    obtain ⟨_, rfl⟩ := Outbox.run_sender_leaves.mp left
    exact punctual.unlost_keep rfl (Or.inl rfl)
  | sink b outbox sunk work =>
    intro lost
    cases work with
    | pickPong | pickMessage | shut | wrote => cases lost
    | broke b how m since writing broken =>
      have unbroken := swift.unbroken
      cases broken <;> cases sunk <;> cases unbroken
    | closed b how closing closed => cases closed <;> cases lost

theorem Punctual.opened (openedAt : Nat) (arguments : ConnectArguments α) :
    Punctual terms [] (Session.opened terms.settings openedAt arguments : Session α γ θ ρ) where
  orderly := .opened openedAt arguments
  steady := .opened terms.settings openedAt arguments
  timed := .opened terms.settings openedAt arguments
  unlost lost := by simp [Session.opened, Writer.isLost] at lost

theorem Punctual.step (punctual : Punctual terms ends s) (swift : Swift terms s a)
    (effect : Effect terms s a s') : Punctual terms (noteEnd ends s a) s' where
  orderly := punctual.orderly.step effect
  steady := punctual.steady.step effect
  timed := Timed.step punctual swift effect
  unlost := punctual.unlost_step swift effect

/-- Every run on time from the opening of a session is punctual. -/
theorem Punctual.of_run {openedAt : Nat} {arguments : ConnectArguments α}
    {actions : List (Action γ θ ρ)}
    (ran : (Session.opened terms.settings openedAt arguments).runSwiftly terms actions = some s) :
    Punctual terms ((Session.opened terms.settings openedAt arguments).handlerEnds terms actions)
      s :=
  swift_induction (fun _ _ _ _ punctual swift effect => punctual.step swift effect)
    (.opened openedAt arguments) ran

end Dialback.Session
