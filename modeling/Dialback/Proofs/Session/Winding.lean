import Dialback.Proofs.Session.Punctual

/-!
From the beginning of a drain to the outcome, on time. The drain waits for the handlers of what has
been read, and for nothing else; so it is over with the last of them, or at its limit, when the jobs
that are left are torn down.
-/
namespace Dialback.Session

variable {α γ θ ρ : Type}

/-- The drain ran out: some job has been torn down. -/
def CutShort (s : Session α γ θ ρ) : Prop :=
  .ended .aborted ∈ s.jobs.map Job.stage

/-- A drain was over at this time: at its limit if it ran out, and else with the last handler that was
still at work, or at once. -/
structure Concluded (start limit : Nat) (ends : List (Nat × Nat)) (s : Session α γ θ ρ)
    (time : Nat) : Prop where
  begun : start ≤ time
  inTime : time ≤ limit
  last : ∀ e ∈ ends, e.2 ≤ time
  reached : (s.CutShort ∧ time = limit) ∨
    (¬ s.CutShort ∧ (time = start ∨ ∃ e ∈ ends, e.2 = time))

/-- Where a session may be after it has begun to drain. -/
inductive Winding (cause : Cause) (start limit : Nat) (ends : List (Nat × Nat))
    (s : Session α γ θ ρ) : Prop
  | draining (phase : s.phase = .draining cause limit) (begun : start ≤ s.now)
      (inTime : s.now ≤ limit)
      (attended : s.live ≠ 0 ∨ s.now = start ∨ ∃ e ∈ ends, e.2 = s.now)
  | aborting (phase : s.phase = .aborting cause) (begun : start ≤ s.now) (now : s.now = limit)
      (cut : s.live ≠ 0 ∨ s.CutShort ∨ ∃ e ∈ ends, e.2 = s.now)
  | flushing (phase : s.phase = .flushing cause) (concluded : Concluded start limit ends s s.now)
  | ended (how : WriterEnd) (time : Nat) (phase : s.phase = .ended (outcomeOf cause how) time)
      (kept : s.outbox.writer.isLost = false) (concluded : Concluded start limit ends s time)

/-- What is known of a session on time after it has begun to drain. -/
structure Parting (terms : Terms θ) (cause : Cause) (start limit : Nat) (ends : List (Nat × Nat))
    (s : Session α γ θ ρ) : Prop where
  punctual : Punctual terms ends s
  winding : Winding cause start limit ends s
  /-- Whoever had returned before the limit is not torn down. -/
  torn : ∀ t ∈ s.jobs, t.stage = .ended .aborted → ∀ time, t.answered = some time → limit ≤ time

variable {s s' : Session α γ θ ρ} {terms : Terms θ} {a : Action γ θ ρ} {ends : List (Nat × Nat)}
  {cause : Cause} {start limit : Nat} {l : Log γ θ ρ}

/-! The outcome. -/

/-- Whatever the writer does, a graceful end has one outcome. -/
def Cause.graceful (cause : Cause) : Outcome :=
  outcomeOf cause .dropped

theorem Cause.outcome_of_graceful {μ : Type} (graceful : cause.isGraceful = true) (w : Writer μ) :
    cause.outcome? w = some cause.graceful := by
  cases cause with
  | stopped | closed => rfl
  | writerEnded | fault => cases graceful

theorem outcomeOf_graceful (graceful : cause.isGraceful = true) (how : WriterEnd) :
    outcomeOf cause how = cause.graceful := by
  cases cause with
  | stopped | closed => rfl
  | writerEnded | fault => cases graceful

theorem Winding.outlook (winding : Winding cause start limit ends s)
    (graceful : cause.isGraceful = true) : s.outlook? = some cause.graceful := by
  cases winding with
  | draining phase | aborting phase | flushing phase =>
    simp [outlook?, phase, Cause.outcome_of_graceful graceful]
  | ended how time phase => simp [outlook?, phase, outcomeOf_graceful graceful]

/-! What the phase tells. -/

theorem Winding.of_draining (winding : Winding cause start limit ends s) {cause' : Cause}
    {limit' : Nat} (phase : s.phase = .draining cause' limit') :
    (cause' = cause ∧ limit' = limit) ∧ start ≤ s.now ∧ s.now ≤ limit ∧
      (s.live ≠ 0 ∨ s.now = start ∨ ∃ e ∈ ends, e.2 = s.now) := by
  cases winding with
  | draining here begun inTime attended =>
    rw [phase, Phase.draining.injEq] at here
    exact ⟨here, begun, inTime, attended⟩
  | aborting here | flushing here | ended _ _ here =>
    rw [phase] at here
    cases here

theorem Winding.aborts (winding : Winding cause start limit ends s)
    (aborting : s.phase.isAborting = true) : s.phase = .aborting cause := by
  cases winding with
  | aborting here => exact here
  | draining here | flushing here | ended _ _ here => simp [here, Phase.isAborting] at aborting

theorem Winding.of_aborting (winding : Winding cause start limit ends s) {cause' : Cause}
    (phase : s.phase = .aborting cause') :
    cause' = cause ∧ start ≤ s.now ∧ s.now = limit ∧
      (s.live ≠ 0 ∨ s.CutShort ∨ ∃ e ∈ ends, e.2 = s.now) := by
  cases winding with
  | aborting here begun now cut =>
    rw [phase, Phase.aborting.injEq] at here
    exact ⟨here, begun, now, cut⟩
  | draining here | flushing here | ended _ _ here =>
    rw [phase] at here
    cases here

theorem Winding.of_flushing (winding : Winding cause start limit ends s) {cause' : Cause}
    (phase : s.phase = .flushing cause') :
    cause' = cause ∧ Concluded start limit ends s s.now := by
  cases winding with
  | flushing here concluded =>
    rw [phase, Phase.flushing.injEq] at here
    exact ⟨here, concluded⟩
  | draining here | aborting here | ended _ _ here =>
    rw [phase] at here
    cases here

theorem Winding.of_ended (winding : Winding cause start limit ends s) {outcome : Outcome}
    {time : Nat} (phase : s.phase = .ended outcome time) :
    s.outbox.writer.isLost = false ∧ Concluded start limit ends s time := by
  cases winding with
  | ended how time' here kept concluded =>
    rw [phase, Phase.ended.injEq] at here
    exact ⟨kept, here.2 ▸ concluded⟩
  | draining here | aborting here | flushing here =>
    rw [phase] at here
    cases here

/-- When time passes, the session drains and a handler is at work. -/
theorem Winding.waits (winding : Winding cause start limit ends s) (steady : Steady terms s)
    (lasts : s.phase.isEnded = false) (quiet : s.isQuiet terms = true)
    (idle : s.outbox.writer.isBusy = false) :
    s.phase = .draining cause limit ∧ s.allJoined = false ∧ s.hasUnnoticed = false ∧
      s.now < limit := by
  cases winding with
  | draining phase =>
    rcases steady.drains phase with hasMove | waits
    · exact absurd quiet hasMove.not_quiet
    · exact ⟨phase, waits⟩
  | aborting phase => exact absurd quiet (steady.aborts phase).not_quiet
  | flushing phase =>
    rcases steady.flushes phase with hasMove | busy
    · exact absurd quiet hasMove.not_quiet
    · rw [idle] at busy
      cases busy
  | ended how time phase => simp [phase, Phase.isEnded] at lasts

/-! Steps. -/

theorem live_of_stages (stages : s'.jobs.map Job.stage = s.jobs.map Job.stage) :
    s'.live = s.live := by
  have same := congrArg (List.map Stage.isEnded) stages
  rw [List.map_map, List.map_map] at same
  exact live_same same

theorem Concluded.keep {time : Nat} (concluded : Concluded start limit ends s time)
    (stages : s'.jobs.map Job.stage = s.jobs.map Job.stage) :
    Concluded start limit ends s' time where
  begun := concluded.begun
  inTime := concluded.inTime
  last := concluded.last
  reached := by
    unfold CutShort
    rw [stages]
    exact concluded.reached

/-- Neither the jobs nor the clock nor the phase change. -/
private theorem Winding.keep (winding : Winding cause start limit ends s)
    (stages : s'.jobs.map Job.stage = s.jobs.map Job.stage) (now : s'.now = s.now)
    (phase : s'.phase = s.phase)
    (writer : s.phase.isEnded = true → s'.outbox.writer = s.outbox.writer) :
    Winding cause start limit ends s' := by
  cases winding with
  | draining here begun inTime attended =>
    apply Winding.draining (phase.trans here)
    · rwa [now]
    · rwa [now]
    · rwa [now, live_of_stages stages]
  | aborting here begun limited cut =>
    apply Winding.aborting (phase.trans here)
    · rwa [now]
    · rwa [now]
    · unfold CutShort
      rwa [stages, live_of_stages stages, now]
  | flushing here concluded =>
    apply Winding.flushing (phase.trans here)
    rw [now]
    exact concluded.keep stages
  | ended how time here kept concluded =>
    refine .ended how time (phase.trans here) ?_ (concluded.keep stages)
    rwa [writer (by rw [here]; rfl)]

/-- A job has taken a step, and has not ended. -/
private theorem Winding.progress (winding : Winding cause start limit ends s)
    {ends' : List (Nat × Nat)} {i : Nat} {t' : Job θ} (isOpen : s.phase.isClosed = false)
    (job : s'.jobs[i]? = some t') (lasts : t'.hasEnded = false) (now : s'.now = s.now)
    (phase : s'.phase = s.phase) : Winding cause start limit ends' s' := by
  have live : s'.live ≠ 0 := Nat.ne_of_gt (live_pos job lasts)
  cases winding with
  | draining here begun inTime =>
    exact .draining (phase.trans here) (now ▸ begun) (now ▸ inTime) (Or.inl live)
  | aborting here begun limited =>
    exact .aborting (phase.trans here) (now ▸ begun) (now.trans limited) (Or.inl live)
  | flushing here | ended how time here => simp [here, Phase.isClosed] at isOpen

/-- A job has ended, and its handler just now. -/
private theorem Winding.leave (winding : Winding cause start limit ends s)
    {ends' : List (Nat × Nat)} {i : Nat} (isOpen : s.phase.isClosed = false)
    (noted : (i, s.now) ∈ ends') (now : s'.now = s.now) (phase : s'.phase = s.phase) :
    Winding cause start limit ends' s' := by
  have last : ∃ e ∈ ends', e.2 = s'.now := ⟨_, noted, now.symm⟩
  cases winding with
  | draining here begun inTime =>
    exact .draining (phase.trans here) (now ▸ begun) (now ▸ inTime) (Or.inr (Or.inr last))
  | aborting here begun limited =>
    exact .aborting (phase.trans here) (now ▸ begun) (now.trans limited) (Or.inr (Or.inr last))
  | flushing here | ended how time here => simp [here, Phase.isClosed] at isOpen

/-- Nobody is torn down while the session drains. -/
theorem Chained.uncut (chained : Chained terms s) (phase : s.phase = .draining cause limit) :
    ¬ s.CutShort := by
  intro cut
  obtain ⟨t, member, torn⟩ := List.mem_map.mp cut
  obtain ⟨i, job⟩ := List.mem_iff_getElem?.mp member
  have late := chained.aborted i t job torn
  simp [phase, Phase.isAborting, Phase.isClosed] at late

private theorem getElem?_set_own {i : Nat} {t : Job θ} {jobs : List (Job θ)}
    (job : jobs[i]? = some t) (t' : Job θ) : (jobs.set i t')[i]? = some t' := by
  simp [(List.getElem?_eq_some_iff.mp job).1]

private theorem Winding.control (parting : Parting terms cause start limit ends s)
    (graceful : cause.isGraceful = true) (swift : Swift terms s a)
    (control : Control terms s a s') : Winding cause start limit ends s' := by
  have winding := parting.winding
  have outlook := winding.outlook graceful
  cases control with
  | stop | cancel => exact winding.keep rfl rfl rfl fun _ => rfl
  | introduced phase | serve payload phase | heedStop limit phase | heedWriter limit phase
  | giveUpServicing limit d phase | overrun limit x rest phase =>
    simp [outlook?, phase] at outlook
  | elapse time later =>
    obtain ⟨quiet, bound, idle⟩ := swift.waits time rfl
    cases lasts : s.phase.isEnded with
    | true =>
      cases winding with
      | draining phase | aborting phase | flushing phase => simp [phase, Phase.isEnded] at lasts
      | ended how finished phase kept concluded =>
        exact .ended how finished phase kept (concluded.keep rfl)
    | false =>
      obtain ⟨phase, unfinished, noticed, _⟩ :=
        winding.waits parting.punctual.steady lasts quiet idle
      obtain ⟨i, t, job, live⟩ := live_job unfinished noticed
      obtain ⟨_, begun, _, _⟩ := winding.of_draining phase
      refine .draining phase ?_ ?_ (Or.inl ?_)
      · exact Nat.le_trans begun (Nat.le_of_lt later)
      · exact bound limit (by rw [phase]; rfl)
      · exact Nat.ne_of_gt (live_pos (s := s) job live)
  | drainOver cause' limit' phase unfinished noticed late =>
    obtain ⟨i, t, job, live⟩ := live_job unfinished noticed
    obtain ⟨⟨rfl, rfl⟩, begun, inTime, _⟩ := winding.of_draining phase
    refine .aborting rfl begun (Nat.le_antisymm inTime late) (Or.inl ?_)
    exact Nat.ne_of_gt (live_pos (s := s) job live)

theorem Winding.step (parting : Parting terms cause start limit ends s)
    (graceful : cause.isGraceful = true) (swift : Swift terms s a)
    (effect : Effect terms s a s') : Winding cause start limit (noteEnd ends s a) s' := by
  have winding := parting.winding
  have tended := parting.punctual.steady.tended
  have timed := parting.punctual.timed
  have outlook := winding.outlook graceful
  cases effect with
  | control control =>
    rw [control.noteEnd]
    exact .control parting graceful swift control
  | finish outcome finished =>
    rw [finished.noteEnd]
    cases finished with
    | introductionFailed fault phase | cancelConnect limit phase | giveUpConnecting limit phase =>
      simp [outlook?, phase] at outlook
    | aborted fault phase =>
      obtain ⟨rfl, _⟩ := winding.of_aborting phase
      cases graceful
    | settle cause' how phase finished =>
      obtain ⟨rfl, concluded⟩ := winding.of_flushing phase
      have gone : s.outbox.writer.hasEnded = true := by simp [Writer.hasEnded, finished]
      have kept : s.outbox.writer.isLost = false := by
        by_contra lost
        have ended := parting.punctual.unlost (by simpa using lost)
        simp [phase, Phase.isEnded] at ended
      refine .ended how s.now rfl ?_ (concluded.keep rfl)
      change s.outbox.dropped.writer.isLost = false
      rwa [Outbox.dropped, if_pos gone]
  | arrive => exact winding.keep rfl rfl rfl fun _ => rfl
  | accept limit payload rest phase | dismiss limit x rest outcome phase =>
    simp [outlook?, phase] at outlook
  | ignore x rest reading | hangUp x rest cause' reading | ping rest outbox reading
  | pingRefused rest reading | dispatch request rest outbox reading =>
    obtain ⟨limit, phase⟩ := reading.serving
    simp [outlook?, phase] at outlook
  | join i t job => exact winding.keep (map_set_same Job.stage job rfl) rfl rfl fun _ => rfl
  | joinPanicked i t limit job unnoticed phase => simp [outlook?, phase] at outlook
  | flush cause' outbox flushes =>
    rw [flushes.noteEnd]
    obtain ⟨_, _, sound⟩ := parting.punctual.orderly.sound
    have last : ∀ e ∈ ends, e.2 ≤ s.now := fun e member => (timed.inside e member).2
    cases flushes with
    | drained _ limit' phase joined =>
      have none := tended.live_of_joined joined
      obtain ⟨⟨rfl, rfl⟩, begun, inTime, attended⟩ := winding.of_draining phase
      refine .flushing rfl ⟨begun, inTime, last, Or.inr ⟨sound.chained.uncut phase, ?_⟩⟩
      exact attended.resolve_left fun some => some none
    | aborted _ phase reported joined =>
      have none := tended.live_of_joined joined
      obtain ⟨rfl, begun, now, cut⟩ := winding.of_aborting phase
      have late := cut.resolve_left fun some => some none
      refine .flushing rfl ⟨begun, Nat.le_of_eq now, last, ?_⟩
      by_cases short : s.CutShort
      · exact Or.inl ⟨short, now⟩
      · exact Or.inr ⟨short, Or.inr (late.resolve_left short)⟩
  | ask i t job waiting =>
    have lasts : t.hasEnded = false := Job.hasEnded_of_stage waiting
    exact winding.progress (tended.open_of_live job lasts) (getElem?_set_own job _) rfl rfl rfl
  | start i t permits job inLine =>
    have lasts : t.hasEnded = false := Job.hasEnded_of_stage inLine
    exact winding.progress (tended.open_of_live job lasts) (getElem?_set_own job _) rfl rfl rfl
  | answer i t response outbox job running =>
    have lasts : t.hasEnded = false := Job.hasEnded_of_stage running
    exact winding.progress (tended.open_of_live job lasts) (getElem?_set_own job _) rfl rfl rfl
  | place i t placed outbox job offering =>
    have lasts : t.hasEnded = false := Job.hasEnded_of_stage offering
    have told := timed.told i t job
    rw [offering, timed.fresh t (List.mem_of_getElem? job) offering] at told
    exact winding.leave (tended.open_of_live job lasts) ((told.of_answered.2 s.now).mpr rfl) rfl rfl
  | endJob i t how outbox job finished =>
    have lasts := finished.lasts
    cases finished with
    | refuse offering gone =>
      rw [(parting.punctual.writer_lasts job lasts).1] at gone
      cases gone
    | panic running =>
      exact winding.leave (tended.open_of_live job lasts)
        (List.mem_append_right _ (List.mem_singleton.mpr rfl)) rfl rfl
    | abort aborting =>
      have phase := winding.aborts aborting
      obtain ⟨_, begun, now, _⟩ := winding.of_aborting phase
      refine .aborting phase begun now (Or.inr (Or.inl ?_))
      exact List.mem_of_getElem? (stage_known (getElem?_set_own job _))
  | sink b outbox sunk work =>
    rw [sunk.noteEnd]
    refine winding.keep rfl rfl rfl fun finished => ?_
    have gone := tended.ended finished
    rw [work.unended] at gone
    cases gone

/-- A job that is torn down had not returned before the limit. -/
theorem Parting.torn_step (parting : Parting terms cause start limit ends s)
    (effect : Effect terms s a s') :
    ∀ t ∈ s'.jobs, t.stage = .ended .aborted → ∀ time, t.answered = some time → limit ≤ time := by
  have known := parting.torn
  have set : ∀ {i : Nat} {t' : Job θ}, (t'.stage = .ended .aborted →
      ∀ time, t'.answered = some time → limit ≤ time) → ∀ t ∈ s.jobs.set i t',
      t.stage = .ended .aborted → ∀ time, t.answered = some time → limit ≤ time := by
    intro i t' own t member
    rcases List.mem_or_eq_of_mem_set member with before | rfl
    · exact known t before
    · exact own
  cases effect with
  | control control => cases control <;> exact known
  | finish | arrive | accept | dismiss | ignore | hangUp | ping | pingRefused | flush | sink =>
    exact known
  | dispatch request rest outbox =>
    intro t member torn
    rcases List.mem_append.mp member with before | new
    · exact known t before torn
    · rw [List.mem_singleton.mp new] at torn
      cases torn
  | join i t job => exact set (known t (List.mem_of_getElem? job))
  | joinPanicked i t limit job => exact set (known t (List.mem_of_getElem? job))
  | ask | start | answer | place => exact set fun torn => by cases torn
  | endJob i t how outbox job finished =>
    apply set
    intro torn time answered
    cases finished with
    | refuse | panic => cases torn
    | abort aborting live =>
      obtain ⟨_, _, now, _⟩ := parting.winding.of_aborting (parting.winding.aborts aborting)
      have told := parting.punctual.timed.told i t job
      change t.answered = some time at answered
      rw [answered] at told
      rcases told.of_answered.1 with offering | queued | aborted
      · have fresh := parting.punctual.timed.fresh t (List.mem_of_getElem? job) offering
        rw [answered, Option.some.injEq] at fresh
        omega
      · simp [Job.hasEnded, Stage.isEnded, queued] at live
      · simp [Job.hasEnded, Stage.isEnded, aborted] at live

theorem Parting.step (parting : Parting terms cause start limit ends s)
    (graceful : cause.isGraceful = true) (swift : Swift terms s a)
    (effect : Effect terms s a s') : Parting terms cause start limit (noteEnd ends s a) s' where
  punctual := parting.punctual.step swift effect
  winding := .step parting graceful swift effect
  torn := parting.torn_step effect

theorem Parting.run (parting : Parting terms cause start limit ends s)
    (graceful : cause.isGraceful = true) {actions : List (Action γ θ ρ)}
    (ran : s.runSwiftly terms actions = some s') :
    Parting terms cause start limit
      (Runs.noted (fun s a => s.act terms a) noteEnd ends s actions) s' :=
  swift_induction (fun _ _ _ _ parting swift effect => parting.step graceful swift effect)
    parting ran

/-! The loop is left. -/

/-- Why and how a session begins to drain. -/
theorem Effect.drains (effect : Effect terms s a s') (serving : s.phase.isServicing = true)
    (phase : s'.phase = .draining cause limit) :
    s'.now = s.now ∧ limit = s.now + terms.settings.drainTimeoutMs.toNat ∧
      (cause = .stopped ∧ s.stop.isSome = true ∧ (l.note s a).read = l.read ∨
        cause = .closed ∧ s.inbox.head? = some .eof ∧ (l.note s a).read = l.read ++ [.eof]) := by
  obtain ⟨silent, here⟩ := Phase.servicing_of_isServicing serving
  have undrained : s.phase ≠ .draining cause limit := by simp [here]
  have serves : ∀ now, (servingPhase now terms : Phase γ) ≠ .draining cause limit := by
    intro now
    rcases servingPhase_cases (γ := γ) now terms with ⟨limit', same⟩ | same <;> simp [same]
  cases effect with
  | control control =>
    cases control with
    | stop | cancel | elapse => exact absurd phase undrained
    | heedStop limit' _ stopped =>
      cases phase
      exact ⟨rfl, rfl, Or.inl ⟨rfl, stopped, rfl⟩⟩
    | introduced | overrun | drainOver => cases phase
    | serve => exact absurd phase (serves _)
    | heedWriter | giveUpServicing => simp [leavingPhase, Cause.isGraceful] at phase
  | finish | accept | dismiss | flush => cases phase
  | arrive | join | ask | start | answer | place | endJob | sink => exact absurd phase undrained
  | ignore | ping | dispatch => exact absurd phase (serves _)
  | hangUp x rest cause' reading ends =>
    have note := reading.note (l := l)
    cases x with
    | eof =>
      cases ends
      cases phase
      exact ⟨rfl, rfl, Or.inr ⟨rfl, by rw [reading.inbox]; rfl, by rw [note]⟩⟩
    | fault reason =>
      cases ends
      simp [leavingPhase, Cause.isGraceful] at phase
    | message | unclassified => cases ends
  | pingRefused | joinPanicked => simp [leavingPhase, Cause.isGraceful] at phase

/-- Nothing is read any more once the outcome is settled. -/
theorem Effect.read_eq {outcome : Outcome} (effect : Effect terms s a s')
    (settled : s.outlook? = some outcome) : (l.note s a).read = l.read := by
  cases effect with
  | control control => rw [control.note]
  | finish o finished => rw [finished.note]
  | accept limit payload rest phase | dismiss limit x rest o phase =>
    simp [outlook?, phase] at settled
  | ignore x rest reading | hangUp x rest cause' reading | ping rest outbox reading
  | pingRefused rest reading | dispatch request rest outbox reading =>
    obtain ⟨limit, phase⟩ := reading.serving
    simp [outlook?, phase] at settled
  | flush cause' outbox flushes => rw [flushes.note]
  | endJob i t how outbox job finished => rw [finished.note]
  | sink b outbox sunk => rw [sunk.note]
  | _ => rfl

theorem noted_read {outcome : Outcome} (settled : s.outlook? = some outcome)
    {actions : List (Action γ θ ρ)} (ran : s.run terms actions = some s') :
    (Runs.noted (fun s a => s.act terms a) Log.note l s actions).read = l.read := by
  induction actions generalizing l s with
  | nil => rfl
  | cons a rest ih =>
    obtain ⟨next, acted, ran⟩ := Runs.foldlM_cons.mp ran
    have effect := Effect.of_act acted
    simp only [Runs.noted, acted]
    rw [ih (effect.outlook settled) ran, effect.read_eq settled]

/-- From the moment at which servicing ends gracefully. -/
theorem Punctual.parts (punctual : Punctual terms ends s) (serving : s.phase.isServicing = true)
    (swift : Swift terms s a) (effect : Effect terms s a s')
    (phase : s'.phase = .draining cause limit) :
    Parting terms cause s.now limit (noteEnd ends s a) s' := by
  obtain ⟨now, limited, _⟩ := effect.drains (l := {}) serving phase
  have punctual' := punctual.step swift effect
  obtain ⟨_, _, sound⟩ := punctual'.orderly.sound
  refine ⟨punctual', .draining phase ?_ ?_ (Or.inr (Or.inl now)), fun t member torn => ?_⟩
  · exact Nat.le_of_eq now.symm
  · omega
  · exact absurd (List.mem_map.mpr ⟨t, member, torn⟩) (sound.chained.uncut phase)

/-! The end comes in time. -/

theorem Parting.ends_le (parting : Parting terms cause start limit ends s) :
    ∀ e ∈ ends, e.2 ≤ limit := by
  intro e member
  have early := (parting.punctual.timed.inside e member).2
  cases parting.winding with
  | draining phase begun inTime => exact Nat.le_trans early inTime
  | aborting phase begun now => exact Nat.le_trans early (Nat.le_of_eq now)
  | flushing phase concluded | ended how time phase kept concluded =>
    exact Nat.le_trans (concluded.last e member) concluded.inTime

theorem Parting.now_le (parting : Parting terms cause start limit ends s)
    (lasts : s.phase.isEnded = false) : s.now ≤ limit := by
  cases parting.winding with
  | draining phase begun inTime => exact inTime
  | aborting phase begun now => exact Nat.le_of_eq now
  | flushing phase concluded => exact concluded.inTime
  | ended how time phase => simp [phase, Phase.isEnded] at lasts

/-- An action on time that leaves less to do than before. -/
private theorem swiftly_onward (own : a.isOwn = true) (busy : a.isIdle = false)
    (unread : a ≠ .move .read) (swiftly : s.actSwiftly terms a = s.act terms a)
    (able : (s.act terms a).isSome = true) : ∃ actions s', (∀ b ∈ actions, b.isOwn = true) ∧
      s.runSwiftly terms actions = some s' ∧ s'.remaining < s.remaining := by
  obtain ⟨s', acted⟩ := Option.isSome_iff_exists.mp able
  refine ⟨[a], s', by simpa using own, ?_, (Effect.of_act acted).remaining_lt busy unread⟩
  exact Runs.foldlM_cons.mpr ⟨s', swiftly.trans acted, rfl⟩

/-- Until the session is over it can go on by itself, and on time. -/
theorem Parting.goes_on (parting : Parting terms cause start limit ends s)
    (graceful : cause.isGraceful = true) :
    (∃ time, s.phase = .ended cause.graceful time) ∨ ∃ actions s',
      (∀ b ∈ actions, b.isOwn = true) ∧ s.runSwiftly terms actions = some s' ∧
        s'.remaining < s.remaining := by
  have outlook := parting.winding.outlook graceful
  cases lasts : s.phase.isEnded with
  | true =>
    left
    cases phase : s.phase with
    | ended outcome time =>
      have same : outcome = cause.graceful := by simpa [outlook?, phase] using outlook
      exact ⟨time, by rw [same]⟩
    | introducing | connecting | accepted | servicing | draining | aborting | flushing
    | unserviceable => simp [phase, Phase.isEnded] at lasts
  | false =>
    right
    cases idle : s.outbox.writer.isBusy with
    | true =>
      rcases accept_isSome idle with able | able
      · exact swiftly_onward rfl rfl (by simp) rfl able
      · exact swiftly_onward rfl rfl (by simp) rfl able
    | false =>
      cases quiet : s.isQuiet terms with
      | false =>
        obtain ⟨m, _, able⟩ := List.all_eq_false.mp quiet
        have able : (s.act terms (.move m)).isSome = true := by
          simpa [act, Option.isSome_iff_ne_none] using able
        refine swiftly_onward rfl rfl ?_ rfl able
        rintro ⟨⟩
        obtain ⟨_, acted⟩ := Option.isSome_iff_exists.mp able
        obtain ⟨x, rest, reading⟩ := (Effect.of_act acted).reading
        obtain ⟨silent, phase⟩ := reading.serving
        simp [outlook?, phase] at outlook
      | true =>
        -- a handler is at work: the drain runs out
        obtain ⟨phase, unfinished, noticed, early⟩ :=
          parting.winding.waits parting.punctual.steady lasts quiet idle
        have passed : s.actSwiftly terms (.event (.elapse limit)) =
            some { s with now := limit } := by
          simp [actSwiftly, actPromptly, mayWait, act, receive, idle, quiet, phase, Phase.limit?,
            early]
        have able : (act { s with now := limit } terms (.move .drainOver)).isSome = true :=
          drainOver_isSome phase unfinished noticed (Nat.le_refl limit)
        obtain ⟨actions, s', own, ran, less⟩ := swiftly_onward rfl rfl (by simp) rfl able
        exact ⟨.event (.elapse limit) :: actions, s', List.forall_mem_cons.mpr ⟨rfl, own⟩,
          Runs.foldlM_cons.mpr ⟨_, passed, ran⟩, less⟩

theorem Parting.returns (parting : Parting terms cause start limit ends s)
    (graceful : cause.isGraceful = true) : ∃ rest s' time, (∀ b ∈ rest, b.isOwn = true) ∧
      s.runSwiftly terms rest = some s' ∧ s'.phase = .ended cause.graceful time := by
  have kept : ∀ (s : Session α γ θ ρ) (actions : List (Action γ θ ρ)) s',
      (∃ ends, Parting terms cause start limit ends s) → (∀ b ∈ actions, b.isOwn = true) →
      s.runSwiftly terms actions = some s' → ∃ ends, Parting terms cause start limit ends s' :=
    fun s actions s' known _ ran => ⟨_, known.choose_spec.run graceful ran⟩
  obtain ⟨rest, s', own, ran, time, ended⟩ :=
    Runs.reaches remaining (fun b : Action γ θ ρ => b.isOwn = true) kept
      (fun s known => known.choose_spec.goes_on graceful) ⟨ends, parting⟩
  exact ⟨rest, s', time, own, ran, ended⟩

end Dialback.Session
