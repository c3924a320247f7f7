import Dialback.Proofs.Session.Invariant

/-!
Runs in which no write fails, no handler panics and draining is never cut short. Unless the session
fails for another reason, every job then ends by queueing its response, and the writer is not lost.
-/
namespace Dialback.Session

variable {α γ θ ρ : Type}

/-- Closing the sink may still fail, when everything has been written. -/
def Action.isSmooth : Action γ θ ρ → Bool
  | .event (.writeFailed _) | .event .writerCrashed | .event (.panic _) | .move .drainOver => false
  | _ => true

/-- The session has failed, or is bound to when its jobs or its writer are gone. -/
def Phase.isFailing : Phase γ → Bool
  | aborting _ | ended (.failed _) _ | unserviceable => true
  | flushing cause => !cause.isGraceful
  | _ => false

structure Smooth (l : Log γ θ ρ) (s : Session α γ θ ρ) : Prop where
  aborting : ∀ cause, s.phase = .aborting cause → cause.isGraceful = false
  jobs : ∀ t ∈ s.jobs, t.hasEnded = true → t.stage = .ended .queued ∨ s.phase.isFailing = true
  writer : s.outbox.writer.isLost = true →
    s.phase.isFailing = true ∨ s.phase.isEnded = true ∧ ¬ l.IsConnected

variable {l : Log γ θ ρ} {s s' : Session α γ θ ρ} {terms : Terms θ} {a : Action γ θ ρ}
  {arguments : ConnectArguments α}

theorem Smooth.opened (settings : CallSettings) (openedAt : Nat) (arguments : ConnectArguments α) :
    Smooth {} (Session.opened settings openedAt arguments : Session α γ θ ρ) where
  aborting cause phase := by simp [Session.opened] at phase
  jobs t member := by simp [Session.opened] at member
  writer lost := by simp [Session.opened, Writer.isLost] at lost

/-- The session goes on; nothing has gone wrong so far. -/
private theorem Smooth.clean (smooth : Smooth l s) (working : s.phase.isFailing = false)
    (lasts : s.phase.isEnded = false) :
    (∀ t ∈ s.jobs, t.hasEnded = true → t.stage = .ended .queued) ∧
      s.outbox.writer.isLost = false := by
  constructor
  · intro t member ended
    rcases smooth.jobs t member ended with queued | failing
    · exact queued
    · rw [working] at failing
      cases failing
  · by_contra lost
    rcases smooth.writer (by simpa using lost) with failing | ⟨finished, _⟩
    · rw [working] at failing
      cases failing
    · rw [lasts] at finished
      cases finished

/-- A step out of a phase in which nothing has gone wrong, without harm to jobs or writer. -/
private theorem Smooth.unharmed {l' : Log γ θ ρ} (smooth : Smooth l s)
    (working : s.phase.isFailing = false) (lasts : s.phase.isEnded = false)
    (jobs : ∀ t ∈ s'.jobs, t.hasEnded = true → ∃ u ∈ s.jobs, u.stage = t.stage)
    (writer : s'.outbox.writer = s.outbox.writer)
    (aborting : ∀ cause, s'.phase = .aborting cause → cause.isGraceful = false) :
    Smooth l' s' where
  aborting := aborting
  jobs t member ended := by
    obtain ⟨u, known, same⟩ := jobs t member ended
    have before : u.hasEnded = true := by
      unfold Job.hasEnded
      rw [same]
      exact ended
    exact Or.inl (by rw [← same, (smooth.clean working lasts).1 u known before])
  writer lost := by
    rw [writer, (smooth.clean working lasts).2] at lost
    cases lost

/-- A step within a phase. -/
private theorem Smooth.within {l' : Log γ θ ρ} (smooth : Smooth l s) (phase : s'.phase = s.phase)
    (read : l'.read = l.read)
    (jobs : ∀ t ∈ s'.jobs, t.hasEnded = true →
      t.stage = .ended .queued ∨ s.phase.isFailing = true ∨ ∃ u ∈ s.jobs, u.stage = t.stage)
    (writer : s'.outbox.writer.isLost = true → s.outbox.writer.isLost = true) : Smooth l' s' where
  aborting := by
    rw [phase]
    exact smooth.aborting
  jobs t member ended := by
    rw [phase]
    rcases jobs t member ended with queued | failing | ⟨u, known, same⟩
    · exact Or.inl queued
    · exact Or.inr failing
    · have before : u.hasEnded = true := by
        unfold Job.hasEnded
        rw [same]
        exact ended
      rw [← same]
      exact smooth.jobs u known before
  writer lost := by
    rw [phase, Log.IsConnected, read]
    exact smooth.writer (writer lost)

/-- From here on failing is all that is left. -/
private theorem Smooth.of_failing {l' : Log γ θ ρ} (failing : s'.phase.isFailing = true)
    (aborting : ∀ cause, s'.phase = .aborting cause → cause.isGraceful = false) : Smooth l' s' where
  aborting := aborting
  jobs _ _ _ := Or.inr failing
  writer _ := Or.inl failing

theorem leavingPhase_aborting (now : Nat) (terms : Terms θ) (cause cause' : Cause)
    (phase : (leavingPhase now terms cause : Phase γ) = .aborting cause') :
    cause'.isGraceful = false := by
  rcases leavingPhase_cases (γ := γ) now terms cause with ⟨_, limit, same⟩ | ⟨hard, same⟩
  · rw [same] at phase
    cases phase
  · rw [same] at phase
    cases phase
    exact hard

theorem servingPhase_aborting {now : Nat} {cause : Cause} :
    (servingPhase now terms : Phase γ) ≠ .aborting cause := by
  rcases servingPhase_cases (γ := γ) now terms with ⟨limit, same⟩ | same <;>
    simp [same]

theorem Phase.isFailing_of_isAborting {phase : Phase γ} (aborting : phase.isAborting = true) :
    phase.isFailing = true := by
  cases phase with
  | aborting | unserviceable => rfl
  | _ => cases aborting

private theorem outcomeOf_failing {cause : Cause} (hard : cause.isGraceful = false)
    (how : WriterEnd) (time : Nat) :
    (Phase.ended (outcomeOf cause how) time : Phase γ).isFailing = true := by
  cases cause with
  | stopped | closed => cases hard
  | writerEnded => cases how <;> rfl
  | fault fault => rfl

private theorem dismissal_failing {x : Inbound γ θ} {outcome : Outcome}
    (dismissal : dismissal? x = some outcome) (time : Nat) :
    (Phase.ended outcome time : Phase γ).isFailing = true := by
  unfold dismissal? at dismissal
  split at dismissal <;> cases dismissal <;> rfl

/-- Jobs keep their stages, a new one is not finished. -/
private theorem stages_set {jobs : List (Job θ)} {i : Nat} {t : Job θ} (job : jobs[i]? = some t)
    (t' : Job θ) (own : t'.hasEnded = true → t'.stage = t.stage) :
    ∀ u ∈ jobs.set i t', u.hasEnded = true → ∃ v ∈ jobs, v.stage = u.stage := by
  intro u member ended
  rcases List.mem_or_eq_of_mem_set member with known | rfl
  · exact ⟨u, known, rfl⟩
  · exact ⟨t, List.mem_of_getElem? job, (own ended).symm⟩

/-- A job takes a step that does not end it. -/
private theorem Smooth.progress {l' : Log γ θ ρ} (smooth : Smooth l s) {i : Nat} {t t' : Job θ}
    (job : s.jobs[i]? = some t) (jobs : s'.jobs = s.jobs.set i t')
    (own : t'.hasEnded = true → t'.stage = t.stage) (phase : s'.phase = s.phase)
    (read : l'.read = l.read) (writer : s'.outbox.writer = s.outbox.writer) : Smooth l' s' := by
  refine smooth.within phase read ?_ fun lost => by rwa [writer] at lost
  intro u member ended
  rw [jobs] at member
  exact Or.inr (Or.inr (stages_set job t' own u member ended))

private theorem Smooth.control (smooth : Smooth l s) (allowed : a.isSmooth = true)
    (control : Control terms s a s') : Smooth (l.note s a) s' := by
  have same : ∀ t ∈ s.jobs, t.hasEnded = true → ∃ u ∈ s.jobs, u.stage = t.stage :=
    fun t member _ => ⟨t, member, rfl⟩
  rw [control.note]
  cases control with
  | stop | cancel | elapse =>
    exact smooth.within rfl rfl (fun t member ended => Or.inr (Or.inr (same t member ended)))
      fun lost => lost
  | introduced phase =>
    refine smooth.unharmed (by rw [phase]; rfl) (by rw [phase]; rfl) same rfl fun cause next => ?_
    cases next
  | serve payload phase =>
    exact smooth.unharmed (by rw [phase]; rfl) (by rw [phase]; rfl) same rfl
      fun cause next => absurd next servingPhase_aborting
  | heedStop limit phase =>
    exact smooth.unharmed (by rw [phase]; rfl) (by rw [phase]; rfl) same rfl
      (leavingPhase_aborting s.now terms .stopped)
  | heedWriter limit phase =>
    exact smooth.unharmed (by rw [phase]; rfl) (by rw [phase]; rfl) same rfl
      (leavingPhase_aborting s.now terms .writerEnded)
  | giveUpServicing limit d phase =>
    exact smooth.unharmed (by rw [phase]; rfl) (by rw [phase]; rfl) same rfl
      (leavingPhase_aborting s.now terms (.fault (.silent d)))
  | overrun => exact Smooth.of_failing rfl fun cause next => by cases next
  | drainOver => cases allowed

private theorem Reading.working {x : Inbound γ θ} {rest : List (Inbound γ θ)}
    (reading : Reading s x rest) : s.phase.isFailing = false ∧ s.phase.isEnded = false := by
  obtain ⟨limit, phase⟩ := reading.serving
  simp [phase, Phase.isFailing, Phase.isEnded]

/-- A response is refused only by a writer that is lost. -/
private theorem Smooth.failing_of_refusal (sound : Sound terms arguments l s) (smooth : Smooth l s)
    {i : Nat} {t : Job θ} (job : s.jobs[i]? = some t) (offering : t.stage = .offering)
    (gone : s.outbox.writer.hasEnded = true) : s.phase.isFailing = true := by
  have lasts : t.hasEnded = false := Job.hasEnded_of_stage offering
  rcases Writer.lost_or_shutting gone with lost | shutting
  · rcases smooth.writer lost with failing | ⟨finished, _⟩
    · exact failing
    · have isOpen := sound.tended.open_of_live job lasts
      rw [Phase.isClosed_of_isEnded finished] at isOpen
      cases isOpen
  · rw [sound.tended.working_of_live job lasts] at shutting
    cases shutting

private theorem Sinks.keeps {b : Outbox.Action (ClientMessage α ρ)}
    {outbox : Outbox (ClientMessage α ρ)} (sunk : Sinks s.now a b) (allowed : a.isSmooth = true)
    (work : s.outbox.Work b outbox) (lost : outbox.writer.isLost = true) :
    s.outbox.writer.isLost = true := by
  cases work with
  | pickPong | pickMessage | shut | wrote => cases lost
  | broke b how m since writing broken =>
    cases broken with
    | writeFailed =>
      cases sunk
      cases allowed
    | crashed =>
      cases sunk
      cases allowed
  | closed b how closing closed => cases closed <;> cases lost

theorem Smooth.step (sound : Sound terms arguments l s) (smooth : Smooth l s)
    (allowed : a.isSmooth = true) (effect : Effect terms s a s') : Smooth (l.note s a) s' := by
  have same : ∀ t ∈ s.jobs, t.hasEnded = true → ∃ u ∈ s.jobs, u.stage = t.stage :=
    fun t member _ => ⟨t, member, rfl⟩
  have same' : ∀ t ∈ s.jobs, t.hasEnded = true → t.stage = .ended .queued ∨
      s.phase.isFailing = true ∨ ∃ u ∈ s.jobs, u.stage = t.stage :=
    fun t member ended => Or.inr (Or.inr (same t member ended))
  cases effect with
  | control control => exact smooth.control allowed control
  | finish outcome ends =>
    cases ends with
    | introductionFailed | giveUpConnecting | aborted =>
      exact Smooth.of_failing rfl fun cause next => by cases next
    | cancelConnect limit phase =>
      have early : s.phase.isEarly = true := by rw [phase]; rfl
      have jobs := sound.heard.no_jobs early
      have read := sound.heard.early early
      refine ⟨?_, ?_, fun _ => Or.inr ⟨rfl, ?_⟩⟩
      · intro cause next
        cases next
      · intro t member
        rw [jobs] at member
        cases member
      · rintro ⟨payload, rest, connected⟩
        exact absurd (read.symm.trans connected) (by simp)
    | settle cause how phase ended =>
      cases hard : cause.isGraceful with
      | false =>
        exact Smooth.of_failing (outcomeOf_failing hard how s.now) fun cause next => by cases next
      | true =>
        have gone : s.outbox.writer.hasEnded = true := by simp [Writer.hasEnded, ended]
        refine smooth.unharmed (by simp [phase, Phase.isFailing, hard]) (by rw [phase]; rfl) same ?_
          fun cause next => by cases next
        change s.outbox.dropped.writer = s.outbox.writer
        rw [Outbox.dropped, if_pos gone]
  | arrive => exact smooth.within rfl rfl same' fun lost => lost
  | accept limit payload rest phase =>
    exact smooth.unharmed (by rw [phase]; rfl) (by rw [phase]; rfl) same rfl
      fun cause next => by cases next
  | dismiss limit x rest outcome phase inbox uncancelled dismissal =>
    exact Smooth.of_failing (dismissal_failing dismissal s.now) fun cause next => by cases next
  | ignore x rest reading =>
    exact smooth.unharmed reading.working.1 reading.working.2 same rfl
      fun cause next => absurd next servingPhase_aborting
  | hangUp x rest cause reading =>
    exact smooth.unharmed reading.working.1 reading.working.2 same rfl
      (leavingPhase_aborting s.now terms _)
  | ping rest outbox reading taken =>
    obtain ⟨_, rfl⟩ := Outbox.step_pong.mp taken
    exact smooth.unharmed reading.working.1 reading.working.2 same rfl
      fun cause next => absurd next servingPhase_aborting
  | pingRefused rest reading =>
    exact smooth.unharmed reading.working.1 reading.working.2 same rfl
      (leavingPhase_aborting s.now terms .writerEnded)
  | dispatch request rest outbox reading retained =>
    obtain ⟨_, rfl⟩ := Outbox.step_retain.mp retained
    refine smooth.unharmed reading.working.1 reading.working.2 ?_ rfl
      fun cause next => absurd next servingPhase_aborting
    intro t member ended
    rcases List.mem_append.mp member with known | new
    · exact ⟨t, known, rfl⟩
    · rw [List.mem_singleton.mp new] at ended
      cases ended
  | join i t job => exact smooth.progress job rfl (fun _ => rfl) rfl rfl rfl
  | joinPanicked i t limit job unnoticed phase =>
    exact smooth.unharmed (by rw [phase]; rfl) (by rw [phase]; rfl) (stages_set job _ fun _ => rfl)
      rfl (leavingPhase_aborting s.now terms (.fault .handlerPanicked))
  | flush cause outbox flushes left =>
    obtain ⟨_, rfl⟩ := Outbox.run_owners_leave.mp left
    cases flushes with
    | drained cause limit phase =>
      exact smooth.unharmed (by rw [phase]; rfl) (by rw [phase]; rfl) same rfl
        fun cause next => by cases next
    | aborted cause phase =>
      refine Smooth.of_failing ?_ fun cause next => by cases next
      change (!cause.isGraceful) = true
      rw [smooth.aborting cause phase]
      rfl
  | ask i t job =>
    exact smooth.progress job rfl (fun finished => by cases finished) rfl rfl rfl
  | start i t permits job =>
    exact smooth.progress job rfl (fun finished => by cases finished) rfl rfl rfl
  | answer i t response outbox job running offered =>
    rw [← Outbox.step_offer offered]
    exact smooth.progress job rfl (fun finished => by cases finished) rfl rfl rfl
  | place i t placed outbox job offering room left =>
    obtain ⟨_, m, _, rfl⟩ := Outbox.step_place.mp room
    obtain ⟨_, rfl⟩ := Outbox.run_sender_leaves.mp left
    refine smooth.within rfl rfl ?_ fun lost => lost
    intro u member ended
    rcases List.mem_or_eq_of_mem_set member with known | rfl
    · exact same' u known ended
    · exact Or.inl rfl
  | endJob i t how outbox job ends left =>
    obtain ⟨_, rfl⟩ := Outbox.run_sender_leaves.mp left
    have failing : s.phase.isFailing = true := by
      cases ends with
      | refuse offering gone => exact smooth.failing_of_refusal sound job offering gone
      | panic => cases allowed
      | abort aborting => exact Phase.isFailing_of_isAborting aborting
    refine smooth.within rfl (by rw [ends.note]) ?_ fun lost => lost
    exact fun u _ _ => Or.inr (Or.inl failing)
  | sink b outbox sunk work =>
    exact smooth.within rfl (by rw [sunk.note]) same' (sunk.keeps allowed work)

theorem Smooth.of_run {settings : CallSettings} {openedAt : Nat}
    {actions : List (Action γ θ ρ)}
    (ran : (Session.opened settings openedAt arguments).run terms actions = some s)
    (allowed : ∀ a ∈ actions, a.isSmooth = true) :
    Smooth ((Session.opened settings openedAt arguments).log terms actions) s := by
  have both := log_induction (fun l s => Sound terms arguments l s ∧ Smooth l s)
    (fun a => a.isSmooth = true)
    (fun _ _ _ _ allowed holds effect =>
      ⟨holds.1.step effect, holds.2.step holds.1 allowed effect⟩)
    ⟨.opened settings openedAt arguments, .opened settings openedAt arguments⟩ allowed ran
  exact both.2

/-- When a connection is over that did not fail, every job has queued its response. -/
theorem Smooth.queued (smooth : Smooth l s) (sound : Sound terms arguments l s)
    (working : s.phase.isFailing = false) (finished : s.phase.isEnded = true) :
    ∀ t ∈ s.jobs, t.stage = .ended .queued := by
  intro t member
  have idle := sound.tended.settled (Phase.isClosed_of_isEnded finished)
  have settled := live_eq_zero.mp idle t member
  rcases smooth.jobs t member settled with queued | failing
  · exact queued
  · rw [working] at failing
    cases failing

/-- When a connection is over that did not fail, everything that was queued has been written. -/
theorem Smooth.flushed (smooth : Smooth l s) (sound : Sound terms arguments l s)
    (working : s.phase.isFailing = false) (finished : s.phase.isEnded = true)
    (connected : l.IsConnected) :
    s.outbox.writer.isLost = false ∧ s.outbox.pongs = [] ∧ s.outbox.queue = [] ∧
      s.outbox.handed = s.outbox.written.map Prod.snd := by
  have kept : s.outbox.writer.isLost = false := by
    by_contra lost
    rcases smooth.writer (by simpa using lost) with failing | ⟨_, unconnected⟩
    · rw [working] at failing
      cases failing
    · exact unconnected connected
  have gone := sound.tended.ended finished
  rcases Writer.lost_or_shutting gone with lost | shutting
  · rw [kept] at lost
    cases lost
  · obtain ⟨pongs, queue⟩ := sound.conveyed.shut shutting
    refine ⟨kept, pongs, queue, ?_⟩
    rw [Outbox.handed, Outbox.underway_of_hasEnded gone, List.append_nil]

end Dialback.Session
