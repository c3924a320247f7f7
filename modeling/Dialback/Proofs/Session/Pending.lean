import Dialback.Proofs.Session.Closing
import Dialback.Proofs.Session.Invariant

/-!
What ends servicing. Six kinds of events do; those that have happened and of which the serving loop
has not taken notice yet are pending. The loop leaves for the first of them in its own order of
preference, however many ends of other jobs and however many messages it has to go through before,
and that settles the outcome. Nothing else ends servicing, except that it panics over a message if
the clock cannot show when the next silence would be too long.
-/
namespace Dialback.Session

variable {α γ θ ρ : Type}

def Phase.isServicing : Phase γ → Bool
  | servicing _ => true
  | _ => false

def Writer.failure? {μ : Type} : Writer μ → Option TransportFault
  | ended (.writeFailed fault) | ended (.closeFailed fault) => some fault
  | _ => none

/-- How the session ends when this is read, if it does. A ping ends it if the writer has gone
without saying so. -/
def Inbound.ending? {μ : Type} (w : Writer μ) : Inbound γ θ → Option Outcome
  | .eof => some .completed
  | .fault reason => some (.failed (.transport reason))
  | .message .ping =>
    if w.reportsFailure then none else w.ending?.map (outcomeOf .writerEnded)
  | _ => none

def Job.alarms (t : Job θ) : Bool :=
  t.unnoticed && decide (t.stage = .ended .panicked)

def alarmed (s : Session α γ θ ρ) : Bool :=
  s.jobs.any Job.alarms

/-- How long nothing has arrived, at this time, if that is too long. -/
def silent? (s : Session α γ θ ρ) (terms : Terms θ) (time : Nat) : Option Duration :=
  match s.phase, s.inbox with
  | .servicing limit, [] => if limit ≤ time then terms.settings.pingTimeout? else none
  | _, _ => none

/-- The outcomes of events that end servicing, in the order in which the loop prefers them. -/
def outcomesOf (stop : Option Nat) (failure : Option TransportFault) (panicked : Bool)
    (inbound : Option Outcome) (silence : Option Duration) : List Outcome :=
  (stop.map fun _ => .cancelled).toList ++
    (failure.map fun fault => .failed (.transport fault)).toList ++
    (if panicked then [.failed .handlerPanicked] else []) ++ inbound.toList ++
    (silence.map fun d => .failed (.silent d)).toList

/-- The outcomes of what has happened: the stop signal, a failed write, a panic, the first of what
has arrived that ends the session, and silence. -/
def pending (s : Session α γ θ ρ) (terms : Terms θ) : List Outcome :=
  outcomesOf s.stop s.outbox.writer.failure? s.alarmed
    (s.inbox.findSome? (Inbound.ending? s.outbox.writer)) (s.silent? terms s.now)

/-- The outcome of which an event is the reason, if it happens while servicing. -/
def raises? (s : Session α γ θ ρ) (terms : Terms θ) : Event γ θ ρ → Option Outcome
  | .stop => some .cancelled
  | .writeFailed fault => some (.failed (.transport fault))
  | .panic _ => some (.failed .handlerPanicked)
  | .arrive x => x.ending? s.outbox.writer
  | .elapse time => (s.silent? terms time).map fun d => .failed (.silent d)
  | .writerCrashed =>
    s.inbox.findSome? (Inbound.ending? (.ended .crashed : Writer (ClientMessage α ρ)))
  | _ => none

/-- What the loop may have to go through before it takes notice of something else. -/
def ahead (s : Session α γ θ ρ) : Nat :=
  s.jobs.countP Job.unnoticed + s.inbox.length

/-- Everything is done as soon as it can be. -/
def runPromptly (s : Session α γ θ ρ) (terms : Terms θ) (actions : List (Action γ θ ρ)) :
    Option (Session α γ θ ρ) :=
  actions.foldlM (fun s a => s.actPromptly terms a) s

/-- Servicing has panicked, as the clock could not show in `s` when the next silence would be too
long. -/
def Overrun (terms : Terms θ) (s s' : Session α γ θ ρ) : Prop :=
  deadline? terms s.now = none ∧ s'.phase = .unserviceable

/-- How a session that is being serviced comes to its outcome. -/
structure Decided (terms : Terms θ) (s : Session α γ θ ρ) : Prop where
  /-- Events that end servicing become pending as they happen, and others do not. -/
  raised : ∀ e s', s.act terms (.event e) = some s' → s.pending terms = [] →
    s'.pending terms = (s.raises? terms e).toList
  /-- Servicing goes on unless something is pending, and ends for the first that is. -/
  leaves : ∀ a s', s.act terms a = some s' → s'.phase.isServicing = true ∨ s.Overrun terms s' ∨
    ∃ outcome, (s.pending terms).head? = some outcome ∧ Settles terms s' outcome
  /-- Left to itself the loop gets there. -/
  reaches : ∀ outcome, (s.pending terms).head? = some outcome → ∃ actions s',
    (∀ a ∈ actions, a.byLoop = true) ∧ s.run terms actions = some s' ∧
      (s.Overrun terms s' ∨ Settles terms s' outcome)
  /-- On its way what comes first stays first, and less and less is ahead. -/
  keeps : ∀ outcome, (s.pending terms).head? = some outcome → ∀ actions s',
    (∀ a ∈ actions, a.byLoop = true) → s.run terms actions = some s' →
    s.Overrun terms s' ∨ Settles terms s' outcome ∨ (s'.phase.isServicing = true ∧
      (s'.pending terms).head? = some outcome ∧ actions.length + s'.ahead ≤ s.ahead)
  /-- If nothing else is pending at one moment, the next moment finds the outcome settled. -/
  first : ∀ outcome actions s', s.runPromptly terms actions = some s' → s.now < s'.now →
    (∀ before m, before <+: actions → s.runPromptly terms before = some m → m.now = s.now →
      m.phase.isServicing = true → m.pending terms = [outcome]) →
    s.Overrun terms s' ∨ Settles terms s' outcome

variable {s s' : Session α γ θ ρ} {terms : Terms θ} {a : Action γ θ ρ} {outcome : Outcome}
  {arguments : ConnectArguments α}

/-! What is pending. -/

theorem Phase.servicing_of_isServicing {phase : Phase γ} (serving : phase.isServicing = true) :
    ∃ limit, phase = .servicing limit := by
  cases phase with
  | servicing limit => exact ⟨limit, rfl⟩
  | introducing | connecting | accepted | draining | aborting | flushing | ended | unserviceable =>
    cases serving

theorem Writer.failure_eq_none {μ : Type} {w : Writer μ} :
    w.failure? = none ↔ w.reportsFailure = false := by
  unfold failure? reportsFailure
  split <;> simp

/-- The outcome of a session that is left because of a failed write. -/
theorem Writer.outcome_of_failure {μ : Type} {w : Writer μ} {fault : TransportFault}
    (failed : w.failure? = some fault) :
    Cause.writerEnded.outcome? w = some (.failed (.transport fault)) := by
  unfold failure? at failed
  split at failed <;> simp_all [Cause.outcome?, Writer.ending?, outcomeOf]

theorem calm_of_undisturbed (undisturbed : s.undisturbed = true) :
    s.stop = none ∧ s.outbox.writer.failure? = none := by
  simp only [Session.undisturbed, Bool.and_eq_true, Option.isNone_iff_eq_none,
    Bool.not_eq_true'] at undisturbed
  exact ⟨undisturbed.1, Writer.failure_eq_none.mpr undisturbed.2⟩

theorem alarmed_of_noticed (noticed : s.hasUnnoticed = false) : s.alarmed = false := by
  refine List.any_eq_false.mpr fun t member => ?_
  have met := List.any_eq_false.mp noticed t member
  simp_all [Job.alarms]

theorem calm_of_attentive (attentive : s.attentive = true) :
    s.stop = none ∧ s.outbox.writer.failure? = none ∧ s.hasUnnoticed = false := by
  simp only [Session.attentive, Bool.and_eq_true, Bool.not_eq_true'] at attentive
  obtain ⟨stop, writer⟩ := calm_of_undisturbed attentive.1
  exact ⟨stop, writer, attentive.2⟩

/-- When the loop attends to what has arrived, only that and silence can be pending. -/
theorem pending_of_attentive (attentive : s.attentive = true) :
    s.pending terms = (s.inbox.findSome? (Inbound.ending? s.outbox.writer)).toList ++
      ((s.silent? terms s.now).map fun d => .failed (.silent d)).toList := by
  obtain ⟨stop, writer, noticed⟩ := calm_of_attentive attentive
  simp [pending, outcomesOf, stop, writer, alarmed_of_noticed noticed]

theorem outlook_leave (now : Nat) (terms : Terms θ) (cause : Cause)
    (phase : s'.phase = leavingPhase now terms cause) :
    s'.outlook? = cause.outcome? s'.outbox.writer :=
  outlook_of_cause (by rw [phase, leavingPhase_cause])

theorem servingPhase_isServicing {now : Nat} (timely : (deadline? terms now).isSome = true) :
    (servingPhase now terms : Phase γ).isServicing = true := by
  obtain ⟨limit, phase⟩ := servingPhase_of_timely (γ := γ) timely
  rw [phase]
  rfl

/-- Nothing happens to a session whose servicing has panicked. -/
theorem Effect.unserviceable (effect : Effect terms s a s') (phase : s.phase = .unserviceable) :
    s'.phase = .unserviceable := by
  cases effect with
  | control control =>
    cases control with
    | stop | cancel | elapse => exact phase
    | introduced before | serve payload before | heedStop limit before | heedWriter limit before
    | giveUpServicing limit d before | overrun limit x rest before
    | drainOver cause limit before => simp [phase] at before
  | finish o ends =>
    cases ends with
    | introductionFailed fault before | cancelConnect limit before | giveUpConnecting limit before
    | aborted fault before | settle cause how before => simp [phase] at before
  | accept limit payload rest before | dismiss limit x rest o before
  | joinPanicked i t limit job unnoticed before => simp [phase] at before
  | ignore x rest reading | hangUp x rest cause reading | ping rest outbox reading
  | pingRefused rest reading | dispatch request rest outbox reading =>
    obtain ⟨limit, before⟩ := reading.serving
    simp [phase] at before
  | flush cause outbox flushes =>
    cases flushes with
    | drained cause limit before => simp [phase] at before
    | aborted cause before => simp [phase] at before
  | arrive | join | ask | start | answer | place | endJob | sink => exact phase

theorem run_unserviceable {actions : List (Action γ θ ρ)} (ran : s.run terms actions = some s')
    (phase : s.phase = .unserviceable) : s'.phase = .unserviceable :=
  Runs.preserved (fun _ => True) (fun _ _ _ _ phase acted =>
    (Effect.of_act acted).unserviceable phase)
    phase (fun _ _ => trivial) ran

/-! Leaving. -/

theorem Steady.leaves (steady : Steady terms s) (serving : s.phase.isServicing = true)
    (effect : Effect terms s a s') : s'.phase.isServicing = true ∨ s.Overrun terms s' ∨
      ∃ outcome, (s.pending terms).head? = some outcome ∧ s'.outlook? = some outcome := by
  cases effect with
  | control control =>
    cases control with
    | stop | cancel | elapse => exact Or.inl serving
    | introduced phase | serve payload phase | drainOver cause limit phase =>
      simp [phase, Phase.isServicing] at serving
    | heedStop limit phase stopped =>
      obtain ⟨time, stopped⟩ := Option.isSome_iff_exists.mp stopped
      refine Or.inr (Or.inr ⟨.cancelled, by simp [pending, outcomesOf, stopped], ?_⟩)
      exact outlook_leave s.now terms .stopped rfl
    | heedWriter limit phase unstopped failed =>
      cases failure : s.outbox.writer.failure? with
      | none =>
        rw [Writer.failure_eq_none.mp failure] at failed
        cases failed
      | some fault =>
        refine Or.inr (Or.inr ⟨.failed (.transport fault), ?_, ?_⟩)
        · simp [pending, outcomesOf, unstopped, failure]
        · exact (outlook_leave s.now terms .writerEnded rfl).trans
            (Writer.outcome_of_failure failure)
    | giveUpServicing limit d phase inbox silence attentive late =>
      refine Or.inr (Or.inr
        ⟨.failed (.silent d), ?_, outlook_leave s.now terms (.fault (.silent d)) rfl⟩)
      simp [pending_of_attentive attentive, inbox, silent?, phase, late, silence]
    | overrun limit x rest phase inbox attentive message late => exact Or.inr (Or.inl ⟨late, rfl⟩)
  | finish o ends =>
    cases ends with
    | introductionFailed fault phase | cancelConnect limit phase | giveUpConnecting limit phase
    | aborted fault phase | settle cause how phase => simp [phase, Phase.isServicing] at serving
  | arrive | join | ask | start | answer | place | endJob | sink => exact Or.inl serving
  | accept limit payload rest phase | dismiss limit x rest o phase =>
    simp [phase, Phase.isServicing] at serving
  | ignore x rest reading idle timely | ping rest outbox reading taken timely
  | dispatch request rest outbox reading retained timely =>
    exact Or.inl (servingPhase_isServicing timely)
  | hangUp x rest cause reading ends =>
    have known : x.ending? s.outbox.writer = cause.outcome? s.outbox.writer := by
      unfold Inbound.cause? at ends
      split at ends <;> cases ends <;> rfl
    obtain ⟨outcome, told⟩ : ∃ outcome, cause.outcome? s.outbox.writer = some outcome := by
      unfold Inbound.cause? at ends
      split at ends <;> cases ends <;> exact ⟨_, rfl⟩
    refine Or.inr (Or.inr ⟨outcome, ?_, (outlook_leave s.now terms cause rfl).trans told⟩)
    simp [pending_of_attentive reading.attentive, reading.inbox, known, told]
  | pingRefused rest reading refused =>
    have gone := steady.tended.refused reading.isOpen refused
    obtain ⟨how, ended⟩ := Option.isSome_iff_exists.mp gone
    have told := Cause.writerEnded.outcome_of_ending ended
    refine Or.inr (Or.inr ⟨outcomeOf .writerEnded how, ?_,
      (outlook_leave s.now terms .writerEnded rfl).trans told⟩)
    have unreported := Writer.failure_eq_none.mp (calm_of_attentive reading.attentive).2.1
    simp [pending_of_attentive reading.attentive, reading.inbox, Inbound.ending?, unreported, ended]
  | joinPanicked i t limit job unnoticed phase undisturbed panicked =>
    obtain ⟨stop, writer⟩ := calm_of_undisturbed undisturbed
    have alarmed : s.alarmed = true :=
      List.any_eq_true.mpr ⟨t, List.mem_of_getElem? job, by simp [Job.alarms, unnoticed, panicked]⟩
    refine Or.inr (Or.inr ⟨.failed .handlerPanicked, ?_, ?_⟩)
    · simp [pending, outcomesOf, stop, writer, alarmed]
    · exact outlook_leave s.now terms (.fault .handlerPanicked) rfl
  | flush cause outbox flushes =>
    cases flushes with
    | drained cause limit phase => simp [phase, Phase.isServicing] at serving
    | aborted cause phase => simp [phase, Phase.isServicing] at serving

/-! The loop on its way. -/

theorem hasUnnoticed_eq : s.hasUnnoticed = false ↔ s.jobs.countP Job.unnoticed = 0 := by
  simp [Session.hasUnnoticed, List.countP_eq_zero]

/-- A step of a job that raises no alarm leaves what is pending as it is. -/
private theorem pending_set {i : Nat} {t t' : Job θ} {offers : List (Nat × ClientMessage α ρ)}
    (job : s.jobs[i]? = some t) (same : t'.alarms = t.alarms) :
    pending { s with jobs := s.jobs.set i t', outbox := { s.outbox with offers } } terms =
      s.pending terms := by
  have alarms := congrArg (List.any · id) (map_set_same Job.alarms job same)
  simp only [List.any_map, Function.id_comp] at alarms
  change outcomesOf s.stop s.outbox.writer.failure? ((s.jobs.set i t').any Job.alarms)
    (s.inbox.findSome? (Inbound.ending? s.outbox.writer)) (s.silent? terms s.now) = _
  rw [alarms]
  rfl

/-- An end that is noticed is no longer in the way. -/
theorem join_ahead {i : Nat} {t : Job θ} (job : s.jobs[i]? = some t)
    (unnoticed : t.unnoticed = true) :
    ahead { s with jobs := s.jobs.set i { t with joined := true } } + 1 = s.ahead := by
  obtain ⟨inside, here⟩ := List.getElem?_eq_some_iff.mp job
  have positive : 0 < s.jobs.countP Job.unnoticed :=
    List.countP_pos_iff.mpr ⟨t, List.mem_of_getElem? job, unnoticed⟩
  have noticed : Job.unnoticed { t with joined := true } = false := by simp [Job.unnoticed]
  unfold ahead
  rw [List.countP_set inside, here]
  simp only [unnoticed, noticed, if_true, Bool.false_eq_true, if_false]
  omega

/-- Reading what does not end the session brings the loop nearer to what does. -/
private theorem read_keeps (x : Inbound γ θ) (rest : List (Inbound γ θ))
    (reading : Reading s x rest) (harmless : x.ending? s.outbox.writer = none)
    (first : (s.pending terms).head? = some outcome)
    (inbox : s'.inbox = rest) (stop : s'.stop = s.stop)
    (writer : s'.outbox.writer = s.outbox.writer)
    (jobs : s'.jobs.countP Job.unnoticed = s.jobs.countP Job.unnoticed) :
    (s'.pending terms).head? = some outcome ∧ s'.ahead + 1 = s.ahead := by
  obtain ⟨unstopped, unfailed, noticed⟩ := calm_of_attentive reading.attentive
  have noticed' : s'.hasUnnoticed = false :=
    hasUnnoticed_eq.mpr (jobs.trans (hasUnnoticed_eq.mp noticed))
  -- silence is not pending while something is left to be read
  have quiet : s.silent? terms s.now = none := by
    unfold silent?
    simp [reading.inbox]
  rw [pending_of_attentive reading.attentive, reading.inbox, quiet, List.findSome?_cons,
    harmless] at first
  have found : rest.findSome? (Inbound.ending? s.outbox.writer) = some outcome := by
    simpa using first
  constructor
  · have calm := alarmed_of_noticed noticed'
    simp [pending, outcomesOf, stop, unstopped, writer, unfailed, calm, inbox, found]
  · unfold ahead
    rw [jobs, inbox, reading.inbox, List.length_cons]
    omega

/-- What the loop does without leaving does not change what comes first. -/
theorem loop_keeps (serving : s.phase.isServicing = true)
    (serving' : s'.phase.isServicing = true) (byLoop : a.byLoop = true)
    (first : (s.pending terms).head? = some outcome) (effect : Effect terms s a s') :
    (s'.pending terms).head? = some outcome ∧ s'.ahead + 1 = s.ahead := by
  have left : ∀ cause, (leavingPhase s.now terms cause : Phase γ).isServicing ≠ true := by
    intro cause
    rcases leavingPhase_cases (γ := γ) s.now terms cause with ⟨_, limit, phase⟩ | ⟨_, phase⟩ <;>
      simp [phase, Phase.isServicing]
  cases effect with
  | control control =>
    cases control with
    | stop | cancel | elapse | introduced | serve => cases byLoop
    | heedStop => exact absurd serving' (left .stopped)
    | heedWriter => exact absurd serving' (left .writerEnded)
    | giveUpServicing limit d => exact absurd serving' (left (.fault (.silent d)))
    | overrun | drainOver => cases serving'
  | finish o ends => cases serving'
  | arrive | ask | start | answer | place => cases byLoop
  | accept | dismiss => cases serving'
  | ignore x rest reading idle =>
    refine read_keeps x rest reading ?_ first rfl rfl rfl rfl
    unfold Inbound.isIdle at idle
    split at idle <;> simp_all [Inbound.ending?]
  | hangUp x rest cause => exact absurd serving' (left cause)
  | ping rest outbox reading taken =>
    obtain ⟨able, rfl⟩ := Outbox.step_pong.mp taken
    refine read_keeps _ rest reading ?_ first rfl rfl rfl rfl
    have lasts : s.outbox.writer.ending? = none := by simpa [Writer.hasEnded] using able.2
    simp [Inbound.ending?, lasts]
  | pingRefused => exact absurd serving' (left .writerEnded)
  | dispatch request rest outbox reading retained =>
    obtain ⟨_, rfl⟩ := Outbox.step_retain.mp retained
    refine read_keeps _ rest reading rfl first rfl rfl rfl ?_
    simp [List.countP_append, Job.unnoticed, Job.hasEnded, Stage.isEnded]
  | join i t job unnoticed joining =>
    have calm : t.stage ≠ .ended .panicked := by
      cases joining with
      | servicing limit phase undisturbed calm => exact calm
      | draining cause limit phase => simp [phase, Phase.isServicing] at serving
      | aborting cause phase => simp [phase, Phase.isServicing] at serving
    refine ⟨?_, join_ahead job unnoticed⟩
    rw [← first]
    exact congrArg List.head? (pending_set job (by simp [Job.alarms, calm]))
  | joinPanicked i t limit job unnoticed phase undisturbed panicked =>
    exact absurd serving' (left (.fault .handlerPanicked))
  | flush => cases serving'
  | endJob i t how outbox job ends =>
    cases ends with
    | refuse | panic => cases byLoop
    | abort aborting =>
      obtain ⟨limit, phase⟩ := Phase.servicing_of_isServicing serving
      simp [phase, Phase.isAborting] at aborting
  | sink b outbox sunk => cases sunk <;> cases byLoop

/-! The loop has its turn. -/

theorem Steady.read_isSome (steady : Steady terms s) {limit : Nat} {x : Inbound γ θ}
    {rest : List (Inbound γ θ)} (phase : s.phase = .servicing limit)
    (attentive : s.attentive = true) (inbox : s.inbox = x :: rest)
    (due : s.isOverdue terms x = false) : (s.act terms (.move .read)).isSome = true := by
  have held := (steady.tended.held (by rw [phase]; rfl)).2
  have retained : (s.outbox.step .retain).isSome = true := by
    have positive : 0 < s.outbox.handles := by
      unfold ownHandles at held
      omega
    simp [Outbox.step, positive]
  obtain ⟨outbox, retained⟩ := Option.isSome_iff_exists.mp retained
  simp only [act, advance, read?, phase, inbox, attentive, due, Bool.not_true, Bool.or_false,
    Bool.false_eq_true, if_false]
  split
  · rfl
  · rfl
  · rfl
  · rfl
  · split <;> rfl
  · simp [dispatch?, retained]

/-- While anything is pending or left to be read the loop has something to do. -/
theorem Steady.ready (steady : Steady terms s) (serving : s.phase.isServicing = true)
    (some : s.pending terms ≠ [] ∨ s.inbox ≠ []) :
    ∃ m ∈ s.moves, m.byLoop = true ∧ (s.act terms (.move m)).isSome = true := by
  obtain ⟨limit, phase⟩ := Phase.servicing_of_isServicing serving
  cases stop : s.stop with
  | some time =>
    exact ⟨.heedStop, by simp [moves, loopMoves], rfl, by simp [act, advance, phase, stop]⟩
  | none =>
    cases failed : s.outbox.writer.reportsFailure with
    | true =>
      exact ⟨.heedWriter, by simp [moves, loopMoves], rfl,
        by simp [act, advance, phase, stop, failed]⟩
    | false =>
      have undisturbed : s.undisturbed = true := by simp [Session.undisturbed, stop, failed]
      cases noticed : s.hasUnnoticed with
      | true =>
        obtain ⟨i, t, job, unnoticed⟩ := unnoticed_job noticed
        refine ⟨.join i, ?_, rfl, ?_⟩
        · obtain ⟨inside, here⟩ := List.getElem?_eq_some_iff.mp job
          simp only [Job.unnoticed, Bool.and_eq_true, Bool.not_eq_true'] at unnoticed
          simp [moves, loopMoves, pendingJobs, inside, here, unnoticed.2]
        · exact join_isSome job unnoticed (Or.inl ⟨limit, phase, undisturbed⟩)
      | false =>
        have attentive : s.attentive = true := by simp [Session.attentive, undisturbed, noticed]
        by_cases inbox : s.inbox = []
        · refine ⟨.giveUpServicing, by simp [moves, loopMoves], rfl, ?_⟩
          have some := some.resolve_right fun left => left inbox
          rw [pending_of_attentive attentive] at some
          have late : limit ≤ s.now := by
            by_contra early
            simp [inbox, silent?, phase, early] at some
          simp [act, advance, phase, inbox, attentive, late, steady.measured limit phase]
        · obtain ⟨x, rest, inbox⟩ := List.exists_cons_of_ne_nil inbox
          cases due : s.isOverdue terms x with
          | true =>
            exact ⟨.overrun, by simp [moves, loopMoves], rfl,
              by simp [act, advance, phase, inbox, attentive, due]⟩
          | false =>
            exact ⟨.read, by simp [moves, loopMoves], rfl,
              steady.read_isSome phase attentive inbox due⟩

theorem Steady.reaches (steady : Steady terms s) (serving : s.phase.isServicing = true)
    (first : (s.pending terms).head? = some outcome) : ∃ actions s',
      (∀ a ∈ actions, a.byLoop = true) ∧ s.run terms actions = some s' ∧
      (s.Overrun terms s' ∨ s'.outlook? = some outcome) := by
  induction work : s.ahead using Nat.strongRecOn generalizing s with
  | ind n ih =>
    obtain ⟨m, _, loops, able⟩ := steady.ready serving (Or.inl (by rintro none; simp [none] at first))
    have byLoop : (Action.move m : Action γ θ ρ).byLoop = true := loops
    obtain ⟨next, acted⟩ := Option.isSome_iff_exists.mp able
    have effect := Effect.of_act acted
    have alone : s.run terms [.move m] = some next := Runs.foldlM_cons.mpr ⟨next, acted, rfl⟩
    rcases steady.leaves serving effect with serving' | stuck | ⟨other, head, settled⟩
    · obtain ⟨first', less⟩ := loop_keeps serving serving' byLoop first effect
      obtain ⟨rest, s', loops, ran, reached⟩ :=
        ih next.ahead (by omega) (steady.step effect) serving' first' rfl
      refine ⟨.move m :: rest, s', List.forall_mem_cons.mpr ⟨byLoop, loops⟩,
        Runs.foldlM_cons.mpr ⟨next, acted, ran⟩, reached.imp_left fun stuck => ?_⟩
      exact ⟨(effect.now_of_byLoop byLoop) ▸ stuck.1, stuck.2⟩
    · exact ⟨[.move m], next, List.forall_mem_singleton.mpr byLoop, alone, Or.inl stuck⟩
    · rw [first] at head
      cases head
      exact ⟨[.move m], next, List.forall_mem_singleton.mpr byLoop, alone, Or.inr settled⟩

theorem Steady.keeps (steady : Steady terms s) (serving : s.phase.isServicing = true)
    (first : (s.pending terms).head? = some outcome) {actions : List (Action γ θ ρ)}
    (loops : ∀ a ∈ actions, a.byLoop = true) (ran : s.run terms actions = some s') :
    s.Overrun terms s' ∨ s'.outlook? = some outcome ∨ (s'.phase.isServicing = true ∧
      (s'.pending terms).head? = some outcome ∧ actions.length + s'.ahead ≤ s.ahead) := by
  induction actions generalizing s with
  | nil =>
    cases ran
    exact Or.inr (Or.inr ⟨serving, first, by simp⟩)
  | cons a rest ih =>
    obtain ⟨next, acted, ran⟩ := Runs.foldlM_cons.mp ran
    obtain ⟨byLoop, loops⟩ := List.forall_mem_cons.mp loops
    have effect := Effect.of_act acted
    rcases steady.leaves serving effect with serving' | stuck | ⟨other, head, settled⟩
    · obtain ⟨first', less⟩ := loop_keeps serving serving' byLoop first effect
      rcases ih (steady.step effect) serving' first' loops ran with stuck | settled | further
      · exact Or.inl ⟨(effect.now_of_byLoop byLoop) ▸ stuck.1, stuck.2⟩
      · exact Or.inr (Or.inl settled)
      · refine Or.inr (Or.inr ⟨further.1, further.2.1, ?_⟩)
        rw [List.length_cons]
        omega
    · exact Or.inl ⟨stuck.1, run_unserviceable ran stuck.2⟩
    · rw [first] at head
      cases head
      exact Or.inr (Or.inl (run_outlook ran settled).1)

/-! Events. -/

theorem calm_of_pending (none : s.pending terms = []) :
    s.stop = .none ∧ s.outbox.writer.failure? = .none ∧ s.alarmed = false ∧
      s.inbox.findSome? (Inbound.ending? s.outbox.writer) = .none ∧
      s.silent? terms s.now = .none := by
  simp only [pending, outcomesOf, List.append_eq_nil_iff, Option.toList_eq_nil_iff,
    Option.map_eq_none_iff] at none
  obtain ⟨⟨⟨⟨stop, writer⟩, alarmed⟩, inbox⟩, silent⟩ := none
  exact ⟨stop, writer, by simpa using alarmed, inbox, silent⟩

/-- Pings tell nothing of a writer that has not ended, nor of one whose failure is known. -/
private theorem ending_of_told {μ : Type} {w : Writer μ}
    (told : w.hasEnded = false ∨ w.reportsFailure = true) :
    (Inbound.ending? w : Inbound γ θ → Option Outcome) = Inbound.ending? (.idle : Writer μ) := by
  have mute :
      (if w.reportsFailure then none else w.ending?.map (outcomeOf .writerEnded)) = none := by
    rcases told with lasts | failed
    · have none : w.ending? = none := by simpa [Writer.hasEnded] using lasts
      simp [none]
    · simp [failed]
  funext x
  unfold Inbound.ending?
  split
  case h_3 => exact mute
  all_goals rfl

theorem Steady.raised (steady : Steady terms s) (serving : s.phase.isServicing = true)
    {e : Event γ θ ρ} (effect : Effect terms s (.event e) s') (none : s.pending terms = []) :
    s'.pending terms = (s.raises? terms e).toList := by
  obtain ⟨stop, writer, calm, inbox, silent⟩ := calm_of_pending none
  obtain ⟨limit, phase⟩ := Phase.servicing_of_isServicing serving
  cases effect with
  | control control =>
    cases control with
    | stop =>
      change outcomesOf (some s.now) s.outbox.writer.failure? s.alarmed
        (s.inbox.findSome? (Inbound.ending? s.outbox.writer)) (s.silent? terms s.now) = _
      rw [writer, calm, inbox, silent]
      rfl
    | cancel => exact none
    | elapse time =>
      change outcomesOf s.stop s.outbox.writer.failure? s.alarmed
        (s.inbox.findSome? (Inbound.ending? s.outbox.writer)) (s.silent? terms time) = _
      rw [stop, writer, calm, inbox]
      rfl
    | introduced early | serve payload early => simp [phase] at early
  | finish o ends =>
    cases ends with
    | introductionFailed fault early => simp [phase] at early
  | arrive x =>
    have spoken : silent? { s with inbox := s.inbox ++ [x] } terms s.now = .none := by
      simp [silent?]
    change outcomesOf s.stop s.outbox.writer.failure? s.alarmed
      ((s.inbox ++ [x]).findSome? (Inbound.ending? s.outbox.writer))
      (silent? { s with inbox := s.inbox ++ [x] } terms s.now) = _
    rw [spoken, stop, writer, calm, List.findSome?_append, inbox]
    simp [outcomesOf, raises?]
  | flush cause outbox flushes => cases flushes
  | answer i t response outbox job running offered =>
    rw [← Outbox.step_offer offered]
    refine Eq.trans ?_ none
    exact pending_set job (by simp [Job.alarms, running])
  | endJob i t how outbox job ends left =>
    obtain ⟨_, rfl⟩ := Outbox.run_sender_leaves.mp left
    cases ends with
    | panic running =>
      have unjoined : t.joined = false := by
        by_contra joined
        have ended := steady.tended.joined t (List.mem_of_getElem? job) (by simpa using joined)
        simp [Job.hasEnded, Stage.isEnded, running] at ended
      have alarmed : (s.jobs.set i (t.withStage (.ended .panicked))).any Job.alarms = true := by
        refine List.any_eq_true.mpr ⟨t.withStage (.ended .panicked), ?_, ?_⟩
        · exact List.mem_set (List.getElem?_eq_some_iff.mp job).1 _
        · simp [Job.alarms, Job.unnoticed, Job.hasEnded, Stage.isEnded, Job.withStage, unjoined]
      change outcomesOf s.stop s.outbox.writer.failure? (List.any _ Job.alarms)
        (s.inbox.findSome? (Inbound.ending? s.outbox.writer)) (s.silent? terms s.now) = _
      rw [stop, writer, alarmed, inbox, silent]
      rfl
  | sink b outbox sunk work =>
    rw [ending_of_told (Or.inl work.unended)] at inbox
    change outcomesOf s.stop outbox.writer.failure? s.alarmed
      (s.inbox.findSome? (Inbound.ending? outbox.writer)) (s.silent? terms s.now) = _
    rw [stop, calm, silent]
    cases work with
    | pickPong | pickMessage | shut => cases sunk
    | wrote time m since writing =>
      cases sunk
      rw [ending_of_told (Or.inl rfl), inbox]
      rfl
    | broke b how m since writing broken =>
      cases broken with
      | writeFailed fault =>
        cases sunk
        rw [ending_of_told (Or.inr rfl), inbox]
        rfl
      | crashed =>
        cases sunk
        simp [outcomesOf, raises?, Outbox.finish, Writer.failure?]
    | closed b how closing =>
      have closed := steady.tended.shutting (by simp [closing, Writer.isShutting])
      simp [phase, Phase.isClosed] at closed

/-! Promptness. -/

theorem act_of_promptly (acted : s.actPromptly terms a = some s') :
    s.act terms a = some s' ∧
      ∀ time, a = .event (.elapse time) → s.isQuiet terms = true := by
  unfold actPromptly at acted
  split at acted
  case h_1 time =>
    split at acted
    case isTrue waits =>
      simp only [mayWait, Bool.and_eq_true] at waits
      exact ⟨acted, fun _ _ => waits.1⟩
    case isFalse => cases acted
  case h_2 other => exact ⟨acted, fun time same => absurd same (other time)⟩

theorem run_of_promptly {actions : List (Action γ θ ρ)}
    (ran : s.runPromptly terms actions = some s') : s.run terms actions = some s' :=
  Runs.run_of_narrower (fun _ _ _ acted => (act_of_promptly acted).1) ran

/-- Time does not pass while anything is pending. -/
theorem Steady.instant (steady : Steady terms s) (serving : s.phase.isServicing = true)
    (some : s.pending terms ≠ []) (acted : s.actPromptly terms a = .some s') (time : Nat) :
    a ≠ .event (.elapse time) := by
  intro same
  obtain ⟨m, member, _, able⟩ := steady.ready serving (Or.inl some)
  exact not_quiet member able ((act_of_promptly acted).2 time same)

theorem Steady.first (steady : Steady terms s) (serving : s.phase.isServicing = true)
    {actions : List (Action γ θ ρ)} (ran : s.runPromptly terms actions = some s')
    (later : s.now < s'.now)
    (alone : ∀ before m, before <+: actions → s.runPromptly terms before = some m →
      m.now = s.now → m.phase.isServicing = true → m.pending terms = [outcome]) :
    s.Overrun terms s' ∨ s'.outlook? = some outcome := by
  induction actions generalizing s with
  | nil =>
    cases ran
    exact absurd later (Nat.lt_irrefl _)
  | cons a rest ih =>
    obtain ⟨next, acted, ran⟩ := Runs.foldlM_cons.mp ran
    have here := alone [] s List.nil_prefix rfl rfl serving
    have instant := steady.instant serving (by simp [here]) acted
    have effect := Effect.of_act (act_of_promptly acted).1
    have now := effect.now_eq instant
    rcases steady.leaves serving effect with serving' | stuck | ⟨other, head, settled⟩
    · rw [Overrun, ← now]
      refine ih (steady.step effect) serving' ran (by omega) ?_
      intro before m inside reached same
      refine alone (a :: before) m ((List.prefix_cons_inj a).mpr inside) ?_ (same.trans now)
      exact Runs.foldlM_cons.mpr ⟨next, acted, reached⟩
    · exact Or.inl ⟨stuck.1, run_unserviceable (run_of_promptly ran) stuck.2⟩
    · rw [here] at head
      cases head
      exact Or.inr (run_outlook (run_of_promptly ran) settled).1

/-- Whatever has happened before, the event that ends servicing decides the outcome. -/
theorem servicing_decided (openedAt : Nat) (arguments : ConnectArguments α)
    (actions : List (Action γ θ ρ))
    (ran : (Session.opened terms.settings openedAt arguments).run terms actions = some s)
    (serving : s.phase.isServicing = true) : Decided terms s := by
  have steady : Steady terms s := Steady.of_run ran
  refine ⟨?_, ?_, ?_, ?_, ?_⟩
  · intro e s' acted none
    exact steady.raised serving (Effect.of_act acted) none
  · intro a s' acted
    have effect := Effect.of_act acted
    refine (steady.leaves serving effect).imp_right fun left => ?_
    exact left.imp_right fun ⟨outcome, head, settled⟩ =>
      ⟨outcome, head, (steady.step effect).settles settled⟩
  · intro outcome first
    obtain ⟨rest, s', loops, ran', reached⟩ := steady.reaches serving first
    exact ⟨rest, s', loops, ran', reached.imp_right (steady.run ran').settles⟩
  · intro outcome first rest s' loops ran'
    exact (steady.keeps serving first loops ran').imp_right
      (Or.imp_left (steady.run ran').settles)
  · intro outcome rest s' ran' later alone
    exact (steady.first serving ran' later alone).imp_right
      (steady.run (run_of_promptly ran')).settles

/-- The handler of the second request has panicked and the remote end has closed the stream, while
the end of the first job has not been noticed yet. -/
def exchangePanic : List (Action String Nat String) :=
  exchangeReading ++
    [.move (.ask 0), .move (.start 0), .event (.answer 0 { payload := "ten" }), .move (.place 0),
      .move (.ask 1), .move (.start 1), .event (.panic 1), .event (.arrive .eof)]

theorem servicing_decided_panic :
    ∃ s : Session String String Nat String,
      (Session.opened exchangeTerms.settings 0 { payload := "hello" }).run exchangeTerms
        exchangePanic = some s ∧
      s.phase.isServicing = true ∧
      s.pending exchangeTerms = [.failed .handlerPanicked, .completed] ∧
      s.jobs.countP Job.unnoticed = 2 ∧ Decided exchangeTerms s :=
  ⟨_, rfl, rfl, rfl, rfl, servicing_decided 0 { payload := "hello" } exchangePanic rfl rfl⟩

end Dialback.Session
