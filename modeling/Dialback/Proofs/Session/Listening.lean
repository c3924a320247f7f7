import Dialback.Proofs.Session.Connecting
import Dialback.Proofs.Settings.Derived

/-!
The silence limit. It is counted from the start of servicing and anew from each message that is
read. No other action moves it, whatever jobs and writer do meanwhile, and nobody gives up listening
before it, nor while anything is left to be read. Only where the clock of the machine stops short of
the limit is there nothing to count.
-/
namespace Dialback.Session

variable {α γ θ ρ : Type}

/-- When a silence that has begun at `start` is too long. -/
def silenceLimit (terms : Terms θ) (start : Nat) : Nat :=
  start + terms.settings.pingTimeoutMs

/-- Listening begins anew. -/
def Action.restarts : Action γ θ ρ → Bool
  | .event .serve | .move .read => true
  | _ => false

/-- What ends servicing, silence apart: the stop signal, a write that fails, a panic, a read error
and the end of the stream. -/
def Action.interrupts : Action γ θ ρ → Bool
  | .event .stop | .event (.writeFailed _) | .event .writerCrashed | .event (.panic _)
  | .event (.arrive .eof) | .event (.arrive (.fault _)) => true
  | _ => false

/-- A session as seen by whoever measures its silence. -/
structure Watch (γ θ : Type) where
  /-- When the last message was read, or else servicing began. -/
  since : Option Nat := none
  arrived : List (Nat × Inbound γ θ) := []
  /-- Something else has given reason to end before the outcome was settled. -/
  interrupted : Bool := false

def Watch.note (w : Watch γ θ) (s : Session α γ θ ρ) (a : Action γ θ ρ) : Watch γ θ where
  since := if a.restarts then some s.now else w.since
  arrived := noteArrival w.arrived s a
  interrupted := w.interrupted || (s.outlook?.isNone && a.interrupts)

/-- What is seen along a run that begins in `s`. -/
def watch (s : Session α γ θ ρ) (terms : Terms θ) (actions : List (Action γ θ ρ)) : Watch γ θ :=
  Runs.noted (fun s a => s.act terms a) Watch.note {} s actions

/-- How a session minds its silence limit. -/
structure Listening (terms : Terms θ) (w : Watch γ θ) (s : Session α γ θ ρ) : Prop where
  /-- Servicing begins with a limit, unless no clock shows it. -/
  begins : ∀ s', s.act terms (.event .serve) = some s' →
    s'.phase = .servicing (silenceLimit terms s.now) ∨
      (s'.phase = .unserviceable ∧ deadline? terms s.now = none)
  /-- The limit is counted from the last message that was read. -/
  limit : ∀ limit, s.phase = .servicing limit →
    ∃ start, w.since = some start ∧ limit = silenceLimit terms start
  /-- Every message that is read moves the limit, if it does not end the session. -/
  moves : ∀ x rest, s.phase.isServicing = true → s.attentive = true → s.inbox = x :: rest →
    x.ending? s.outbox.writer = none → deadline? terms s.now ≠ none →
      ∃ s', s.act terms (.move .read) = some s' ∧ s'.inbox = rest ∧
        s'.phase = .servicing (silenceLimit terms s.now)
  /-- Nothing else moves it. -/
  stays : ∀ limit limit' a s', s.phase = .servicing limit → s.act terms a = some s' →
    s'.phase = .servicing limit' → a ≠ .move .read → limit' = limit
  /-- Nobody gives up as long as something is unread or has been heard in time. -/
  patient : ∀ a s' d, s.outlook? = none → s.act terms a = some s' →
    s'.outlook? = some (.failed (.silent d)) →
      terms.settings.pingTimeout? = some d ∧ s.inbox = [] ∧
      ∃ start, w.since = some start ∧ silenceLimit terms start ≤ s.now ∧
        ∀ m ∈ w.arrived, m.1 ≤ start

variable {s s' : Session α γ θ ρ} {terms : Terms θ} {a : Action γ θ ρ} {w : Watch γ θ}
  {d : Duration} {limit : Nat}

/-! How long the silence may be. -/

/-- The interval of the pings as often as the settings say, in whole milliseconds. -/
theorem silence_eq {settings : CallSettings} (silence : settings.pingTimeout? = some d) :
    d.nanoseconds =
        settings.pingInterval.nanoseconds * max settings.pingTimeoutMultiplier.toNat 1 ∧
      d.ticks = settings.pingTimeoutMs := by
  have span := CallSettings.pingTimeout_eq_some.mp silence
  refine ⟨span, ?_⟩
  rw [← CallSettings.pingTimeoutMs_nanos, Duration.nanosPerMilli] at span
  rw [Duration.ticks, span, Duration.nanosPerMilli]
  omega

theorem deadline_limit {now : Nat} (known : deadline? terms now = some limit) :
    limit = silenceLimit terms now := by
  obtain ⟨_, d, silence, _, rfl⟩ := deadline_eq_some.mp known
  rw [silenceLimit, (silence_eq silence).2]

theorem servingPhase_limit {now : Nat}
    (serving : (servingPhase now terms : Phase γ) = .servicing limit) :
    limit = silenceLimit terms now :=
  deadline_limit (deadline_of_servingPhase serving)

theorem servingPhase_eq {now : Nat} (timely : (deadline? terms now).isSome = true) :
    (servingPhase now terms : Phase γ) = .servicing (silenceLimit terms now) := by
  obtain ⟨limit, serving⟩ := servingPhase_of_timely (γ := γ) timely
  rw [serving, servingPhase_limit serving]

theorem deadline_of_unserviceable {now : Nat}
    (refused : (servingPhase now terms : Phase γ) = .unserviceable) :
    deadline? terms now = none := by
  by_contra known
  rw [servingPhase_eq (Option.isSome_iff_ne_none.mpr known)] at refused
  cases refused

/-! Steps. -/

/-- The session has been left for silence, or has ended so. -/
theorem silent_cases (silent : s.outlook? = some (.failed (.silent d))) :
    s.phase.cause? = some (.fault (.silent d)) ∨
      ∃ time, s.phase = .ended (.failed (.silent d)) time := by
  have because : ∀ cause, s.phase.cause? = some cause →
      s.phase.cause? = some (.fault (.silent d)) := by
    intro cause known
    rw [outlook_of_cause known] at silent
    cases cause with
    | fault reason =>
      cases silent
      exact known
    | stopped | closed => cases silent
    | writerEnded =>
      obtain ⟨how, _, same⟩ := Option.map_eq_some_iff.mp silent
      cases how <;> cases same
  cases phase : s.phase with
  | draining cause | aborting cause | flushing cause =>
    exact Or.inl (phase ▸ because cause (by rw [phase]; rfl))
  | ended outcome time =>
    have same : outcome = .failed (.silent d) := by simpa [outlook?, phase] using silent
    exact Or.inr ⟨time, by rw [same]⟩
  | introducing | connecting | accepted | servicing | unserviceable =>
    simp [outlook?, phase] at silent

/-- How an action bears on listening. -/
inductive Turn (terms : Terms θ) (s : Session α γ θ ρ) (a : Action γ θ ρ)
    (s' : Session α γ θ ρ) : Prop
  /-- It goes on, or has not begun, or is over. -/
  | stays (quiet : a.restarts = false) (phase : s'.phase = s.phase)
      (inbox : s'.inbox = s.inbox ++ a.arrival?.toList) : Turn terms s a s'
  | restarts (restarts : a.restarts = true)
      (able : s.phase.isServicing = true ∨ s.phase.isAccepted = true)
      (phase : s'.phase = servingPhase s.now terms) : Turn terms s a s'
  | givesUp (limit : Nat) (d : Duration) (same : a = .move .giveUpServicing)
      (phase : s.phase = .servicing limit) (late : limit ≤ s.now) (inbox : s.inbox = [])
      (silence : terms.settings.pingTimeout? = some d)
      (left : s'.phase = .aborting (.fault (.silent d))) : Turn terms s a s'
  /-- It cannot begin anew. -/
  | overruns (same : a = .move .overrun) (serving : s.phase.isServicing = true)
      (unread : s.inbox ≠ []) (late : deadline? terms s.now = none)
      (phase : s'.phase = .unserviceable) : Turn terms s a s'
  /-- It is left for another cause. -/
  | leaves (cause : Cause) (serving : s.phase.isServicing = true)
      (other : ∀ d, cause ≠ .fault (.silent d)) (left : s'.phase = leavingPhase s.now terms cause) :
      Turn terms s a s'
  /-- It has not begun or is over, and another phase begins. -/
  | beside (quiet : a.restarts = false)
      (before : s.phase.isServicing = false ∧ s.phase ≠ .unserviceable)
      (after : s'.phase.isServicing = false ∧ s'.phase ≠ .unserviceable)
      (silent : ∀ d, s'.outlook? = some (.failed (.silent d)) →
        s.outlook? = some (.failed (.silent d))) : Turn terms s a s'

/-- A phase before servicing, or behind it. -/
private theorem Turn.of_phases (quiet : a.restarts = false)
    (before : s.phase.isServicing = false ∧ s.phase ≠ .unserviceable)
    (after : s'.phase.isServicing = false ∧ s'.phase ≠ .unserviceable)
    (unsettled : s'.outlook? = none ∨ s'.outlook? = s.outlook? ∨
      ∃ outcome, s'.outlook? = some outcome ∧ ∀ d, outcome ≠ .failed (.silent d)) :
    Turn terms s a s' := by
  refine .beside quiet before after fun d silent => ?_
  rcases unsettled with none | same | ⟨outcome, known, other⟩
  · rw [none] at silent
    cases silent
  · rw [← same]
    exact silent
  · rw [known] at silent
    exact absurd (Option.some.inj silent) (other d)

theorem Inbound.cause_ne_silent {x : Inbound γ θ} {cause : Cause} (ends : x.cause? = some cause) :
    cause ≠ .fault (.silent d) := by
  rintro rfl
  unfold cause? at ends
  split at ends <;> cases ends

theorem dismissal_ne_silent {x : Inbound γ θ} {outcome : Outcome}
    (dismissal : dismissal? x = some outcome) : outcome ≠ .failed (.silent d) := by
  rintro rfl
  unfold dismissal? at dismissal
  split at dismissal <;> cases dismissal

theorem Effect.turn (effect : Effect terms s a s') : Turn terms s a s' := by
  -- in a phase that is neither that of servicing nor stuck
  have outside : ∀ {phase : Phase γ}, s.phase = phase → phase.isServicing = false →
      phase ≠ .unserviceable → s.phase.isServicing = false ∧ s.phase ≠ .unserviceable := by
    rintro phase rfl unserved measured
    exact ⟨unserved, measured⟩
  cases effect with
  | control control =>
    cases control with
    | stop | cancel | elapse => exact .stays rfl rfl (List.append_nil _).symm
    | introduced phase =>
      exact .of_phases rfl (outside phase rfl (by simp)) ⟨rfl, by simp⟩ (Or.inl rfl)
    | serve payload phase => exact .restarts rfl (Or.inr (by rw [phase]; rfl)) rfl
    | heedStop limit phase =>
      exact .leaves .stopped (by rw [phase]; rfl) (by simp) rfl
    | heedWriter limit phase =>
      exact .leaves .writerEnded (by rw [phase]; rfl) (by simp) rfl
    | giveUpServicing limit d phase inbox silence attentive late =>
      exact .givesUp limit d rfl phase late inbox silence rfl
    | overrun limit x rest phase inbox attentive message late =>
      exact .overruns rfl (by rw [phase]; rfl) (by simp [inbox]) late rfl
    | drainOver cause limit phase =>
      refine .of_phases rfl (outside phase rfl (by simp)) ⟨rfl, by simp⟩ (Or.inr (Or.inl ?_))
      simp [outlook?, phase]
  | finish outcome ends =>
    cases ends with
    | introductionFailed fault phase =>
      exact .of_phases rfl (outside phase rfl (by simp)) ⟨rfl, by simp⟩
        (Or.inr (Or.inr ⟨_, rfl, by simp⟩))
    | cancelConnect limit phase | giveUpConnecting limit phase =>
      exact .of_phases rfl (outside phase rfl (by simp)) ⟨rfl, by simp⟩
        (Or.inr (Or.inr ⟨_, rfl, by simp⟩))
    | aborted fault phase =>
      refine .of_phases rfl (outside phase rfl (by simp)) ⟨rfl, by simp⟩ (Or.inr (Or.inl ?_))
      simp [outlook?, phase, Cause.outcome?]
    | settle cause how phase ended =>
      refine .of_phases rfl (outside phase rfl (by simp)) ⟨rfl, by simp⟩ (Or.inr (Or.inl ?_))
      simp [outlook?, phase, cause.outcome_of_ending ended]
  | accept limit payload rest phase =>
    exact .of_phases rfl (outside phase rfl (by simp)) ⟨rfl, by simp⟩ (Or.inl rfl)
  | dismiss limit x rest outcome phase inbox uncancelled dismissal =>
    exact .of_phases rfl (outside phase rfl (by simp)) ⟨rfl, by simp⟩
      (Or.inr (Or.inr ⟨outcome, rfl, fun d => dismissal_ne_silent dismissal⟩))
  | ignore x rest reading | ping rest outbox reading | dispatch request rest outbox reading =>
    obtain ⟨limit, phase⟩ := reading.serving
    exact .restarts rfl (Or.inl (by rw [phase]; rfl)) rfl
  | hangUp x rest cause reading ends =>
    obtain ⟨limit, phase⟩ := reading.serving
    exact .leaves cause (by rw [phase]; rfl) (fun d => Inbound.cause_ne_silent ends) rfl
  | pingRefused rest reading =>
    obtain ⟨limit, phase⟩ := reading.serving
    exact .leaves .writerEnded (by rw [phase]; rfl) (by simp) rfl
  | joinPanicked i t limit job unnoticed phase =>
    exact .leaves (.fault .handlerPanicked) (by rw [phase]; rfl) (by simp) rfl
  | flush cause outbox flushes left =>
    obtain ⟨_, rfl⟩ := Outbox.run_owners_leave.mp left
    cases flushes with
    | drained cause limit phase | aborted cause phase =>
      refine .of_phases rfl (outside phase rfl (by simp)) ⟨rfl, by simp⟩ (Or.inr (Or.inl ?_))
      simp [outlook?, phase]
  | arrive x => exact .stays rfl rfl rfl
  | join | ask | start | answer | place => exact .stays rfl rfl (List.append_nil _).symm
  | endJob i t how outbox job ends =>
    have quiet : a.restarts = false ∧ a.arrival? = none := by cases ends <;> exact ⟨rfl, rfl⟩
    exact .stays quiet.1 rfl (by simp [quiet.2])
  | sink b outbox sunk =>
    have quiet : a.restarts = false ∧ a.arrival? = none := by cases sunk <;> exact ⟨rfl, rfl⟩
    exact .stays quiet.1 rfl (by simp [quiet.2])

theorem Action.restarts_cases (restarts : a.restarts = true) :
    a = .event .serve ∨ a = .move .read := by
  unfold Action.restarts at restarts
  split at restarts
  · exact Or.inl rfl
  · exact Or.inr rfl
  · cases restarts

/-- Servicing goes on with the same limit, unless it begins anew. -/
theorem Turn.serving (turn : Turn terms s a s') (phase : s'.phase = .servicing limit) :
    (a.restarts = true ∧ limit = silenceLimit terms s.now) ∨
      (a.restarts = false ∧ s.phase = .servicing limit ∧
        s'.inbox = s.inbox ++ a.arrival?.toList) := by
  cases turn with
  | stays quiet same inbox => exact Or.inr ⟨quiet, same.symm.trans phase, inbox⟩
  | restarts restarts able begun => exact Or.inl ⟨restarts, servingPhase_limit (begun ▸ phase)⟩
  | givesUp limit d same before late inbox silence left | overruns same serving unread late left =>
    rw [left] at phase
    cases phase
  | leaves cause serving other left =>
    rw [left] at phase
    rcases leavingPhase_cases (γ := γ) s.now terms cause with ⟨_, limit, same⟩ | ⟨_, same⟩ <;>
      simp [same] at phase
  | beside quiet before after => simp [phase, Phase.isServicing] at after

/-- Only whoever gives up listening leaves for silence. -/
theorem Turn.silenced (turn : Turn terms s a s') (unsettled : s.outlook? = none)
    (silent : s'.outlook? = some (.failed (.silent d))) :
    a = .move .giveUpServicing ∧ terms.settings.pingTimeout? = some d ∧ s.inbox = [] ∧
      s'.phase = .aborting (.fault (.silent d)) ∧
      ∃ limit, s.phase = .servicing limit ∧ limit ≤ s.now := by
  have known := silent_cases silent
  cases turn with
  | stays quiet same =>
    rw [same] at known
    rcases known with because | ⟨time, ended⟩
    · rw [outlook_of_cause because] at unsettled
      cases unsettled
    · simp [outlook?, ended] at unsettled
  | restarts restarts able begun =>
    rcases servingPhase_cases (γ := γ) s.now terms with ⟨limit, same⟩ | same <;>
      simp [begun, same, Phase.cause?] at known
  | givesUp limit d' same phase late inbox silence left =>
    have equal : d' = d := by simpa [left, Phase.cause?] using known
    subst equal
    exact ⟨same, silence, inbox, left, limit, phase, late⟩
  | overruns same serving unread late stuck => simp [stuck, Phase.cause?] at known
  | leaves cause serving other left =>
    rcases known with because | ⟨time, ended⟩
    · rw [left, leavingPhase_cause] at because
      exact absurd (Option.some.inj because) (other d)
    · rw [left] at ended
      rcases leavingPhase_cases (γ := γ) s.now terms cause with ⟨_, limit, same⟩ | ⟨_, same⟩ <;>
        simp [same] at ended
  | beside quiet before after settled =>
    rw [settled d silent] at unsettled
    cases unsettled

/-- Whoever cannot be serviced stays so. -/
theorem Turn.unserviceable (turn : Turn terms s a s') :
    s.phase = .unserviceable → a.restarts = false ∧ s'.phase = .unserviceable := by
  intro phase
  cases turn with
  | stays quiet same => exact ⟨quiet, same.trans phase⟩
  | restarts restarts able => simp [phase, Phase.isServicing, Phase.isAccepted] at able
  | givesUp limit d same serving => simp [phase] at serving
  | overruns same serving | leaves cause serving => simp [phase, Phase.isServicing] at serving
  | beside quiet before => exact absurd phase before.2

theorem Turn.refused (turn : Turn terms s a s') (refused : s'.phase = .unserviceable) :
    s.phase = .unserviceable ∨ deadline? terms s.now = none := by
  cases turn with
  | stays quiet same => exact Or.inl (same.symm.trans refused)
  | restarts restarts able begun => exact Or.inr (deadline_of_unserviceable (begun ▸ refused))
  | givesUp limit d same phase late inbox silence left =>
    rw [left] at refused
    cases refused
  | overruns same serving unread late => exact Or.inr late
  | leaves cause serving other left =>
    rw [left] at refused
    rcases leavingPhase_cases (γ := γ) s.now terms cause with ⟨_, limit, same⟩ | ⟨_, same⟩ <;>
      simp [same] at refused
  | beside quiet before after => exact absurd refused after.2

/-! Without interruption. -/

/-- Nothing but silence can end servicing. -/
structure Calm (s : Session α γ θ ρ) : Prop where
  stop : s.stop = none
  writer : s.outbox.writer.ending? = none
  jobs : ∀ t ∈ s.jobs, t.stage ≠ .ended .panicked
  inbox : ∀ x ∈ s.inbox, x.cause? = none

theorem Calm.opened (settings : CallSettings) (openedAt : Nat) (arguments : ConnectArguments α) :
    Calm (Session.opened settings openedAt arguments : Session α γ θ ρ) where
  stop := rfl
  writer := rfl
  jobs t member := by simp [Session.opened] at member
  inbox x member := by simp [Session.opened] at member

/-- A session whose outbox is closed has its outcome settled. -/
theorem Steady.isOpen (steady : Steady terms s) (unsettled : s.outlook? = none) :
    s.phase.isClosed = false := by
  cases phase : s.phase with
  | flushing cause =>
    rw [outlook_of_cause (by rw [phase]; rfl)] at unsettled
    cases cause with
    | stopped | closed | fault => cases unsettled
    | writerEnded =>
      have gone := steady.gone (by rw [phase]; rfl)
      rw [Writer.hasEnded, Option.map_eq_none_iff.mp unsettled] at gone
      cases gone
  | ended => simp [outlook?, phase] at unsettled
  | _ => rfl

theorem Effect.unsettled (effect : Effect terms s a s') (unsettled : s'.outlook? = none) :
    s.outlook? = none := by
  cases known : s.outlook? with
  | none => rfl
  | some outcome =>
    rw [effect.outlook known] at unsettled
    cases unsettled

/-- The jobs stay calm. -/
private theorem Calm.set (calm : Calm s) {i : Nat} {t : Job θ}
    (stage : t.stage ≠ .ended .panicked) : ∀ u ∈ s.jobs.set i t, u.stage ≠ .ended .panicked := by
  intro u member
  rcases List.mem_or_eq_of_mem_set member with before | rfl
  · exact calm.jobs u before
  · exact stage

theorem Calm.step (calm : Calm s) (steady : Steady terms s) (unsettled : s'.outlook? = none)
    (quiet : a.interrupts = false) (effect : Effect terms s a s') : Calm s' := by
  have isOpen := steady.isOpen (effect.unsettled unsettled)
  have behind : ∀ x rest, s.inbox = x :: rest → ∀ y ∈ rest, y.cause? = none := by
    intro x rest inbox y member
    exact calm.inbox y (inbox ▸ List.mem_cons_of_mem x member)
  cases effect with
  | control control =>
    cases control with
    | stop => cases quiet
    | _ => exact ⟨calm.stop, calm.writer, calm.jobs, calm.inbox⟩
  | finish | dismiss => cases unsettled
  | arrive x =>
    refine ⟨calm.stop, calm.writer, calm.jobs, List.forall_mem_append.mpr ⟨calm.inbox, ?_⟩⟩
    rw [List.forall_mem_singleton]
    cases x with
    | message | unclassified => rfl
    | fault | eof => cases quiet
  | accept limit payload rest phase inbox =>
    exact ⟨calm.stop, calm.writer, calm.jobs, behind _ rest inbox⟩
  | ignore x rest reading | hangUp x rest cause reading | pingRefused rest reading =>
    exact ⟨calm.stop, calm.writer, calm.jobs, behind _ rest reading.inbox⟩
  | ping rest outbox reading taken =>
    obtain ⟨_, rfl⟩ := Outbox.step_pong.mp taken
    exact ⟨calm.stop, calm.writer, calm.jobs, behind _ rest reading.inbox⟩
  | dispatch request rest outbox reading retained =>
    obtain ⟨_, rfl⟩ := Outbox.step_retain.mp retained
    refine ⟨calm.stop, calm.writer, List.forall_mem_append.mpr ⟨calm.jobs, ?_⟩,
      behind _ rest reading.inbox⟩
    simp
  | join i t job | joinPanicked i t limit job =>
    exact ⟨calm.stop, calm.writer, calm.set (calm.jobs t (List.mem_of_getElem? job)), calm.inbox⟩
  | flush cause outbox flushes left =>
    obtain ⟨_, rfl⟩ := Outbox.run_owners_leave.mp left
    exact ⟨calm.stop, calm.writer, calm.jobs, calm.inbox⟩
  | ask | start => exact ⟨calm.stop, calm.writer, calm.set (by simp [Job.withStage]), calm.inbox⟩
  | answer i t response outbox job running offered =>
    rw [← Outbox.step_offer offered]
    exact ⟨calm.stop, calm.writer, calm.set (by simp), calm.inbox⟩
  | place i t placed outbox job offering room left =>
    obtain ⟨_, m, _, rfl⟩ := Outbox.step_place.mp room
    obtain ⟨_, rfl⟩ := Outbox.run_sender_leaves.mp left
    exact ⟨calm.stop, calm.writer, calm.set (by simp [Job.withStage]), calm.inbox⟩
  | endJob i t how outbox job ends left =>
    obtain ⟨_, rfl⟩ := Outbox.run_sender_leaves.mp left
    have other : how ≠ .panicked := by
      rintro rfl
      cases ends with
      | panic => cases quiet
    exact ⟨calm.stop, calm.writer, calm.set (by simp [Job.withStage, other]), calm.inbox⟩
  | sink b outbox sunk work =>
    refine ⟨calm.stop, ?_, calm.jobs, calm.inbox⟩
    cases work with
    | pickPong | pickMessage | shut | wrote => rfl
    | broke b how m since writing broken =>
      cases broken <;> cases sunk <;> cases quiet
    | closed b how closing =>
      have closed := steady.tended.shutting (by simp [closing, Writer.isShutting])
      rw [isOpen] at closed
      cases closed

/-- While nothing interrupts, only silence can be pending. -/
theorem Calm.pending_eq (calm : Calm s) :
    s.pending terms = ((s.silent? terms s.now).map fun d => .failed (.silent d)).toList := by
  have failure : s.outbox.writer.failure? = none := by
    unfold Writer.failure?
    have lasts := calm.writer
    split <;> simp_all [Writer.ending?]
  have alarmed : s.alarmed = false := by
    refine List.any_eq_false.mpr fun t member => ?_
    simp [Job.alarms, calm.jobs t member]
  have inbox : s.inbox.findSome? (Inbound.ending? s.outbox.writer) = none := by
    refine List.findSome?_eq_none_iff.mpr fun x member => ?_
    have harmless := calm.inbox x member
    cases x with
    | eof | fault => cases harmless
    | unclassified => rfl
    | message m => cases m <;> simp [Inbound.ending?, calm.writer]
  simp [pending, outcomesOf, calm.stop, failure, alarmed, inbox]

/-- So servicing goes on, or is left for silence, unless the clock comes to its end. -/
theorem Calm.leaves (calm : Calm s) (steady : Steady terms s)
    (serving : s.phase.isServicing = true) (effect : Effect terms s a s') :
    s'.phase.isServicing = true ∨ s.Overrun terms s' ∨
      ∃ d, s.silent? terms s.now = some d ∧ s'.outlook? = some (.failed (.silent d)) := by
  rcases steady.leaves serving effect with serving' | overrun | ⟨outcome, first, settled⟩
  · exact Or.inl serving'
  · exact Or.inr (Or.inl overrun)
  · rw [calm.pending_eq] at first
    cases silent : s.silent? terms s.now with
    | none => simp [silent] at first
    | some d =>
      have same : outcome = .failed (.silent d) := by simpa [silent, eq_comm] using first
      exact Or.inr (Or.inr ⟨d, rfl, same ▸ settled⟩)

/-! Along a run. -/

theorem mem_noteArrival {arrived : List (Nat × Inbound γ θ)} {m : Nat × Inbound γ θ}
    (member : m ∈ noteArrival arrived s a) :
    m ∈ arrived ∨ (m.1 = s.now ∧ a.arrival? = some m.2) := by
  unfold noteArrival at member
  refine (List.mem_append.mp member).imp_right fun new => ?_
  obtain ⟨x, arrival, same⟩ := Option.map_eq_some_iff.mp (Option.mem_toList.mp new)
  rw [← same]
  exact ⟨rfl, arrival⟩

/-- What is known of a session that is watched, at every moment. -/
structure Watched (terms : Terms θ) (w : Watch γ θ) (s : Session α γ θ ρ) : Prop where
  steady : Steady terms s
  limit : ∀ limit, s.phase = .servicing limit →
    ∃ start, w.since = some start ∧ limit = silenceLimit terms start
  past : ∀ m ∈ w.arrived, m.1 ≤ s.now
  /-- What has been read had arrived before. -/
  heard : s.phase.isServicing = true → s.inbox = [] →
    ∀ start, w.since = some start → ∀ m ∈ w.arrived, m.1 ≤ start
  refused : s.phase = .unserviceable → deadline? terms s.now = none
  calm : w.interrupted = false → s.outlook? = none → Calm s
  attended : w.interrupted = false → w.since.isSome = true → s.phase.isServicing = true ∨
    s.phase = .unserviceable ∨ ∃ d, s.outlook? = some (.failed (.silent d))

theorem Watched.opened (settings : CallSettings) (openedAt : Nat)
    (arguments : ConnectArguments α) :
    Watched terms {} (Session.opened settings openedAt arguments : Session α γ θ ρ) where
  steady := .opened settings openedAt arguments
  limit limit phase := by cases phase
  past m member := by cases member
  heard serving := by cases serving
  refused phase := by cases phase
  calm _ _ := .opened settings openedAt arguments
  attended _ begun := by cases begun

theorem Watched.heard_step (watched : Watched terms w s) (turn : Turn terms s a s')
    (serving' : s'.phase.isServicing = true) (inbox' : s'.inbox = []) {start : Nat}
    (since' : (w.note s a).since = some start) : ∀ m ∈ (w.note s a).arrived, m.1 ≤ start := by
  obtain ⟨limit, phase'⟩ := Phase.servicing_of_isServicing serving'
  intro m member
  rcases turn.serving phase' with ⟨restarts, _⟩ | ⟨quiet, phase, inbox⟩
  · simp only [Watch.note, restarts, if_true, Option.some.injEq] at since'
    rcases mem_noteArrival member with before | ⟨now, _⟩
    · exact since' ▸ watched.past m before
    · exact Nat.le_of_eq (now.trans since')
  · rw [inbox, List.append_eq_nil_iff] at inbox'
    simp only [Watch.note, quiet, Bool.false_eq_true, if_false] at since'
    rcases mem_noteArrival member with before | ⟨_, arrival⟩
    · exact watched.heard (by rw [phase]; rfl) inbox'.1 start since' m before
    · simp [arrival] at inbox'

theorem Watched.attended_step (watched : Watched terms w s)
    (effect : Effect terms s a s') (uninterrupted : w.interrupted = false)
    (begun : (w.note s a).since.isSome = true) : s'.phase.isServicing = true ∨
      s'.phase = .unserviceable ∨ ∃ d, s'.outlook? = some (.failed (.silent d)) := by
  have turn := effect.turn
  have served : s.phase.isServicing = true → w.since.isSome = true := by
    intro serving
    obtain ⟨limit, phase⟩ := Phase.servicing_of_isServicing serving
    obtain ⟨start, since, _⟩ := watched.limit limit phase
    rw [since]
    rfl
  have goesOn : w.since.isSome = true → s'.phase.isServicing = true ∨
      s'.phase = .unserviceable ∨ ∃ d, s'.outlook? = some (.failed (.silent d)) := by
    intro before
    rcases watched.attended uninterrupted before with serving | stuck | ⟨d, settled⟩
    · obtain ⟨limit, phase⟩ := Phase.servicing_of_isServicing serving
      have calm := watched.calm uninterrupted (by simp [outlook?, phase])
      rcases calm.leaves watched.steady serving effect with serving' | overrun | ⟨d, _, left⟩
      · exact Or.inl serving'
      · exact Or.inr (Or.inl overrun.2)
      · exact Or.inr (Or.inr ⟨d, left⟩)
    · exact Or.inr (Or.inl (turn.unserviceable stuck).2)
    · exact Or.inr (Or.inr ⟨d, effect.outlook settled⟩)
  cases turn with
  | restarts restarts able begun' =>
    rw [begun']
    rcases servingPhase_cases (γ := γ) s.now terms with ⟨limit, same⟩ | same
    · exact Or.inl (by rw [same]; rfl)
    · exact Or.inr (Or.inl same)
  | stays quiet | beside quiet =>
    exact goesOn (by simpa [Watch.note, quiet] using begun)
  | givesUp limit d same phase => exact goesOn (served (by rw [phase]; rfl))
  | overruns same serving | leaves cause serving => exact goesOn (served serving)

theorem Watched.step (watched : Watched terms w s)
    (acted : s.act terms a = some s') : Watched terms (w.note s a) s' := by
  have effect := Effect.of_act acted
  have turn := effect.turn
  refine ⟨watched.steady.step effect, ?_, ?_, ?_, ?_, ?_, ?_⟩
  · intro limit phase'
    unfold Watch.note
    rcases turn.serving phase' with ⟨restarts, same⟩ | ⟨quiet, phase, _⟩
    · exact ⟨s.now, by simp [restarts], same⟩
    · simpa [quiet] using watched.limit limit phase
  · intro m member
    have later := effect.now_le
    rcases mem_noteArrival member with before | ⟨now, _⟩
    · exact Nat.le_trans (watched.past m before) later
    · exact now ▸ later
  · exact fun serving' inbox' start since' => watched.heard_step turn serving' inbox' since'
  · intro refused
    have late : deadline? terms s.now = none := by
      rcases turn.refused refused with stuck | late
      · exact watched.refused stuck
      · exact late
    exact deadline_eq_none_of_le late effect.now_le
  · intro uninterrupted unsettled'
    have unsettled := effect.unsettled unsettled'
    simp only [Watch.note, unsettled, Option.isNone_none, Bool.true_and, Bool.or_eq_false_iff]
      at uninterrupted
    have calm := watched.calm uninterrupted.1 unsettled
    exact calm.step watched.steady unsettled' uninterrupted.2 effect
  · intro uninterrupted
    simp only [Watch.note, Bool.or_eq_false_iff] at uninterrupted
    exact watched.attended_step effect uninterrupted.1

theorem Watched.of_run {openedAt : Nat} {arguments : ConnectArguments α}
    {actions : List (Action γ θ ρ)}
    (ran : (Session.opened terms.settings openedAt arguments).run terms actions = some s) :
    Watched terms ((Session.opened terms.settings openedAt arguments).watch terms actions) s :=
  Runs.noted_induction (fun _ => True) (fun _ _ _ _ _ watched acted => watched.step acted)
    (.opened terms.settings openedAt arguments) (fun _ _ => trivial) ran

/-- Every message that is read moves the limit. -/
theorem Steady.moves (steady : Steady terms s) {x : Inbound γ θ} {rest : List (Inbound γ θ)}
    (serving : s.phase.isServicing = true) (attentive : s.attentive = true)
    (inbox : s.inbox = x :: rest) (harmless : x.ending? s.outbox.writer = none)
    (timely : deadline? terms s.now ≠ none) :
    ∃ s', s.act terms (.move .read) = some s' ∧ s'.inbox = rest ∧
      s'.phase = .servicing (silenceLimit terms s.now) := by
  obtain ⟨limit, phase⟩ := Phase.servicing_of_isServicing serving
  have timely := Option.isSome_iff_ne_none.mpr timely
  obtain ⟨s', acted⟩ := Option.isSome_iff_exists.mp
    (steady.read_isSome phase attentive inbox (by simp [isOverdue, timely]))
  have same : ∀ {y : Inbound γ θ} {others : List (Inbound γ θ)}, Reading s y others →
      x = y ∧ rest = others := by
    intro y others reading
    exact List.cons.inj (inbox.symm.trans reading.inbox)
  refine ⟨s', acted, ?_⟩
  cases Effect.of_act acted with
  | ignore y others reading | ping others outbox reading | dispatch request others outbox reading =>
    exact ⟨(same reading).2.symm, servingPhase_eq timely⟩
  | hangUp y others cause reading ends =>
    obtain ⟨rfl, _⟩ := same reading
    unfold Inbound.cause? at ends
    split at ends <;> simp_all [Inbound.ending?]
  | pingRefused others reading refused =>
    obtain ⟨rfl, _⟩ := same reading
    have gone := steady.tended.refused reading.isOpen refused
    have unreported := Writer.failure_eq_none.mp (calm_of_attentive attentive).2.1
    simp only [Inbound.ending?, unreported, Bool.false_eq_true, if_false,
      Option.map_eq_none_iff] at harmless
    simp [Writer.hasEnded, harmless] at gone
  | control other | finish outcome other | flush cause outbox other
  | endJob i t how outbox job other | sink b outbox other => cases other

theorem Watched.listening (watched : Watched terms w s) : Listening terms w s := by
  refine ⟨?_, watched.limit, fun x rest => watched.steady.moves, ?_, ?_⟩
  · intro s' acted
    cases Effect.of_act acted with
    | control control =>
      cases control with
      | serve payload phase =>
        cases known : deadline? terms s.now with
        | some limit => exact Or.inl (servingPhase_eq (by rw [known]; rfl))
        | none => exact Or.inr ⟨by simp only [servingPhase, known], rfl⟩
    | finish outcome other | flush cause outbox other | endJob i t how outbox job other
    | sink b outbox other => cases other
  · intro limit limit' a s' phase acted phase' unread
    rcases (Effect.of_act acted).turn.serving phase' with ⟨restarts, _⟩ | ⟨_, before, _⟩
    · rcases Action.restarts_cases restarts with rfl | rfl
      · simp [act, receive, phase] at acted
      · exact absurd rfl unread
    · exact (Phase.servicing.inj (phase.symm.trans before)).symm
  · intro a s' d unsettled acted silent
    obtain ⟨_, silence, inbox, _, limit, phase, late⟩ :=
      (Effect.of_act acted).turn.silenced unsettled silent
    obtain ⟨start, since, rfl⟩ := watched.limit limit phase
    exact ⟨silence, inbox, start, since, late, watched.heard (by rw [phase]; rfl) inbox start since⟩

end Dialback.Session
