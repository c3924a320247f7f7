import Dialback.Session.Step
import Dialback.Proofs.Runs
import Dialback.Proofs.Session.Outbox

/-!
What each action does to a session, with the guard under which it may happen. Every invariant of a
session is proved from this one inversion (`Effect.of_act`); later proofs open the step function only
to show that an action is enabled.
-/
namespace Dialback.Session

variable {α γ θ ρ : Type}

theorem finish_eq (s : Session α γ θ ρ) (outcome : Outcome) :
    s.finish outcome = { s with phase := .ended outcome s.now, outbox := s.outbox.dropped } := by
  simp only [finish, Outbox.step_drop_getD]

/-- How the first message ends the session, unless it is an accepted connect response. -/
def dismissal? : Inbound γ θ → Option Outcome
  | .message (.connectResponse (.accepted _)) => none
  | .message (.connectResponse (.refused failure)) => some (.failed (.refused failure))
  | .message .ping | .message (.request _) | .unclassified | .eof =>
    some (.failed .noConnectResponse)
  | .fault fault => some (.failed (.transport fault))

/-- How what has arrived ends servicing, if it does. -/
def Inbound.cause? : Inbound γ θ → Option Cause
  | .eof => some .closed
  | .fault reason => some (.fault (.transport reason))
  | _ => none

/-- Nothing needs to be done about it while servicing. -/
def Inbound.isIdle : Inbound γ θ → Bool
  | .unclassified | .message (.connectResponse _) => true
  | _ => false

/-- Steps that touch nothing but the clock, the signals and the phase. -/
inductive Control (terms : Terms θ) (s : Session α γ θ ρ) :
    Action γ θ ρ → Session α γ θ ρ → Prop
  | stop (unset : s.stop = none) : Control terms s (.event .stop) { s with stop := some s.now }
  | cancel (unset : s.cancel = none) :
      Control terms s (.event .cancel) { s with cancel := some s.now }
  | elapse (time : Nat) (later : s.now < time) :
      Control terms s (.event (.elapse time)) { s with now := time }
  | introduced (phase : s.phase = .introducing) :
      Control terms s (.event .introduced) { s with
        introduced := some s.now
        phase := .connecting (s.now + terms.settings.connectTimeoutMs.toNat) }
  | serve (payload : γ) (phase : s.phase = .accepted payload) :
      Control terms s (.event .serve) { s with phase := servingPhase s.now terms }
  | heedStop (limit : Nat) (phase : s.phase = .servicing limit) (stopped : s.stop.isSome = true) :
      Control terms s (.move .heedStop) { s with phase := leavingPhase s.now terms .stopped }
  | heedWriter (limit : Nat) (phase : s.phase = .servicing limit) (unstopped : s.stop = none)
      (failed : s.outbox.writer.reportsFailure = true) :
      Control terms s (.move .heedWriter) { s with phase := leavingPhase s.now terms .writerEnded }
  | giveUpServicing (limit : Nat) (d : Duration) (phase : s.phase = .servicing limit)
      (inbox : s.inbox = []) (silence : terms.settings.pingTimeout? = some d)
      (attentive : s.attentive = true) (late : limit ≤ s.now) :
      Control terms s (.move .giveUpServicing)
        { s with phase := leavingPhase s.now terms (.fault (.silent d)) }
  | overrun (limit : Nat) (x : Inbound γ θ) (rest : List (Inbound γ θ))
      (phase : s.phase = .servicing limit) (inbox : s.inbox = x :: rest)
      (attentive : s.attentive = true) (message : x.isMessage = true)
      (late : deadline? terms s.now = none) :
      Control terms s (.move .overrun) { s with phase := .unserviceable }
  | drainOver (cause : Cause) (limit : Nat) (phase : s.phase = .draining cause limit)
      (unfinished : s.allJoined = false) (noticed : s.hasUnnoticed = false) (late : limit ≤ s.now) :
      Control terms s (.move .drainOver) { s with phase := .aborting cause }

/-- How a session ends, the dismissal by its first message apart. -/
inductive Ends (s : Session α γ θ ρ) : Action γ θ ρ → Outcome → Prop
  | introductionFailed (fault : TransportFault) (phase : s.phase = .introducing) :
      Ends s (.event (.introductionFailed fault)) (.failed (.transport fault))
  | cancelConnect (limit : Nat) (phase : s.phase = .connecting limit)
      (cancelled : s.cancel.isSome = true) : Ends s (.move .cancelConnect) .cancelled
  | giveUpConnecting (limit : Nat) (phase : s.phase = .connecting limit) (inbox : s.inbox = [])
      (uncancelled : s.cancel = none) (late : limit ≤ s.now) :
      Ends s (.move .giveUpConnecting) (.failed .noConnectResponse)
  | aborted (fault : CallFault) (phase : s.phase = .aborting (.fault fault))
      (joined : s.allJoined = true) : Ends s (.move .aborted) (.failed fault)
  | settle (cause : Cause) (how : WriterEnd) (phase : s.phase = .flushing cause)
      (ended : s.outbox.writer.ending? = some how) : Ends s (.move .settle) (outcomeOf cause how)

/-- When the outbound side is closed and what is queued is flushed. -/
inductive Flushes (s : Session α γ θ ρ) : Action γ θ ρ → Cause → Prop
  | drained (cause : Cause) (limit : Nat) (phase : s.phase = .draining cause limit)
      (joined : s.allJoined = true) : Flushes s (.move .drained) cause
  | aborted (cause : Cause) (phase : s.phase = .aborting cause)
      (reported : ∀ fault, cause ≠ .fault fault) (joined : s.allJoined = true) :
      Flushes s (.move .aborted) cause

theorem Job.hasEnded_of_stage {t : Job θ} {stage : Stage} (known : t.stage = stage) :
    t.hasEnded = stage.isEnded := by
  rw [Job.hasEnded, known]

/-- How a job ends without having queued its response. -/
inductive JobEnds (s : Session α γ θ ρ) (i : Nat) (t : Job θ) : Action γ θ ρ → JobEnd → Prop
  | refuse (offering : t.stage = .offering)
      (gone : s.outbox.writer.hasEnded = true) : JobEnds s i t (.move (.refuse i)) .refused
  | panic (running : t.stage = .running) :
      JobEnds s i t (.event (.panic i)) .panicked
  | abort (torn : s.phase.isAborting = true) (live : t.hasEnded = false) :
      JobEnds s i t (.move (.abort i)) .aborted

/-- A job ends once. -/
theorem JobEnds.lasts {s : Session α γ θ ρ} {i : Nat} {t : Job θ} {a : Action γ θ ρ} {how : JobEnd}
    (ends : JobEnds s i t a how) : t.hasEnded = false := by
  cases ends with
  | refuse offering => exact Job.hasEnded_of_stage offering
  | panic running => exact Job.hasEnded_of_stage running
  | abort torn live => exact live

/-- When the serving loop takes what has arrived first. -/
structure Reading (s : Session α γ θ ρ) (x : Inbound γ θ) (rest : List (Inbound γ θ)) : Prop where
  serving : ∃ limit, s.phase = .servicing limit
  inbox : s.inbox = x :: rest
  attentive : s.attentive = true

/-- The phases in which the end of a job is merely noticed, if it was no panic. -/
inductive Joining (s : Session α γ θ ρ) (t : Job θ) : Prop
  | servicing (limit : Nat) (phase : s.phase = .servicing limit)
      (undisturbed : s.undisturbed = true) (calm : t.stage ≠ .ended .panicked) : Joining s t
  | draining (cause : Cause) (limit : Nat) (phase : s.phase = .draining cause limit) : Joining s t
  | aborting (cause : Cause) (phase : s.phase = .aborting cause) : Joining s t

/-- The permits after the end of a job at a stage. -/
def permitsAfter (s : Session α γ θ ρ) (i : Nat) (stage : Stage) : Permits :=
  if stage.holdsPermit then (s.permits.withdraw i).giveBack else s.permits.withdraw i

/-- The writer's part in what happens. -/
inductive Sinks (now : Nat) : Action γ θ ρ → Outbox.Action (ClientMessage α ρ) → Prop
  | pick : Sinks now (.move .pick) (.pick now)
  | wrote : Sinks now (.event .wrote) (.wrote now)
  | writeFailed (fault : TransportFault) :
      Sinks now (.event (.writeFailed fault)) (.writeFailed fault)
  | writerCrashed : Sinks now (.event .writerCrashed) .crashed
  | closed : Sinks now (.event .closed) (.closed now)
  | closeFailed (fault : TransportFault) :
      Sinks now (.event (.closeFailed fault)) (.closeFailed fault)

inductive Effect (terms : Terms θ) (s : Session α γ θ ρ) :
    Action γ θ ρ → Session α γ θ ρ → Prop
  | control {a : Action γ θ ρ} {s' : Session α γ θ ρ} (control : Control terms s a s') :
      Effect terms s a s'
  | finish {a : Action γ θ ρ} (outcome : Outcome) (ends : Ends s a outcome) :
      Effect terms s a { s with phase := .ended outcome s.now, outbox := s.outbox.dropped }
  | arrive (x : Inbound γ θ) :
      Effect terms s (.event (.arrive x)) { s with inbox := s.inbox ++ [x] }
  | accept (limit : Nat) (payload : γ) (rest : List (Inbound γ θ))
      (phase : s.phase = .connecting limit)
      (inbox : s.inbox = .message (.connectResponse (.accepted payload)) :: rest)
      (uncancelled : s.cancel = none) :
      Effect terms s (.move .readFirst) { s with
        inbox := rest, phase := .accepted payload, welcome := some (s.now, payload) }
  | dismiss (limit : Nat) (x : Inbound γ θ) (rest : List (Inbound γ θ)) (outcome : Outcome)
      (phase : s.phase = .connecting limit) (inbox : s.inbox = x :: rest)
      (uncancelled : s.cancel = none) (dismissal : dismissal? x = some outcome) :
      Effect terms s (.move .readFirst) { s with
        inbox := rest, phase := .ended outcome s.now, outbox := s.outbox.dropped }
  | ignore (x : Inbound γ θ) (rest : List (Inbound γ θ)) (reading : Reading s x rest)
      (idle : x.isIdle = true) (timely : (deadline? terms s.now).isSome = true) :
      Effect terms s (.move .read) { s with inbox := rest, phase := servingPhase s.now terms }
  | hangUp (x : Inbound γ θ) (rest : List (Inbound γ θ)) (cause : Cause)
      (reading : Reading s x rest) (ends : x.cause? = some cause) :
      Effect terms s (.move .read)
        { s with inbox := rest, phase := leavingPhase s.now terms cause }
  | ping (rest : List (Inbound γ θ)) (outbox : Outbox (ClientMessage α ρ))
      (reading : Reading s (.message .ping) rest)
      (taken : s.outbox.step (.pong .pong) = some outbox)
      (timely : (deadline? terms s.now).isSome = true) :
      Effect terms s (.move .read) { s with
        inbox := rest, phase := servingPhase s.now terms, pings := s.pings + 1, outbox }
  | pingRefused (rest : List (Inbound γ θ)) (reading : Reading s (.message .ping) rest)
      (refused : s.outbox.step (.pong .pong) = none) :
      Effect terms s (.move .read) { s with
        inbox := rest, phase := leavingPhase s.now terms .writerEnded, pings := s.pings + 1 }
  | dispatch (request : Request θ) (rest : List (Inbound γ θ))
      (outbox : Outbox (ClientMessage α ρ)) (reading : Reading s (.message (.request request)) rest)
      (retained : s.outbox.step .retain = some outbox)
      (timely : (deadline? terms s.now).isSome = true) :
      Effect terms s (.move .read) { s with
        inbox := rest
        phase := servingPhase s.now terms
        outbox
        lanes := (s.lanes.sweep terms.laneLimit s.finished).assign (terms.partitionOf request)
          s.jobs.length
        jobs := s.jobs ++ [{
          request
          partition := terms.partitionOf request
          behind := (s.lanes.sweep terms.laneLimit s.finished).latest?
            (terms.partitionOf request) }] }
  | join (i : Nat) (t : Job θ) (job : s.jobs[i]? = some t) (unnoticed : t.unnoticed = true)
      (joining : Joining s t) :
      Effect terms s (.move (.join i)) { s with jobs := s.jobs.set i { t with joined := true } }
  | joinPanicked (i : Nat) (t : Job θ) (limit : Nat) (job : s.jobs[i]? = some t)
      (unnoticed : t.unnoticed = true) (phase : s.phase = .servicing limit)
      (undisturbed : s.undisturbed = true) (panicked : t.stage = .ended .panicked) :
      Effect terms s (.move (.join i)) { s with
        jobs := s.jobs.set i { t with joined := true }
        phase := leavingPhase s.now terms (.fault .handlerPanicked) }
  | flush {a : Action γ θ ρ} (cause : Cause) (outbox : Outbox (ClientMessage α ρ))
      (flushes : Flushes s a cause)
      (left : s.outbox.run [.closePongs, .release, .release] = some outbox) :
      Effect terms s a { s with phase := .flushing cause, outbox }
  | ask (i : Nat) (t : Job θ) (job : s.jobs[i]? = some t) (waiting : t.stage = .waiting)
      (released : s.released t = true) :
      Effect terms s (.move (.ask i)) { s with
        jobs := s.jobs.set i (t.withStage .inLine), permits := s.permits.ask i }
  | start (i : Nat) (t : Job θ) (permits : Permits) (job : s.jobs[i]? = some t)
      (inLine : t.stage = .inLine) (entered : s.permits.enter? i = some permits) :
      Effect terms s (.move (.start i)) { s with
        jobs := s.jobs.set i { t with stage := .running, started := some s.now }, permits }
  | answer (i : Nat) (t : Job θ) (response : Response ρ) (outbox : Outbox (ClientMessage α ρ))
      (job : s.jobs[i]? = some t) (running : t.stage = .running)
      (offered : s.outbox.step (.offer i (.response (response.withContext t.request.context))) =
        some outbox) :
      Effect terms s (.event (.answer i response)) { s with
        jobs := s.jobs.set i { t with stage := .offering, answered := some s.now }, outbox }
  | place (i : Nat) (t : Job θ) (placed outbox : Outbox (ClientMessage α ρ))
      (job : s.jobs[i]? = some t) (offering : t.stage = .offering)
      (room : s.outbox.step (.place i) = some placed)
      (left : placed.run [.withdraw i, .release] = some outbox) :
      Effect terms s (.move (.place i)) { s with
        jobs := s.jobs.set i (t.withStage (.ended .queued)), outbox
        permits := s.permitsAfter i t.stage }
  | endJob {a : Action γ θ ρ} (i : Nat) (t : Job θ) (how : JobEnd)
      (outbox : Outbox (ClientMessage α ρ)) (job : s.jobs[i]? = some t) (ends : JobEnds s i t a how)
      (left : s.outbox.run [.withdraw i, .release] = some outbox) :
      Effect terms s a { s with
        jobs := s.jobs.set i (t.withStage (.ended how)), outbox
        permits := s.permitsAfter i t.stage }
  | sink {a : Action γ θ ρ} (b : Outbox.Action (ClientMessage α ρ))
      (outbox : Outbox (ClientMessage α ρ)) (sunk : Sinks s.now a b)
      (work : s.outbox.Work b outbox) : Effect terms s a { s with outbox }

variable {terms : Terms θ} {s s' : Session α γ θ ρ}

theorem guarded {σ : Type} {p : Prop} [Decidable p] {next : Unit → Option σ} {x : σ}
    (passed : (guard p >>= next) = some x) : p ∧ next () = some x := by
  by_cases held : p
  · rw [guard, if_pos held] at passed
    exact ⟨held, passed⟩
  · rw [guard, if_neg held] at passed
    cases passed

theorem endJob_cases {i : Nat} {t : Job θ} {how : JobEnd}
    (ended : s.endJob? i t how = some s') :
    ∃ outbox, s.outbox.run [.withdraw i, .release] = some outbox ∧
      { s with
        jobs := s.jobs.set i (t.withStage (.ended how)), outbox
        permits := s.permitsAfter i t.stage } = s' := by
  unfold endJob? at ended
  obtain ⟨outbox, left, same⟩ := Option.bind_eq_some_iff.mp ended
  exact ⟨outbox, left, Option.some.inj same⟩

private theorem onFirst_cases (x : Inbound γ θ) :
    (∃ payload, x = .message (.connectResponse (.accepted payload)) ∧
      s.onFirst x = { s with phase := .accepted payload, welcome := some (s.now, payload) }) ∨
    ∃ outcome, dismissal? x = some outcome ∧
      s.onFirst x = { s with phase := .ended outcome s.now, outbox := s.outbox.dropped } := by
  unfold onFirst dismissal?
  split
  case h_1 payload => exact Or.inl ⟨payload, rfl, rfl⟩
  all_goals exact Or.inr ⟨_, rfl, finish_eq s _⟩

private theorem Effect.of_read (read : s.read? terms = some s') :
    Effect terms s (.move .read) s' := by
  unfold read? at read
  split at read
  case h_1 limit x rest phase inbox =>
    split at read
    case isTrue => cases read
    case isFalse heedful =>
      simp only [Bool.or_eq_true, not_or, Bool.not_eq_true, Bool.not_eq_false'] at heedful
      have reading : Reading s x rest := ⟨⟨limit, phase⟩, inbox, heedful.1⟩
      have timely : x.isMessage = true → (deadline? terms s.now).isSome = true := by
        intro message
        simpa [isOverdue, message] using heedful.2
      simp only at read
      split at read
      case h_1 =>
        cases read
        exact .hangUp _ rest _ reading rfl
      case h_2 fault =>
        cases read
        exact .hangUp _ rest _ reading rfl
      case h_3 =>
        cases read
        exact .ignore _ rest reading rfl (timely rfl)
      case h_4 response =>
        cases read
        exact .ignore _ rest reading rfl (timely rfl)
      case h_5 =>
        split at read
        case h_1 outbox taken =>
          cases read
          exact .ping rest outbox reading taken (timely rfl)
        case h_2 refused =>
          cases read
          exact .pingRefused rest reading refused
      case h_6 request =>
        obtain ⟨dispatched, taken, same⟩ := Option.map_eq_some_iff.mp read
        obtain ⟨outbox, retained, known⟩ := Option.bind_eq_some_iff.mp taken
        cases known
        cases same
        exact .dispatch request rest outbox reading retained (timely rfl)
  case h_2 => cases read

private theorem Effect.of_join {i : Nat} (acted : s.onJob? i (s.join? terms) = some s') :
    Effect terms s (.move (.join i)) s' := by
  unfold onJob? at acted
  obtain ⟨t, job, joined⟩ := Option.bind_eq_some_iff.mp acted
  obtain ⟨unnoticed, joined⟩ := guarded joined
  dsimp only at joined
  split at joined
  case h_1 limit phase =>
    obtain ⟨undisturbed, joined⟩ := guarded joined
    split at joined
    case isTrue panicked =>
      cases joined
      exact .joinPanicked i t limit job unnoticed phase undisturbed panicked
    case isFalse calm =>
      cases joined
      exact .join i t job unnoticed (.servicing limit phase undisturbed calm)
  case h_2 cause limit phase =>
    cases joined
    exact .join i t job unnoticed (.draining cause limit phase)
  case h_3 cause phase =>
    cases joined
    exact .join i t job unnoticed (.aborting cause phase)
  case h_4 => cases joined

private theorem Effect.of_jobMove {i : Nat} :
    (s.onJob? i s.ask? = some s' → Effect terms s (.move (.ask i)) s') ∧
    (s.onJob? i s.start? = some s' → Effect terms s (.move (.start i)) s') ∧
    (s.onJob? i s.place? = some s' → Effect terms s (.move (.place i)) s') ∧
    (s.onJob? i s.refuse? = some s' → Effect terms s (.move (.refuse i)) s') := by
  refine ⟨?_, ?_, ?_, ?_⟩
  · intro acted
    obtain ⟨t, job, asked⟩ := Option.bind_eq_some_iff.mp acted
    unfold ask? at asked
    split at asked
    case isTrue able =>
      cases asked
      exact .ask i t job able.1 able.2
    case isFalse => cases asked
  · intro acted
    obtain ⟨t, job, started⟩ := Option.bind_eq_some_iff.mp acted
    obtain ⟨inLine, started⟩ := guarded started
    obtain ⟨permits, entered, same⟩ := Option.bind_eq_some_iff.mp started
    cases same
    exact .start i t permits job inLine entered
  · intro acted
    obtain ⟨t, job, placed⟩ := Option.bind_eq_some_iff.mp acted
    obtain ⟨offering, placed⟩ := guarded placed
    obtain ⟨outbox, room, ended⟩ := Option.bind_eq_some_iff.mp placed
    obtain ⟨final, left, same⟩ := endJob_cases ended
    cases same
    exact .place i t outbox final job offering room left
  · intro acted
    obtain ⟨t, job, refused⟩ := Option.bind_eq_some_iff.mp acted
    obtain ⟨able, ended⟩ := guarded refused
    obtain ⟨outbox, left, same⟩ := endJob_cases ended
    cases same
    exact .endJob i t .refused outbox job (.refuse able.1 able.2) left

private theorem Effect.of_sink {a : Action γ θ ρ} {b : Outbox.Action (ClientMessage α ρ)}
    (sunk : Sinks s.now a b) (writers : b.byWriter = true) (acted : s.sink b = some s') :
    Effect terms s a s' := by
  obtain ⟨outbox, stepped, same⟩ := Option.map_eq_some_iff.mp acted
  cases same
  exact .sink b outbox sunk (.of_step writers stepped)

private theorem Effect.of_advance {m : Move} (acted : s.advance terms m = some s') :
    Effect terms s (.move m) s' := by
  cases m with
  | cancelConnect =>
    simp only [advance] at acted
    split at acted
    case h_1 limit phase =>
      split at acted
      case isTrue cancelled =>
        cases acted
        rw [finish_eq]
        exact .finish _ (.cancelConnect limit phase cancelled)
      case isFalse => cases acted
    case h_2 => cases acted
  | readFirst =>
    simp only [advance] at acted
    split at acted
    case h_1 limit x rest phase inbox =>
      split at acted
      case isTrue => cases acted
      case isFalse uncancelled =>
        have uncancelled : s.cancel = none := by simpa using uncancelled
        cases acted
        rcases onFirst_cases (s := { s with inbox := rest }) x with
          ⟨payload, rfl, same⟩ | ⟨outcome, dismissal, same⟩
        · rw [same]
          exact .accept limit payload rest phase inbox uncancelled
        · rw [same]
          exact .dismiss limit x rest outcome phase inbox uncancelled dismissal
    case h_2 => cases acted
  | giveUpConnecting =>
    simp only [advance] at acted
    split at acted
    case h_1 limit phase inbox =>
      split at acted
      case isTrue late =>
        cases acted
        simp only [Bool.and_eq_true, Option.isNone_iff_eq_none, decide_eq_true_eq] at late
        rw [fail, finish_eq]
        exact .finish _ (.giveUpConnecting limit phase inbox late.1 late.2)
      case isFalse => cases acted
    case h_2 => cases acted
  | heedStop =>
    simp only [advance] at acted
    split at acted
    case h_1 limit phase =>
      split at acted
      case isTrue stopped =>
        cases acted
        exact .control (.heedStop limit phase stopped)
      case isFalse => cases acted
    case h_2 => cases acted
  | heedWriter =>
    simp only [advance] at acted
    split at acted
    case h_1 limit phase =>
      split at acted
      case isTrue able =>
        cases acted
        simp only [Bool.and_eq_true, Option.isNone_iff_eq_none] at able
        exact .control (.heedWriter limit phase able.1 able.2)
      case isFalse => cases acted
    case h_2 => cases acted
  | join i => exact .of_join acted
  | read => exact .of_read acted
  | overrun =>
    simp only [advance] at acted
    split at acted
    case h_1 limit x rest phase inbox =>
      split at acted
      case isTrue able =>
        cases acted
        simp only [isOverdue, Bool.and_eq_true, Option.isNone_iff_eq_none] at able
        exact .control (.overrun limit x rest phase inbox able.1 able.2.1 able.2.2)
      case isFalse => cases acted
    case h_2 => cases acted
  | giveUpServicing =>
    simp only [advance] at acted
    split at acted
    case h_1 limit phase inbox =>
      split at acted
      case isTrue able =>
        obtain ⟨d, silence, same⟩ := Option.map_eq_some_iff.mp acted
        cases same
        simp only [Bool.and_eq_true, decide_eq_true_eq] at able
        exact .control (.giveUpServicing limit d phase inbox silence able.1 able.2)
      case isFalse => cases acted
    case h_2 => cases acted
  | drained =>
    simp only [advance] at acted
    split at acted
    case h_1 cause limit phase =>
      split at acted
      case isTrue joined =>
        obtain ⟨outbox, left, same⟩ := Option.bind_eq_some_iff.mp acted
        cases same
        exact .flush cause outbox (.drained cause limit phase joined) left
      case isFalse => cases acted
    case h_2 => cases acted
  | drainOver =>
    simp only [advance] at acted
    split at acted
    case h_1 cause limit phase =>
      split at acted
      case isTrue able =>
        cases acted
        simp only [Bool.and_eq_true, Bool.not_eq_true', decide_eq_true_eq] at able
        exact .control (.drainOver cause limit phase able.1.1 able.1.2 able.2)
      case isFalse => cases acted
    case h_2 => cases acted
  | abort i =>
    simp only [advance, onJob?] at acted
    split at acted
    case isTrue torn =>
      obtain ⟨t, job, ended⟩ := Option.bind_eq_some_iff.mp acted
      split at ended
      case isTrue => cases ended
      case isFalse live =>
        obtain ⟨outbox, left, same⟩ := endJob_cases ended
        cases same
        exact .endJob i t .aborted outbox job (.abort torn (by simpa using live)) left
    case isFalse => cases acted
  | aborted =>
    simp only [advance] at acted
    split at acted
    case h_1 cause phase =>
      split at acted
      case isTrue => cases acted
      case isFalse joined =>
        have joined : s.allJoined = true := by simpa using joined
        split at acted
        case h_1 fault =>
          cases acted
          rw [fail, finish_eq]
          exact .finish _ (.aborted fault phase joined)
        case h_2 reported =>
          obtain ⟨outbox, left, same⟩ := Option.bind_eq_some_iff.mp acted
          cases same
          exact .flush cause outbox (.aborted cause phase reported joined) left
    case h_2 => cases acted
  | settle =>
    simp only [advance] at acted
    split at acted
    case h_1 cause how phase ended =>
      cases acted
      rw [finish_eq]
      exact .finish _ (.settle cause how phase ended)
    case h_2 => cases acted
  | ask i => exact Effect.of_jobMove.1 acted
  | start i => exact Effect.of_jobMove.2.1 acted
  | place i => exact Effect.of_jobMove.2.2.1 acted
  | refuse i => exact Effect.of_jobMove.2.2.2 acted
  | pick => exact .of_sink .pick rfl acted

private theorem Effect.of_receive {e : Event γ θ ρ} (received : s.receive terms e = some s') :
    Effect terms s (.event e) s' := by
  cases e with
  | arrive x =>
    cases received
    exact .arrive x
  | stop =>
    simp only [receive] at received
    split at received
    case isTrue unset =>
      cases received
      exact .control (.stop (by simpa using unset))
    case isFalse => cases received
  | cancel =>
    simp only [receive] at received
    split at received
    case isTrue unset =>
      cases received
      exact .control (.cancel (by simpa using unset))
    case isFalse => cases received
  | introduced =>
    simp only [receive] at received
    split at received
    case h_1 phase =>
      cases received
      exact .control (.introduced phase)
    case h_2 => cases received
  | introductionFailed fault =>
    simp only [receive] at received
    split at received
    case h_1 phase =>
      cases received
      rw [fail, finish_eq]
      exact .finish _ (.introductionFailed fault phase)
    case h_2 => cases received
  | serve =>
    simp only [receive] at received
    split at received
    case h_1 payload phase =>
      cases received
      exact .control (.serve payload phase)
    case h_2 => cases received
  | answer i response =>
    obtain ⟨t, job, answered⟩ := Option.bind_eq_some_iff.mp received
    obtain ⟨running, answered⟩ := guarded answered
    obtain ⟨outbox, offered, same⟩ := Option.bind_eq_some_iff.mp answered
    cases same
    exact .answer i t response outbox job running offered
  | panic i =>
    obtain ⟨t, job, panicked⟩ := Option.bind_eq_some_iff.mp received
    dsimp only at panicked
    split at panicked
    case isTrue running =>
      obtain ⟨outbox, left, same⟩ := endJob_cases panicked
      cases same
      exact .endJob i t .panicked outbox job (.panic running) left
    case isFalse => cases panicked
  | wrote => exact .of_sink .wrote rfl received
  | writeFailed fault => exact .of_sink (.writeFailed fault) rfl received
  | writerCrashed => exact .of_sink .writerCrashed rfl received
  | closed => exact .of_sink .closed rfl received
  | closeFailed fault => exact .of_sink (.closeFailed fault) rfl received
  | elapse time =>
    simp only [receive] at received
    split at received
    case isTrue later =>
      cases received
      exact .control (.elapse time later)
    case isFalse => cases received

theorem Effect.of_act {a : Action γ θ ρ} (acted : s.act terms a = some s') :
    Effect terms s a s' := by
  cases a with
  | move m => exact .of_advance acted
  | event e => exact .of_receive acted

/-- Only the serving loop reads. -/
theorem Effect.reading (effect : Effect terms s (.move .read) s') : ∃ x rest, Reading s x rest := by
  cases effect with
  | ignore x rest reading | hangUp x rest cause reading => exact ⟨x, rest, reading⟩
  | ping rest outbox reading | pingRefused rest reading | dispatch request rest outbox reading =>
    exact ⟨_, rest, reading⟩
  | control control => cases control
  | finish outcome ends => cases ends
  | flush cause outbox flushes => cases flushes
  | endJob i t how outbox job ends => cases ends
  | sink b outbox sunk => cases sunk

end Dialback.Session
