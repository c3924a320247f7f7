import Dialback.Proofs.Session.Log

/-!
The inbound side of a session. What arrives is read in order, nothing twice and nothing left out;
every ping that is served is counted, and every request that is served becomes a job of its own.
-/
namespace Dialback.Session

variable {α γ θ ρ : Type}

/-- Nothing has been read yet. -/
def Phase.isEarly : Phase γ → Bool
  | introducing | connecting _ => true
  | _ => false

def Phase.isEnded : Phase γ → Bool
  | ended _ _ => true
  | _ => false

theorem deadline_eq_some {terms : Terms θ} {now limit : Nat} :
    deadline? terms now = some limit ↔ hasRoom terms.settings = true ∧
      ∃ d, terms.settings.pingTimeout? = some d ∧
        terms.epoch + now + d.ticks < clockLimit ∧ now + d.ticks = limit := by
  simp [deadline?, guard, Option.bind_eq_some_iff]

/-- The clock does not run backwards. -/
theorem deadline_eq_none_of_le {terms : Terms θ} {now later : Nat} (none : deadline? terms now = none)
    (le : now ≤ later) : deadline? terms later = .none := by
  by_contra known
  obtain ⟨limit, known⟩ := Option.ne_none_iff_exists'.mp known
  obtain ⟨room, d, span, short, _⟩ := deadline_eq_some.mp known
  have known' : deadline? terms now = some (now + d.ticks) :=
    deadline_eq_some.mpr ⟨room, d, span, by omega, rfl⟩
  rw [none] at known'
  cases known'

/-- A limit that the clock can show is set. -/
theorem servingPhase_of_timely {terms : Terms θ} {now : Nat}
    (timely : (deadline? terms now).isSome = true) :
    ∃ limit, servingPhase now terms = (.servicing limit : Phase γ) := by
  obtain ⟨limit, known⟩ := Option.isSome_iff_exists.mp timely
  exact ⟨limit, by simp only [servingPhase, known]⟩

theorem servingPhase_cases (now : Nat) (terms : Terms θ) :
    (∃ limit, servingPhase now terms = (.servicing limit : Phase γ)) ∨
      servingPhase now terms = (.unserviceable : Phase γ) := by
  unfold servingPhase
  split
  · exact Or.inl ⟨_, rfl⟩
  · exact Or.inr rfl

theorem leavingPhase_cases (now : Nat) (terms : Terms θ) (cause : Cause) :
    (cause.isGraceful = true ∧
        ∃ limit, leavingPhase now terms cause = (.draining cause limit : Phase γ)) ∨
      (cause.isGraceful = false ∧ leavingPhase now terms cause = (.aborting cause : Phase γ)) := by
  unfold leavingPhase
  cases cause.isGraceful <;> simp

@[simp] theorem servingPhase_isEarly (now : Nat) (terms : Terms θ) :
    (servingPhase now terms : Phase γ).isEarly = false := by
  rcases servingPhase_cases (γ := γ) now terms with ⟨limit, phase⟩ | phase <;>
    simp [phase, Phase.isEarly]

@[simp] theorem leavingPhase_isEarly (now : Nat) (terms : Terms θ) (cause : Cause) :
    (leavingPhase now terms cause : Phase γ).isEarly = false := by
  rcases leavingPhase_cases (γ := γ) now terms cause with ⟨_, limit, phase⟩ | ⟨_, phase⟩ <;>
    simp [phase, Phase.isEarly]

theorem Reading.note {l : Log γ θ ρ} {s : Session α γ θ ρ} {x : Inbound γ θ}
    {rest : List (Inbound γ θ)} (reading : Reading s x rest) :
    l.note s (.move .read) = { l with read := l.read ++ [x] } := by
  simp [Log.note, reading.inbox]

/-- Log and session agree on the inbound side. -/
structure Heard (l : Log γ θ ρ) (s : Session α γ θ ρ) : Prop where
  arrived : l.arrived = l.read ++ s.inbox
  requests : s.jobs.map Job.request = l.requests
  pings : s.pings = l.pings
  early : s.phase.isEarly = true → l.read = []
  connected : s.phase.isEarly = false → s.phase.isEnded = false → l.IsConnected
  welcomed : s.welcome.isSome = true → l.IsConnected

variable {l : Log γ θ ρ} {s s' : Session α γ θ ρ} {terms : Terms θ} {a : Action γ θ ρ}

theorem Heard.opened (settings : CallSettings) (openedAt : Nat) (arguments : ConnectArguments α) :
    Heard {} (Session.opened settings openedAt arguments : Session α γ θ ρ) where
  arrived := rfl
  requests := rfl
  pings := rfl
  early _ := rfl
  connected late := by simp [Session.opened, Phase.isEarly] at late
  welcomed met := by simp [Session.opened] at met

private theorem Heard.relog {l' : Log γ θ ρ} (heard : Heard l s) (arrived : l'.arrived = l.arrived)
    (read : l'.read = l.read) : Heard l' s := by
  have served : l'.served = l.served := by rw [Log.served, Log.served, read]
  constructor
  case arrived => rw [arrived, read, heard.arrived]
  case requests => rw [heard.requests, Log.requests, Log.requests, served]
  case pings => rw [heard.pings, Log.pings, Log.pings, served]
  case early =>
    rw [read]
    exact heard.early
  case connected => simpa only [Log.IsConnected, read] using heard.connected
  case welcomed => simpa only [Log.IsConnected, read] using heard.welcomed

/-- Steps that leave inbox, requests and counters alone keep the agreement. -/
private theorem Heard.keep (heard : Heard l s) (inbox : s'.inbox = s.inbox)
    (jobs : s'.jobs.map Job.request = s.jobs.map Job.request) (pings : s'.pings = s.pings)
    (welcome : s'.welcome = s.welcome) (early : s'.phase.isEarly = true → s.phase.isEarly = true)
    (late : s'.phase.isEarly = false → s'.phase.isEnded = false →
      s.phase.isEarly = false ∧ s.phase.isEnded = false) : Heard l s' where
  arrived := by rw [heard.arrived, inbox]
  requests := by rw [jobs, heard.requests]
  pings := by rw [pings, heard.pings]
  early isEarly := heard.early (early isEarly)
  connected isLate lasts := heard.connected (late isLate lasts).1 (late isLate lasts).2
  welcomed met := heard.welcomed (by rwa [welcome] at met)

/-- A job takes a step. -/
private theorem Heard.progress {l' : Log γ θ ρ} (heard : Heard l s) {i : Nat} {t t' : Job θ}
    (job : s.jobs[i]? = some t) (jobs : s'.jobs = s.jobs.set i t')
    (own : t'.request = t.request)
    (same : s'.inbox = s.inbox ∧ s'.pings = s.pings ∧ s'.welcome = s.welcome ∧
      s'.phase = s.phase)
    (arrived : l'.arrived = l.arrived) (read : l'.read = l.read) : Heard l' s' := by
  obtain ⟨inbox, pings, welcome, phase⟩ := same
  have requests : s'.jobs.map Job.request = s.jobs.map Job.request := by
    rw [jobs]
    exact map_set_same Job.request job own
  refine (heard.relog arrived read).keep inbox requests pings welcome ?_ ?_
  · rw [phase]
    exact fun early => early
  · rw [phase]
    exact fun late lasts => ⟨late, lasts⟩

private theorem Heard.control (heard : Heard l s) (control : Control terms s a s') :
    Heard l s' := by
  cases control with
  | stop | cancel | elapse =>
    exact heard.keep rfl rfl rfl rfl (fun h => h) (fun early ended => ⟨early, ended⟩)
  | introduced phase =>
    exact heard.keep rfl rfl rfl rfl (fun _ => by simp [phase, Phase.isEarly])
      (fun late => by simp [Phase.isEarly] at late)
  | serve payload phase =>
    exact heard.keep rfl rfl rfl rfl (fun early => by simp at early)
      (fun _ _ => by simp [phase, Phase.isEarly, Phase.isEnded])
  | heedStop limit phase | heedWriter limit phase | giveUpServicing limit d phase =>
    exact heard.keep rfl rfl rfl rfl (fun early => by simp at early)
      (fun _ _ => by simp [phase, Phase.isEarly, Phase.isEnded])
  | overrun limit x rest phase | drainOver cause limit phase =>
    exact heard.keep rfl rfl rfl rfl (fun early => by simp [Phase.isEarly] at early)
      (fun _ _ => by simp [phase, Phase.isEarly, Phase.isEnded])

/-- Whatever is read while servicing is served. -/
private theorem Heard.take {x : Inbound γ θ} {rest : List (Inbound γ θ)} (heard : Heard l s)
    (reading : Reading s x rest) (inbox : s'.inbox = rest)
    (jobs : s'.jobs.map Job.request = s.jobs.map Job.request ++ x.request?.toList)
    (pings : s'.pings = s.pings + if x.isPing then 1 else 0) (late : s'.phase.isEarly = false) :
    Heard (l.note s (.move .read)) s' := by
  obtain ⟨limit, phase⟩ := reading.serving
  have connected : l.IsConnected :=
    heard.connected (by simp [phase, Phase.isEarly]) (by simp [phase, Phase.isEnded])
  have served : ({ l with read := l.read ++ [x] } : Log γ θ ρ).served = l.served ++ [x] :=
    Log.served_append connected
  rw [reading.note]
  refine ⟨?_, ?_, ?_, ?_, fun _ _ => connected.append, fun _ => connected.append⟩
  · simp [heard.arrived, reading.inbox, inbox]
  · rw [jobs, heard.requests, Log.requests, Log.requests, served, List.filterMap_append]
    simp [List.filterMap_cons]
    cases x.request? <;> rfl
  · rw [pings, heard.pings, Log.pings, Log.pings, served, List.countP_append,
      List.countP_singleton]
  · intro early
    simp [late] at early

/-- Everything that is read first is either accepted or ends the session. -/
theorem servedOf_dismissed {x : Inbound γ θ} {outcome : Outcome}
    (dismissal : dismissal? x = some outcome) : servedOf [x] = [] := by
  unfold servedOf
  split
  case h_1 payload rest same =>
    cases same
    simp [dismissal?] at dismissal
  case h_2 => rfl

theorem Heard.step (heard : Heard l s) (effect : Effect terms s a s') :
    Heard (l.note s a) s' := by
  cases effect with
  | control control =>
    rw [control.note]
    exact heard.control control
  | finish outcome ends =>
    rw [ends.note]
    exact heard.keep rfl rfl rfl rfl (fun early => by simp [Phase.isEarly] at early)
      (fun _ lasts => by simp [Phase.isEnded] at lasts)
  | arrive x =>
    refine ⟨?_, heard.requests, heard.pings, heard.early, heard.connected, heard.welcomed⟩
    simp [Log.note, heard.arrived]
  | accept limit payload rest phase inbox =>
    have read := heard.early (by simp [phase, Phase.isEarly])
    have connected : (l.note s (.move .readFirst)).IsConnected :=
      ⟨payload, [], by simp [Log.note, inbox, read]⟩
    have unserved : (l.note s (.move .readFirst)).served = l.served := by
      simp [Log.served, Log.note, inbox, read, servedOf]
    refine ⟨?_, ?_, ?_, ?_, fun _ _ => connected, fun _ => connected⟩
    · simp [Log.note, heard.arrived, inbox]
    · rw [Log.requests, unserved]
      exact heard.requests
    · rw [Log.pings, unserved]
      exact heard.pings
    · intro early
      simp [Phase.isEarly] at early
  | dismiss limit x rest outcome phase inbox uncancelled dismissal =>
    have read := heard.early (by simp [phase, Phase.isEarly])
    have unserved : (l.note s (.move .readFirst)).served = l.served := by
      have dismissed := servedOf_dismissed dismissal
      simp only [Log.served, Log.note, inbox, read, List.take_succ_cons, List.take_zero,
        List.nil_append, dismissed]
      rfl
    constructor
    case arrived => simp [Log.note, heard.arrived, inbox]
    case requests =>
      rw [Log.requests, unserved]
      exact heard.requests
    case pings =>
      rw [Log.pings, unserved]
      exact heard.pings
    case early =>
      intro early
      simp [Phase.isEarly] at early
    case connected =>
      intro _ lasts
      simp [Phase.isEnded] at lasts
    case welcomed =>
      intro met
      obtain ⟨payload, rest, connected⟩ := heard.welcomed met
      simp [read] at connected
  | ignore x rest reading idle =>
    refine heard.take reading rfl ?_ ?_ (by simp)
    · cases x with
      | message m =>
        cases m <;> simp [Inbound.isIdle, Inbound.request?, ServerMessage.request?] at *
      | unclassified => simp [Inbound.request?]
      | fault reason => simp [Inbound.isIdle] at idle
      | eof => simp [Inbound.isIdle] at idle
    · cases x with
      | message m =>
        cases m <;> simp [Inbound.isIdle, Inbound.isPing, ServerMessage.isPing] at *
      | unclassified => simp [Inbound.isPing]
      | fault reason => simp [Inbound.isIdle] at idle
      | eof => simp [Inbound.isIdle] at idle
  | hangUp x rest cause reading ends =>
    refine heard.take reading rfl ?_ ?_ (by simp)
    · cases x <;> simp [Inbound.cause?, Inbound.request?] at *
    · cases x <;> simp [Inbound.cause?, Inbound.isPing] at *
  | ping rest outbox reading taken =>
    exact heard.take reading rfl (by simp [Inbound.request?, ServerMessage.request?])
      (by simp [Inbound.isPing, ServerMessage.isPing]) (by simp)
  | pingRefused rest reading refused =>
    exact heard.take reading rfl (by simp [Inbound.request?, ServerMessage.request?])
      (by simp [Inbound.isPing, ServerMessage.isPing]) (by simp)
  | dispatch request rest outbox reading retained =>
    exact heard.take reading rfl (by simp [Inbound.request?, ServerMessage.request?])
      (by simp [Inbound.isPing, ServerMessage.isPing]) (by simp)
  | join i t job => exact heard.progress job rfl rfl ⟨rfl, rfl, rfl, rfl⟩ rfl rfl
  | joinPanicked i t limit job unnoticed phase =>
    exact heard.keep rfl (map_set_same Job.request job rfl) rfl rfl (fun early => by simp at early)
      (fun _ _ => by simp [phase, Phase.isEarly, Phase.isEnded])
  | flush cause outbox flushes =>
    rw [flushes.note]
    refine heard.keep rfl rfl rfl rfl (fun early => by simp [Phase.isEarly] at early) fun _ _ => ?_
    cases flushes with
    | drained cause limit phase => simp [phase, Phase.isEarly, Phase.isEnded]
    | aborted cause phase => simp [phase, Phase.isEarly, Phase.isEnded]
  | ask i t job => exact heard.progress job rfl rfl ⟨rfl, rfl, rfl, rfl⟩ rfl rfl
  | start i t permits job =>
    exact heard.progress job rfl rfl ⟨rfl, rfl, rfl, rfl⟩ rfl rfl
  | answer i t response outbox job =>
    exact heard.progress job rfl rfl ⟨rfl, rfl, rfl, rfl⟩ rfl rfl
  | place i t placed outbox job =>
    exact heard.progress job rfl rfl ⟨rfl, rfl, rfl, rfl⟩ rfl rfl
  | endJob i t how outbox job ends =>
    rw [ends.note]
    exact heard.progress job rfl rfl ⟨rfl, rfl, rfl, rfl⟩ rfl rfl
  | sink b outbox sunk =>
    rw [sunk.note]
    exact heard.keep rfl rfl rfl rfl (fun h => h) (fun early ended => ⟨early, ended⟩)

end Dialback.Session
