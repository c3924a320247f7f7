import Dialback.Proofs.Session.Pending

/-!
What comes of connecting. Before the connect response little can happen to a session, and nothing to
its jobs and its outbox; behind it, what has come of connecting does not change any more. In between,
whoever looks acts on what is there.
-/
namespace Dialback.Session

variable {α γ θ ρ : Type}

/-- What comes of connecting if this is what arrives first. -/
def Inbound.reception : Inbound γ θ → Except Outcome γ
  | .message (.connectResponse (.accepted payload)) => .ok payload
  | .message (.connectResponse (.refused failure)) => .error (.failed (.refused failure))
  | .message .ping | .message (.request _) | .unclassified | .eof =>
    .error (.failed .noConnectResponse)
  | .fault reason => .error (.failed (.transport reason))

/-- What has come of connecting, and when. -/
def reception? (s : Session α γ θ ρ) : Option (Except Outcome γ × Nat) :=
  match s.welcome with
  | some (time, payload) => some (.ok payload, time)
  | none => s.outcome?.map fun (outcome, time) => (.error outcome, time)

/-- What is decided by looking now. -/
def verdict? (s : Session α γ θ ρ) (limit : Nat) : Option (Except Outcome γ) :=
  if s.cancel.isSome then some (.error .cancelled)
  else
    match s.inbox with
    | x :: _ => some x.reception
    | [] => if limit ≤ s.now then some (.error (.failed .noConnectResponse)) else none

def Action.arrival? : Action γ θ ρ → Option (Inbound γ θ)
  | .event (.arrive x) => some x
  | _ => none

def noteArrival (arrived : List (Nat × Inbound γ θ)) (s : Session α γ θ ρ) (a : Action γ θ ρ) :
    List (Nat × Inbound γ θ) :=
  arrived ++ (a.arrival?.map (s.now, ·)).toList

/-- What arrives along a run that begins in `s`, and when. -/
def arrivals (s : Session α γ θ ρ) (terms : Terms θ) (actions : List (Action γ θ ρ)) :
    List (Nat × Inbound γ θ) :=
  Runs.noted (fun s a => s.act terms a) noteArrival [] s actions

def connectLimit (terms : Terms θ) (start : Nat) : Nat :=
  start + terms.settings.connectTimeoutMs.toNat

variable {s s' : Session α γ θ ρ} {terms : Terms θ} {a : Action γ θ ρ}
  {arguments : ConnectArguments α} {arrived : List (Nat × Inbound γ θ)}

/-! Before the response. -/

theorem reception_of_dismissal {x : Inbound γ θ} {outcome : Outcome}
    (dismissal : dismissal? x = some outcome) : x.reception = .error outcome := by
  unfold dismissal? at dismissal
  split at dismissal <;> cases dismissal <;> rfl

/-- Nothing has happened to jobs and outbox. -/
structure Fresh (terms : Terms θ) (s : Session α γ θ ρ) : Prop where
  jobs : s.jobs = []
  outbox : s.outbox = { capacity := terms.settings.buffer, handles := ownHandles }
  welcome : s.welcome = none

theorem Fresh.idle (fresh : Fresh terms s) {b : Outbox.Action (ClientMessage α ρ)}
    {outbox : Outbox (ClientMessage α ρ)} : ¬ s.outbox.Work b outbox := by
  intro work
  rw [fresh.outbox] at work
  cases work with
  | pickPong time m rest idle pongs => cases pongs
  | pickMessage time m rest idle pongs queue => cases queue
  | shut time idle pongs queue closed => cases closed
  | wrote time m since writing => cases writing
  | broke b how m since writing => cases writing
  | closed b how closing => cases closing

theorem Fresh.no_job (fresh : Fresh terms s) {i : Nat} {t : Job θ} : s.jobs[i]? ≠ some t := by
  simp [fresh.jobs]

/-- What can happen before the response. -/
inductive Opening (terms : Terms θ) (s : Session α γ θ ρ) :
    Action γ θ ρ → Session α γ θ ρ → Prop
  | stop : Opening terms s (.event .stop) { s with stop := some s.now }
  | cancel (unset : s.cancel = none) :
      Opening terms s (.event .cancel) { s with cancel := some s.now }
  | elapse (time : Nat) (later : s.now < time) :
      Opening terms s (.event (.elapse time)) { s with now := time }
  | arrive (x : Inbound γ θ) :
      Opening terms s (.event (.arrive x)) { s with inbox := s.inbox ++ [x] }
  | introduced (phase : s.phase = .introducing) :
      Opening terms s (.event .introduced)
        { s with introduced := some s.now, phase := .connecting (connectLimit terms s.now) }
  | introductionFailed (fault : TransportFault) (phase : s.phase = .introducing) :
      Opening terms s (.event (.introductionFailed fault)) { s with
        phase := .ended (.failed (.transport fault)) s.now, outbox := s.outbox.dropped }
  | accept (limit : Nat) (payload : γ) (rest : List (Inbound γ θ)) (m : Move)
      (phase : s.phase = .connecting limit)
      (inbox : s.inbox = .message (.connectResponse (.accepted payload)) :: rest)
      (verdict : s.verdict? limit = some (.ok payload)) :
      Opening terms s (.move m) { s with
        inbox := rest, phase := .accepted payload, welcome := some (s.now, payload) }
  | dismiss (limit : Nat) (outcome : Outcome) (inbox : List (Inbound γ θ)) (m : Move)
      (phase : s.phase = .connecting limit) (verdict : s.verdict? limit = some (.error outcome)) :
      Opening terms s (.move m) { s with
        inbox, phase := .ended outcome s.now, outbox := s.outbox.dropped }

theorem Effect.opening (early : s.phase.isEarly = true) (fresh : Fresh terms s)
    (effect : Effect terms s a s') : Opening terms s a s' := by
  have verdict : ∀ x rest limit, s.cancel = none → s.inbox = x :: rest →
      s.verdict? limit = some x.reception := by
    intro x rest limit uncancelled inbox
    simp [verdict?, uncancelled, inbox]
  cases effect with
  | control control =>
    cases control with
    | stop => exact .stop
    | cancel unset => exact .cancel unset
    | elapse time later => exact .elapse time later
    | introduced phase => exact .introduced phase
    | serve payload phase | heedStop limit phase | heedWriter limit phase
    | giveUpServicing limit d phase | overrun limit x rest phase | drainOver cause limit phase =>
      simp [phase, Phase.isEarly] at early
  | finish outcome ends =>
    cases ends with
    | introductionFailed fault phase => exact .introductionFailed fault phase
    | cancelConnect limit phase cancelled =>
      exact .dismiss limit .cancelled s.inbox _ phase (by simp [verdict?, cancelled])
    | giveUpConnecting limit phase inbox uncancelled late =>
      exact .dismiss limit _ s.inbox _ phase (by simp [verdict?, uncancelled, inbox, late])
    | aborted fault phase | settle cause how phase => simp [phase, Phase.isEarly] at early
  | arrive x => exact .arrive x
  | accept limit payload rest phase inbox uncancelled =>
    exact .accept limit payload rest _ phase inbox (verdict _ rest limit uncancelled inbox)
  | dismiss limit x rest outcome phase inbox uncancelled dismissal =>
    refine .dismiss limit outcome rest _ phase ?_
    rw [verdict x rest limit uncancelled inbox, reception_of_dismissal dismissal]
  | ignore x rest reading | hangUp x rest cause reading | ping rest outbox reading
  | pingRefused rest reading | dispatch request rest outbox reading =>
    obtain ⟨limit, phase⟩ := reading.serving
    simp [phase, Phase.isEarly] at early
  | join i t job | joinPanicked i t limit job | endJob i t how outbox job =>
    exact absurd job fresh.no_job
  | ask i t job | answer i t response outbox job
  | place i t placed outbox job => exact absurd job fresh.no_job
  | start i t permits job => exact absurd job fresh.no_job
  | flush cause outbox flushes =>
    cases flushes with
    | drained cause limit phase => simp [phase, Phase.isEarly] at early
    | aborted cause phase => simp [phase, Phase.isEarly] at early
  | sink b outbox sunk work => exact absurd work fresh.idle

/-! Behind the response. -/

def Phase.isAccepted : Phase γ → Bool
  | accepted _ => true
  | _ => false

@[simp] theorem servingPhase_isAccepted (now : Nat) (terms : Terms θ) :
    (servingPhase now terms : Phase γ).isAccepted = false := by
  rcases servingPhase_cases (γ := γ) now terms with ⟨limit, phase⟩ | phase <;>
    simp [phase, Phase.isAccepted]

@[simp] theorem leavingPhase_isAccepted (now : Nat) (terms : Terms θ) (cause : Cause) :
    (leavingPhase now terms cause : Phase γ).isAccepted = false := by
  rcases leavingPhase_cases (γ := γ) now terms cause with ⟨_, limit, phase⟩ | ⟨_, phase⟩ <;>
    simp [phase, Phase.isAccepted]

/-- What connecting has come to does not change any more. -/
structure Bygone (a : Action γ θ ρ) (s s' : Session α γ θ ρ) : Prop where
  late : s'.phase.isEarly = false
  introduced : s'.introduced = s.introduced
  welcome : s'.welcome = s.welcome
  ended : s.phase.isEnded = true → s'.phase = s.phase
  /-- Until the caller begins to serve, what arrives is kept. -/
  accepted : s'.phase.isAccepted = true →
    s.phase.isAccepted = true ∧ s'.inbox = s.inbox ++ a.arrival?.toList

theorem Effect.bygone (late : s.phase.isEarly = false) (effect : Effect terms s a s') :
    Bygone a s s' := by
  -- a step that takes the session out of one phase into another that is not the first
  have leaving : ∀ {b : Action γ θ ρ} {m : Session α γ θ ρ}, m.introduced = s.introduced →
      m.welcome = s.welcome → s.phase.isEnded = false → m.phase.isEarly = false →
      m.phase.isAccepted = false → Bygone b s m := by
    intro b m introduced welcome lasts late begun
    exact ⟨late, introduced, welcome, fun ended => by simp [lasts] at ended,
      fun accepted => by simp [begun] at accepted⟩
  -- a step that leaves phase and inbox alone
  have staying : ∀ {b : Action γ θ ρ} {m : Session α γ θ ρ}, m.introduced = s.introduced →
      m.welcome = s.welcome → m.phase = s.phase → m.inbox = s.inbox ++ b.arrival?.toList →
      Bygone b s m := by
    intro b m introduced welcome phase inbox
    exact ⟨by rwa [phase], introduced, welcome, fun _ => phase,
      fun accepted => ⟨by rwa [← phase], inbox⟩⟩
  cases effect with
  | control control =>
    cases control with
    | stop | cancel | elapse => exact staying rfl rfl rfl (List.append_nil _).symm
    | introduced phase => simp [phase, Phase.isEarly] at late
    | serve payload phase | heedStop limit phase | heedWriter limit phase
    | giveUpServicing limit d phase =>
      exact leaving rfl rfl (by simp [phase, Phase.isEnded]) (by simp) (by simp)
    | overrun limit x rest phase | drainOver cause limit phase =>
      exact leaving rfl rfl (by simp [phase, Phase.isEnded]) rfl rfl
  | finish outcome ends =>
    cases ends with
    | introductionFailed fault phase | cancelConnect limit phase | giveUpConnecting limit phase =>
      simp [phase, Phase.isEarly] at late
    | aborted fault phase | settle cause how phase =>
      exact leaving rfl rfl (by simp [phase, Phase.isEnded]) rfl rfl
  | accept limit payload rest phase | dismiss limit x rest outcome phase =>
    simp [phase, Phase.isEarly] at late
  | ignore x rest reading | ping rest outbox reading | dispatch request rest outbox reading
  | hangUp x rest cause reading | pingRefused rest reading =>
    exact leaving rfl rfl reading.past.2 (by simp) (by simp)
  | joinPanicked i t limit job unnoticed phase =>
    exact leaving rfl rfl (by simp [phase, Phase.isEnded]) (by simp) (by simp)
  | flush cause outbox flushes =>
    cases flushes with
    | drained cause limit phase | aborted cause phase =>
      exact leaving rfl rfl (by simp [phase, Phase.isEnded]) rfl rfl
  | arrive x => exact staying rfl rfl rfl rfl
  | join | ask | start | answer | place => exact staying rfl rfl rfl (List.append_nil _).symm
  | endJob i t how outbox job ends =>
    have nothing : a.arrival? = none := by cases ends <;> rfl
    exact staying rfl rfl rfl (by simp [nothing])
  | sink b outbox sunk =>
    have nothing : a.arrival? = none := by cases sunk <;> rfl
    exact staying rfl rfl rfl (by simp [nothing])

/-! Along a run. -/

theorem reception_of_early (early : s.phase.isEarly = true) (welcome : s.welcome = none) :
    s.reception? = none := by
  cases phase : s.phase with
  | introducing | connecting limit => simp [reception?, outcome?, welcome, phase]
  | _ => simp [phase, Phase.isEarly] at early

theorem reception_of_welcome {time : Nat} {payload : γ}
    (welcome : s.welcome = some (time, payload)) : s.reception? = some (.ok payload, time) := by
  simp [reception?, welcome]

theorem reception_of_ended {outcome : Outcome} {time : Nat} (welcome : s.welcome = none)
    (phase : s.phase = .ended outcome time) : s.reception? = some (.error outcome, time) := by
  simp [reception?, outcome?, welcome, phase]

/-- What is known of a session at every moment, seen from what has arrived. -/
structure Met (terms : Terms θ) (arrived : List (Nat × Inbound γ θ)) (s : Session α γ θ ρ) :
    Prop where
  fresh : s.phase.isEarly = true → Fresh terms s
  unread : s.phase.isEarly = true → arrived.map Prod.snd = s.inbox
  introducing : s.phase = .introducing → s.introduced = none
  connecting : ∀ limit, s.phase = .connecting limit →
    ∃ start, s.introduced = some start ∧ limit = connectLimit terms start
  past : s.phase.isEarly = false → s.welcome.isSome = true ∨ s.phase.isEnded = true
  failed : s.phase.isEarly = false → s.introduced = none →
    ∃ fault time, s.reception? = some (.error (.failed (.transport fault)), time)
  welcomed : ∀ time payload, s.welcome = some (time, payload) → ∃ rest,
    arrived.map Prod.snd = .message (.connectResponse (.accepted payload)) :: rest
  accepted : s.phase.isAccepted = true → (arrived.map Prod.snd).tail = s.inbox

theorem noteArrival_snd (arrived : List (Nat × Inbound γ θ)) (s : Session α γ θ ρ)
    (a : Action γ θ ρ) :
    (noteArrival arrived s a).map Prod.snd = arrived.map Prod.snd ++ a.arrival?.toList := by
  unfold noteArrival
  cases a.arrival? <;> simp

theorem Met.opened (openedAt : Nat) (arguments : ConnectArguments α) :
    Met terms [] (Session.opened terms.settings openedAt arguments : Session α γ θ ρ) where
  fresh _ := ⟨rfl, rfl, rfl⟩
  unread _ := rfl
  introducing _ := rfl
  connecting limit phase := by cases phase
  past late := by cases late
  failed late := by cases late
  welcomed time payload welcome := by cases welcome
  accepted begun := by cases begun

/-- What connecting has come to stays. -/
theorem Bygone.reception (bygone : Bygone a s s') (met : Met terms arrived s)
    (late : s.phase.isEarly = false) : s'.reception? = s.reception? := by
  rcases met.past late with welcomed | ended
  · obtain ⟨⟨time, payload⟩, welcome⟩ := Option.isSome_iff_exists.mp welcomed
    rw [reception_of_welcome welcome, reception_of_welcome (bygone.welcome.trans welcome)]
  · unfold reception? outcome?
    rw [bygone.welcome, bygone.ended ended]

theorem Met.bygone (met : Met terms arrived s) (late : s.phase.isEarly = false)
    (bygone : Bygone a s s') : Met terms (noteArrival arrived s a) s' where
  fresh early := by simp [bygone.late] at early
  unread early := by simp [bygone.late] at early
  introducing phase := by
    have late := bygone.late
    simp [phase, Phase.isEarly] at late
  connecting limit phase := by
    have late := bygone.late
    simp [phase, Phase.isEarly] at late
  past _ := by
    rw [bygone.welcome]
    refine (met.past late).imp_right fun ended => ?_
    rwa [bygone.ended ended]
  failed _ unwritten := by
    rw [bygone.reception met late]
    exact met.failed late (bygone.introduced ▸ unwritten)
  welcomed time payload welcome := by
    obtain ⟨rest, first⟩ := met.welcomed time payload (bygone.welcome ▸ welcome)
    exact ⟨rest ++ a.arrival?.toList, by rw [noteArrival_snd, first, List.cons_append]⟩
  accepted begun := by
    obtain ⟨before, inbox⟩ := bygone.accepted begun
    obtain ⟨payload, phase⟩ : ∃ payload, s.phase = .accepted payload := by
      cases phase : s.phase with
      | accepted payload => exact ⟨payload, rfl⟩
      | _ => simp [phase, Phase.isAccepted] at before
    rcases met.past late with welcomed | ended
    · obtain ⟨⟨time, payload⟩, welcome⟩ := Option.isSome_iff_exists.mp welcomed
      obtain ⟨rest, first⟩ := met.welcomed time payload welcome
      have tail := met.accepted before
      rw [first, List.tail_cons] at tail
      rw [noteArrival_snd, first, inbox, ← tail, List.cons_append, List.tail_cons]
    · simp [phase, Phase.isEnded] at ended

private theorem Met.of_early (early : s.phase.isEarly = true) (fresh : Fresh terms s)
    (unread : arrived.map Prod.snd = s.inbox) (introducing : s.phase = .introducing →
      s.introduced = none) (connecting : ∀ limit, s.phase = .connecting limit →
      ∃ start, s.introduced = some start ∧ limit = connectLimit terms start) :
    Met terms arrived s where
  fresh _ := fresh
  unread _ := unread
  introducing := introducing
  connecting := connecting
  past late := by simp [early] at late
  failed late := by simp [early] at late
  welcomed time payload welcome := by simp [fresh.welcome] at welcome
  accepted begun := by cases phase : s.phase <;> simp_all [Phase.isAccepted, Phase.isEarly]

private theorem Met.of_ended {outcome : Outcome} {time : Nat}
    (phase : s.phase = .ended outcome time) (welcome : s.welcome = none)
    (failed : s.introduced = none → ∃ fault, outcome = .failed (.transport fault)) :
    Met terms arrived s where
  fresh early := by simp [phase, Phase.isEarly] at early
  unread early := by simp [phase, Phase.isEarly] at early
  introducing same := by simp [phase] at same
  connecting limit same := by simp [phase] at same
  past _ := Or.inr (by simp [phase, Phase.isEnded])
  failed _ unwritten := by
    obtain ⟨fault, rfl⟩ := failed unwritten
    exact ⟨fault, time, reception_of_ended welcome phase⟩
  welcomed time payload same := by simp [welcome] at same
  accepted begun := by simp [phase, Phase.isAccepted] at begun

theorem Met.opening (met : Met terms arrived s) (early : s.phase.isEarly = true)
    (opening : Opening terms s a s') : Met terms (noteArrival arrived s a) s' := by
  have fresh := met.fresh early
  have unread : (noteArrival arrived s a).map Prod.snd = s.inbox ++ a.arrival?.toList := by
    rw [noteArrival_snd, met.unread early]
  have introduced : ∀ limit, s.phase = .connecting limit → s.introduced ≠ none := by
    intro limit phase
    obtain ⟨start, written, _⟩ := met.connecting limit phase
    simp [written]
  cases opening with
  | stop | cancel | elapse | arrive =>
    refine .of_early early ⟨fresh.jobs, fresh.outbox, fresh.welcome⟩ ?_ met.introducing
      met.connecting
    simpa [Action.arrival?] using unread
  | introduced phase =>
    refine .of_early rfl ⟨fresh.jobs, fresh.outbox, fresh.welcome⟩ ?_ (fun same => by cases same) ?_
    · simpa [Action.arrival?] using unread
    · intro limit same
      cases same
      exact ⟨s.now, rfl, rfl⟩
  | introductionFailed fault phase => exact .of_ended rfl fresh.welcome fun _ => ⟨fault, rfl⟩
  | dismiss limit outcome inbox m phase verdict =>
    exact .of_ended rfl fresh.welcome fun unwritten => absurd unwritten (introduced limit phase)
  | accept limit payload rest m phase inbox verdict =>
    rw [inbox] at unread
    exact {
      fresh := fun early => by cases early
      unread := fun early => by cases early
      introducing := fun same => by cases same
      connecting := fun limit same => by cases same
      past := fun _ => Or.inl rfl
      failed := fun _ unwritten => absurd unwritten (introduced limit phase)
      welcomed := fun time payload same => by
        cases same
        exact ⟨rest, by simpa [Action.arrival?] using unread⟩
      accepted := fun _ => by
        rw [unread]
        exact List.append_nil rest }

theorem Met.step (met : Met terms arrived s) (acted : s.act terms a = some s') :
    Met terms (noteArrival arrived s a) s' := by
  cases early : s.phase.isEarly with
  | true => exact met.opening early ((Effect.of_act acted).opening early (met.fresh early))
  | false => exact met.bygone early ((Effect.of_act acted).bygone early)

theorem Met.of_run {openedAt : Nat} {actions : List (Action γ θ ρ)}
    (ran : (Session.opened terms.settings openedAt arguments).run terms actions = some s) :
    Met terms ((Session.opened terms.settings openedAt arguments).arrivals terms actions) s :=
  Runs.noted_induction (fun _ => True) (fun _ _ _ _ _ met acted => met.step acted)
    (.opened openedAt arguments) (fun _ _ => trivial) ran

/-- What has arrived is what the log says, with times. -/
theorem arrivals_snd {actions : List (Action γ θ ρ)} :
    (s.arrivals terms actions).map Prod.snd = (s.log terms actions).arrived := by
  have noted : ∀ (l : Log γ θ ρ) arrived, arrived.map Prod.snd = l.arrived →
      (Runs.noted (fun s a => s.act terms a) noteArrival arrived s actions).map Prod.snd =
        (Runs.noted (fun s a => s.act terms a) Log.note l s actions).arrived := by
    induction actions generalizing s with
    | nil => exact fun l arrived same => same
    | cons a rest ih =>
      intro l arrived same
      cases acted : s.act terms a with
      | none => simpa [Runs.noted, acted] using same
      | some next =>
        simp only [Runs.noted, acted]
        refine ih (l.note s a) _ ?_
        rw [noteArrival_snd, same]
        cases a with
        | event e => cases e <;> simp [Action.arrival?, Log.note]
        | move m => cases m <;> simp [Action.arrival?, Log.note]
  exact noted {} [] rfl

/-! Looking. -/

/-- A verdict can be acted on, and then it is what has come of connecting. -/
theorem act_of_verdict {limit : Nat} {result : Except Outcome γ} (welcome : s.welcome = none)
    (phase : s.phase = .connecting limit) (verdict : s.verdict? limit = some result) :
    ∃ m ∈ s.moves, ∃ s', s.act terms (.move m) = some s' ∧
      s'.reception? = some (result, s.now) := by
  unfold verdict? at verdict
  split at verdict
  case isTrue fired =>
    cases verdict
    exact ⟨.cancelConnect, by simp [moves, loopMoves], s.finish .cancelled,
      by simp [act, advance, phase, fired], reception_of_ended welcome rfl⟩
  case isFalse unfired =>
    split at verdict
    case h_1 x rest inbox =>
      cases verdict
      refine ⟨.readFirst, by simp [moves, loopMoves], { s with inbox := rest }.onFirst x,
        by simp [act, advance, phase, inbox, unfired], ?_⟩
      unfold onFirst Inbound.reception
      split
      · rfl
      all_goals exact reception_of_ended welcome rfl
    case h_2 inbox =>
      split at verdict
      case isTrue late =>
        cases verdict
        have uncancelled : s.cancel = none := by simpa using unfired
        exact ⟨.giveUpConnecting, by simp [moves, loopMoves], s.fail .noConnectResponse,
          by simp [act, advance, phase, inbox, uncancelled, late], reception_of_ended welcome rfl⟩
      case isFalse => cases verdict

theorem calm_of_quiet {limit : Nat} (welcome : s.welcome = none)
    (phase : s.phase = .connecting limit) (quiet : s.isQuiet terms = true) :
    s.verdict? limit = none := by
  cases verdict : s.verdict? limit with
  | none => rfl
  | some result =>
    obtain ⟨m, member, s', acted, _⟩ := act_of_verdict welcome phase verdict
    exact absurd quiet (not_quiet member (by rw [acted]; rfl))

theorem verdict_eq_none {limit : Nat} :
    s.verdict? limit = none ↔ s.cancel = none ∧ s.inbox = [] ∧ s.now < limit := by
  unfold verdict?
  cases s.cancel with
  | some time => simp
  | none =>
    cases s.inbox with
    | nil => simp
    | cons x rest => simp

/-- Before the response nothing can be done while nothing decides. -/
theorem Fresh.quiet (fresh : Fresh terms s) {limit : Nat} (phase : s.phase = .connecting limit)
    (undecided : s.verdict? limit = none) : s.isQuiet terms = true := by
  obtain ⟨uncancelled, inbox, early⟩ := verdict_eq_none.mp undecided
  have idle : s.outbox.step (.pick s.now) = none := by
    rw [fresh.outbox]
    rfl
  simp [isQuiet, moves, loopMoves, jobMoves, pendingJobs, fresh.jobs, advance, phase, inbox,
    uncancelled, early, read?, idle]

end Dialback.Session
