import Dialback.Proofs.Registration.Connections
import Dialback.Proofs.Registration.Law
import Dialback.Proofs.Session.Halting

/-!
Stopping is not a failure. Wherever the stop signal finds a registration whose attempt under way has
neither failed nor been closed by the remote end, the registration asks for nothing more, records no
failure, and ends as stopped. Only where the signal finds a session that is connected and not serviced
yet may it turn out that the session cannot be serviced; then nothing ends any more.
-/
namespace Dialback.Registration

variable {α γ θ ρ : Type}

/-- No attempt is under way, or one that has neither failed nor been closed by the remote end. -/
def mayStop (r : Registration α γ θ ρ) : Bool :=
  match r.phase with
  | .talking _ s => s.phase.mayStop
  | .ended _ _ => false
  | _ => true

/-- The session under way is connected and not serviced yet. -/
def isWelcoming (r : Registration α γ θ ρ) : Bool :=
  match r.phase with
  | .talking _ s => s.phase.isAccepted
  | _ => false

/-- The session under way is connected, but cannot be serviced any more. -/
def isStranded (r : Registration α γ θ ρ) (plan : Plan α θ) : Bool :=
  match r.phase with
  | .talking _ s => s.isStranded plan.terms
  | _ => false

/-- The write of the connect arguments fails. -/
def Action.failsIntroduction : Action γ θ ρ → Bool
  | .event (.session e) => (Session.Action.event e : Session.Action γ θ ρ).failsIntroduction
  | _ => false

/-- What a registration does by itself, what the sink does if it does not fail, and the passing of
time. -/
def Action.isOwn : Action γ θ ρ → Bool
  | .move _ | .event (.elapse _) => true
  | .event (.session e) => (Session.Action.event e : Session.Action γ θ ρ).isOwn
  | _ => false

/-- What comes from outside and makes no work. -/
def Action.isIdle : Action γ θ ρ → Bool
  | .event .stop | .event (.elapse _) | .event (.session (.arrive _)) => true
  | _ => false

/-- The steps that are left to a registration that has been stopped, at most. -/
def remaining (r : Registration α γ θ ρ) : Nat :=
  match r.phase with
  | .talking _ s => s.remaining + 1
  | .ended _ _ => 0
  | _ => 1

/-- Nothing has been asked of the surroundings in between, and no failure has been recorded. -/
structure AsksNothing (r r' : Registration α γ θ ρ) : Prop where
  attempts : r'.attempts = r.attempts
  built : r'.built = r.built
  greetings : r'.greetings = r.greetings
  dialed : r'.dialed = r.dialed
  history : r'.history = r.history
  consultations : r'.consultations = r.consultations

/-- The registration `r` when the stop signal fires, and what it comes to after these actions. -/
structure Stops (plan : Plan α θ) (l : Log γ) (r r' : Registration α γ θ ρ)
    (after : List (Action γ θ ρ)) : Prop where
  asksNothing : AsksNothing r r'
  /-- Every attempt that began before is counted. -/
  attempts : r'.attempts = l.started.length.toUInt32
  built : r'.built = l.started.length
  numbers : l.started.length < 4294967296 → r'.attempts.toNat = l.started.length
  only : ∀ ending time, r'.phase = .ended ending time → ending = .stopped r'.attempts
  /-- Whatever has happened since, the registration can go on to its end. -/
  ends : r'.isStranded plan = false → ∃ rest r'' time, (∀ a ∈ rest, a.isOwn = true) ∧
    r'.run plan rest = some r'' ∧ r''.phase = .ended (.stopped r'.attempts) time
  stranded : r'.isStranded plan = true → r.isWelcoming = true
  /-- And it cannot go on for ever. -/
  bounded : after.countP (fun a => !a.isIdle) ≤ r.remaining

/-- What holds of `r` from the moment on at which the stop signal found it in `before`. -/
structure Stopping (plan : Plan α θ) (before r : Registration α γ θ ρ) : Prop where
  stopped : r.stop ≠ none
  asksNothing : AsksNothing before r
  ending : ∀ ending time, r.phase = .ended ending time → ending = .stopped r.attempts
  session : ∀ since s, r.phase = .talking since s →
    Session.Halting plan.terms before.isWelcoming s

variable {plan : Plan α θ} {before r r' : Registration α γ θ ρ} {a : Action γ θ ρ}

/-! The signal. -/

/-- A signal that has fired stays. -/
theorem Effect.stop_stays (effect : Effect plan r a r') (stopped : r.stop ≠ none) :
    r'.stop ≠ none := by
  cases effect with
  | begin ready unstopped => exact absurd unstopped stopped
  | fail fault welcome? connections fails =>
    obtain ⟨h, _, same⟩ := failAttempt_eq { r with connections } plan fault welcome?.isSome
    rw [same]
    exact stopped
  | stop => simp [onStop]
  | dial | connect | session | welcome | complete | cancelled | heed | wake | elapse =>
    exact stopped

/-- Where the signal can still fire it has not fired before. -/
theorem unstopped_of_run {actions : List (Action γ θ ρ)} (ran : r.run plan actions = some r')
    (unstopped : r'.stop = none) : ∀ a ∈ actions, a.isStop = false := by
  induction actions using List.reverseRecOn generalizing r' with
  | nil => simp
  | append_singleton rest a ih =>
    obtain ⟨m, ran, acted⟩ := Runs.foldlM_append.mp ran
    obtain ⟨_, acted, same⟩ := Runs.foldlM_cons.mp acted
    cases same
    have effect := Effect.of_act acted
    have quiet : m.stop = none := by
      by_contra stopped
      exact effect.stop_stays stopped unstopped
    refine List.forall_mem_append.mpr ⟨ih ran quiet, List.forall_mem_singleton.mpr ?_⟩
    cases stop : a.isStop with
    | false => rfl
    | true =>
      unfold Action.isStop at stop
      split at stop
      · cases effect with
        | stop => simp [onStop] at unstopped
        | session since now s s' x talking lifts => cases lifts
        | fail fault welcome? connections fails => cases fails
        | heed connections heeds => cases heeds
      · cases stop

theorem AsksNothing.trans {r'' : Registration α γ θ ρ} (first : AsksNothing r r')
    (second : AsksNothing r' r'') : AsksNothing r r'' where
  attempts := second.attempts.trans first.attempts
  built := second.built.trans first.built
  greetings := second.greetings.trans first.greetings
  dialed := second.dialed.trans first.dialed
  history := second.history.trans first.history
  consultations := second.consultations.trans first.consultations

/-! Steps. -/

theorem Stopping.next (stopping : Stopping plan before r) (stopped : r'.stop ≠ none)
    (same : AsksNothing r r')
    (ending : ∀ ending time, r'.phase = .ended ending time → ending = .stopped r'.attempts)
    (session : ∀ since s, r'.phase = .talking since s →
      Session.Halting plan.terms before.isWelcoming s) :
    Stopping plan before r' :=
  ⟨stopped, stopping.asksNothing.trans same, ending, session⟩

theorem Fails.stopping {fault : AttemptFault} {welcome? : Option γ}
    (stopping : Stopping plan before r) : ¬ Fails plan r a fault welcome? := by
  intro fails
  cases fails with
  | timeout arguments since limit client greeting handshake unstopped =>
    exact stopping.stopped unstopped
  | handshake arguments since limit client answer fault greeting handshake unstopped =>
    exact stopping.stopped unstopped
  | opening arguments since fault dialing unstopped => exact stopping.stopped unstopped
  | call since time s fault talking finished =>
    have halting := (stopping.session since s talking).phase
    rw [finished] at halting
    cases halting

theorem Stopping.step (stopping : Stopping plan before r) (sent : a.failsIntroduction = false)
    (effect : Effect plan r a r') : Stopping plan before r' := by
  have stopped := effect.stop_stays stopping.stopped
  cases effect with
  | begin ready unstopped | dial arguments since limit client answer result greeting _ unstopped
  | connect arguments since dialing unstopped | wake wake resting unstopped | stop unstopped =>
    exact absurd unstopped stopping.stopped
  | session since now s s' x talking lifts acted =>
    have sent : x.failsIntroduction = false := by
      cases lifts with
      | move m | elapse time => rfl
      | event e allowed => exact sent
    refine stopping.next stopped ⟨rfl, rfl, rfl, ?_, rfl, rfl⟩ ?_ ?_
    · simp [dialed, talking]
    · intro ending time phase
      cases phase
    · intro since' s'' phase
      cases phase
      exact (stopping.session since s talking).step sent (.of_act acted)
  | welcome since s payload talking accepted =>
    refine stopping.next stopped ⟨rfl, rfl, rfl, ?_, rfl, rfl⟩ ?_ ?_
    · simp [dialed, talking]
    · intro ending time phase
      cases phase
    · intro since' s' phase
      cases phase
      exact (stopping.session since s talking).step rfl (.control (.serve payload accepted))
  | fail fault welcome? connections fails => exact absurd fails (Fails.stopping stopping)
  | complete since time s connections talking finished =>
    have halting := (stopping.session since s talking).phase
    rw [finished] at halting
    cases halting
  | cancelled since time s connections talking finished left =>
    refine stopping.next stopped ⟨rfl, rfl, rfl, ?_, rfl, rfl⟩ ?_ ?_
    · simp [dialed, talking, left, closing?]
    · intro ending time phase
      cases phase
      rfl
    · intro since' s' phase
      cases phase
  | heed connections heeds _ left =>
    refine stopping.next stopped ⟨rfl, rfl, rfl, ?_, rfl, rfl⟩ ?_ ?_
    · cases heeds with
      | start ready => simp [dialed, ready, left, closing?]
      | greeting arguments since limit greeting => simp [dialed, greeting, left, closing?]
      | dialing arguments since dialing => simp [dialed, dialing, left, closing?]
      | resting wake resting => simp [dialed, resting, left, closing?]
    · intro ending time phase
      cases phase
      rfl
    · intro since' s' phase
      cases phase
  | elapse time later alone lasts =>
    exact stopping.next stopped ⟨rfl, rfl, rfl, rfl, rfl, rfl⟩ stopping.ending stopping.session

/-- Whatever is not idle leaves less to do, and nothing else makes work. -/
theorem Stopping.remaining_step (stopping : Stopping plan before r) (effect : Effect plan r a r') :
    r'.remaining + (if a.isIdle then 0 else 1) ≤ r.remaining := by
  cases effect with
  | begin ready unstopped | dial arguments since limit client answer result greeting _ unstopped
  | connect arguments since dialing unstopped | wake wake resting unstopped | stop unstopped =>
    exact absurd unstopped stopping.stopped
  | session since now s s' x talking lifts acted =>
    have happened := Session.Effect.of_act acted
    have unread := (stopping.session since s talking).unread happened
    have same : a.isIdle = x.isIdle := by
      cases lifts with
      | move m | elapse time => rfl
      | event e allowed =>
        cases e with
        | stop | cancel | serve | elapse => cases allowed
        | arrive | introduced | introductionFailed | answer | panic | wrote | writeFailed
        | writerCrashed | closed | closeFailed => rfl
    simp only [remaining, talking, same]
    cases idle : x.isIdle with
    | true =>
      have work := happened.remaining_idle idle
      simp [work]
    | false =>
      have less := happened.remaining_lt idle unread
      simp only [Bool.false_eq_true, if_false]
      omega
  | welcome since s payload talking accepted =>
    have served : Session.Effect plan.terms s (.event .serve) (s.serve plan.terms) :=
      .control (.serve payload accepted)
    have less := served.remaining_lt rfl (by simp)
    simp only [remaining, talking, Action.isIdle, Bool.false_eq_true, if_false]
    omega
  | fail fault welcome? connections fails => exact absurd fails (Fails.stopping stopping)
  | complete since time s connections talking | cancelled since time s connections talking =>
    simp [remaining, talking, Action.isIdle]
  | heed connections heeds =>
    cases heeds with
    | start ready => simp [remaining, ready, Action.isIdle]
    | greeting arguments since limit greeting => simp [remaining, greeting, Action.isIdle]
    | dialing arguments since dialing => simp [remaining, dialing, Action.isIdle]
    | resting wake resting => simp [remaining, resting, Action.isIdle]
  | elapse => simp [remaining, Action.isIdle]

theorem Stopping.run (stopping : Stopping plan before r) {actions : List (Action γ θ ρ)}
    (sent : ∀ a ∈ actions, a.failsIntroduction = false) (ran : r.run plan actions = some r') :
    Stopping plan before r' ∧
      actions.countP (fun a => !a.isIdle) + r'.remaining ≤ r.remaining := by
  induction actions generalizing r with
  | nil =>
    cases ran
    exact ⟨stopping, by simp⟩
  | cons a rest ih =>
    obtain ⟨next, acted, ran⟩ := Runs.foldlM_cons.mp ran
    obtain ⟨first, others⟩ := List.forall_mem_cons.mp sent
    have effect := Effect.of_act acted
    obtain ⟨kept, bound⟩ := ih (stopping.step first effect) others ran
    have less := stopping.remaining_step effect
    refine ⟨kept, ?_⟩
    cases idle : a.isIdle with
    | true =>
      simp only [idle, if_true] at less
      rw [List.countP_cons_of_neg (by simp [idle])]
      omega
    | false =>
      simp only [idle, Bool.false_eq_true, if_false] at less
      rw [List.countP_cons_of_pos (by simp [idle])]
      omega

/-! What a session does by itself, its registration lets it do. -/

theorem raised_isOwn {x : Session.Action γ θ ρ} (own : x.isOwn = true) :
    (raised x).isOwn = true := by
  cases x with
  | move m => rfl
  | event e =>
    cases e with
    | introduced | serve | wrote | closed | elapse => rfl
    | arrive | stop | cancel | introductionFailed | answer | panic | writeFailed | writerCrashed
    | closeFailed => cases own

theorem act_raised {since : Nat} {s s' : Session α γ θ ρ} {x : Session.Action γ θ ρ}
    (talking : r.phase = .talking since s) (clock : s.now = r.now) (own : x.isOwn = true)
    (acted : s.act plan.terms x = some s') :
    ∃ r', r.act plan (raised x) = some r' ∧ r'.phase = .talking since s' ∧ s'.now = r'.now ∧
      r'.attempts = r.attempts := by
  have effect := Session.Effect.of_act acted
  cases x with
  | move m =>
    have moved : s.advance plan.terms m = some s' := acted
    refine ⟨{ r with phase := .talking since s' }, by simp [raised, act, advance, talking, moved],
      rfl, (effect.now_eq (by simp)).trans clock, rfl⟩
  | event e =>
    have received : s.receive plan.terms e = some s' := acted
    cases e with
    | introduced | wrote | closed =>
      refine ⟨{ r with phase := .talking since s' },
        by simp [raised, act, receive, talking, isPrivate, received], rfl,
        (effect.now_eq (by simp)).trans clock, rfl⟩
    | serve =>
      simp only [Session.receive] at received
      split at received
      case h_1 payload accepted =>
        cases received
        refine ⟨{ r with
          phase := .talking since (s.serve plan.terms)
          welcomes := r.welcomes ++ [(r.now, r.attempts, payload)] }, ?_, rfl, clock, rfl⟩
        simp [raised, act, advance, talking, accepted, Session.receive]
      case h_2 => cases received
    | elapse time =>
      have passed := received
      simp only [Session.receive] at received
      split at received
      case isTrue later =>
        cases received
        rw [clock] at later
        refine ⟨{ r with now := time, phase := .talking since { s with now := time } }, ?_, rfl,
          rfl, rfl⟩
        simp [raised, act, receive, talking, later, passed]
      case isFalse => cases received
    | arrive | stop | cancel | introductionFailed | answer | panic | writeFailed | writerCrashed
    | closeFailed => cases own

theorem run_raised {since : Nat} {s s' : Session α γ θ ρ} {actions : List (Session.Action γ θ ρ)}
    (talking : r.phase = .talking since s) (clock : s.now = r.now)
    (own : ∀ x ∈ actions, x.isOwn = true) (ran : s.run plan.terms actions = some s') :
    ∃ r', r.run plan (actions.map raised) = some r' ∧ r'.phase = .talking since s' ∧
      r'.attempts = r.attempts := by
  induction actions generalizing r s with
  | nil =>
    cases ran
    exact ⟨r, rfl, talking, rfl⟩
  | cons x rest ih =>
    obtain ⟨next, acted, ran⟩ := Runs.foldlM_cons.mp ran
    obtain ⟨first, others⟩ := List.forall_mem_cons.mp own
    obtain ⟨m, raisedActed, phase, clock', same⟩ := act_raised talking clock first acted
    obtain ⟨r', ran', phase', same'⟩ := ih phase clock' others ran
    exact ⟨r', Runs.foldlM_cons.mpr ⟨m, raisedActed, ran'⟩, phase', same'.trans same⟩

/-- Only a session that the signal found connected and not serviced yet is ever stranded. -/
theorem Stopping.stranded (stopping : Stopping plan before r)
    (stranded : r.isStranded plan = true) : before.isWelcoming = true := by
  unfold isStranded at stranded
  split at stranded
  case h_1 since s talking =>
    have halting := stopping.session since s talking
    by_contra begun
    rw [Bool.not_eq_true] at begun
    rw [begun] at halting
    rw [halting.not_stranded] at stranded
    cases stranded
  case h_2 => cases stranded

/-- A registration that has been stopped can go on to its end. -/
theorem Stopping.ends (stopping : Stopping plan before r)
    (steady : ∀ since s, r.phase = .talking since s →
      Session.Steady plan.terms s ∧ s.now = r.now)
    (able : r.isStranded plan = false) :
    ∃ rest r' time, (∀ a ∈ rest, a.isOwn = true) ∧ r.run plan rest = some r' ∧
      r'.phase = .ended (.stopped r.attempts) time := by
  have stopped : r.stop.isSome = true := Option.isSome_iff_ne_none.mpr stopping.stopped
  cases phase : r.phase with
  | ready =>
    refine ⟨[.move .start], r.halt, r.now, by simp [Action.isOwn], ?_, rfl⟩
    exact Runs.foldlM_cons.mpr ⟨r.halt, by simp [act, advance, phase, stopped], rfl⟩
  | greeting arguments since limit =>
    refine ⟨[.move .heedStop], r.halt, r.now, by simp [Action.isOwn], ?_, rfl⟩
    exact Runs.foldlM_cons.mpr ⟨r.halt, by simp [act, advance, phase, stopping.stopped], rfl⟩
  | dialing arguments since =>
    refine ⟨[.move .heedStop], (r.noteConnection ⟨since, none⟩).halt, r.now,
      by simp [Action.isOwn], ?_, rfl⟩
    exact Runs.foldlM_cons.mpr ⟨_, by simp [act, advance, phase, stopping.stopped], rfl⟩
  | resting wake =>
    refine ⟨[.move .heedStop], r.halt, r.now, by simp [Action.isOwn], ?_, rfl⟩
    exact Runs.foldlM_cons.mpr ⟨r.halt, by simp [act, advance, phase, stopping.stopped], rfl⟩
  | ended ending time =>
    have same := stopping.ending ending time phase
    exact ⟨[], r, time, by simp, rfl, by rw [phase, same]⟩
  | talking since s =>
    obtain ⟨ready, clock⟩ := steady since s phase
    have able : s.isStranded plan.terms = false := by simpa [isStranded, phase] using able
    obtain ⟨rest, s', time, own, ran, ended⟩ := (stopping.session since s phase).ends ready able
    obtain ⟨m, ran', phase', same⟩ := run_raised phase clock own ran
    have concluded : m.act plan (.move .conclude) =
        some (m.noteConnection ⟨since, some s'⟩).halt := by
      simp [act, advance, phase', Session.outcome?, ended, onOutcome]
    refine ⟨rest.map raised ++ [.move .conclude], (m.noteConnection ⟨since, some s'⟩).halt, m.now,
      ?_, ?_, ?_⟩
    · refine List.forall_mem_append.mpr ⟨?_, by simp [Action.isOwn]⟩
      intro a member
      obtain ⟨x, inside, rfl⟩ := List.mem_map.mp member
      exact raised_isOwn (own x inside)
    · exact Runs.foldlM_append.mpr ⟨m, ran', Runs.foldlM_cons.mpr ⟨_, concluded, rfl⟩⟩
    · rw [← same]
      rfl

/-- The signal finds the registration in time. -/
theorem Stopping.of_stop (connected : ∀ since s, r.phase = .talking since s → s.Unstopped)
    (able : r.mayStop = true) : Stopping plan r (r.onStop plan) := by
  cases phase : r.phase with
  | talking since s =>
    have quiet := connected since s phase
    obtain ⟨s', next, _, rfl⟩ := onStop_talking plan phase quiet.stop quiet.cancel
    refine ⟨by simp [onStop], ⟨rfl, rfl, rfl, ?_, rfl, rfl⟩, ?_, ?_⟩
    · simp only [dialed, next, phase]
      rfl
    · intro ending time ended
      rw [next] at ended
      cases ended
    · intro since' s' talking
      rw [next] at talking
      cases talking
      simp only [mayStop, phase] at able
      have welcoming : r.isWelcoming = s.phase.isAccepted := by simp [isWelcoming, phase]
      rw [welcoming]
      exact .of_mayStop able (by simp) (by simp)
  | ended ending time =>
    simp [mayStop, phase] at able
  | ready | greeting | dialing | resting =>
    refine ⟨by simp [onStop], ⟨rfl, rfl, rfl, ?_, rfl, rfl⟩, ?_, ?_⟩
    · simp [dialed, onStop, phase]
    · intro ending time ended
      simp [onStop, phase] at ended
    · intro since s talking
      simp [onStop, phase] at talking

theorem onStop_remaining (plan : Plan α θ)
    (connected : ∀ since s, r.phase = .talking since s → s.Unstopped) :
    (r.onStop plan).remaining = r.remaining := by
  cases phase : r.phase with
  | talking since s =>
    have quiet := connected since s phase
    obtain ⟨s', next, _, rfl⟩ := onStop_talking plan phase quiet.stop quiet.cancel
    simp only [remaining, next, phase]
    rfl
  | ready | greeting | dialing | resting | ended => simp [remaining, onStop, phase]

/-- Wherever the stop signal finds a registration in time, and whatever happens afterwards but that
the connect arguments cannot be sent, the registration ends as stopped. -/
theorem stopping_never_fails {identifiers : Uuid.Source} {begun : Nat}
    {actions after : List (Action γ θ ρ)}
    (ran : ({ identifiers, now := begun, started := begun } : Registration α γ θ ρ).run plan
      actions = some r)
    (able : r.mayStop = true) (ran' : r.run plan (.event .stop :: after) = some r')
    (sent : ∀ a ∈ after, a.failsIntroduction = false) :
    Stops plan (({ identifiers, now := begun, started := begun } :
      Registration α γ θ ρ).log plan actions) r r' after := by
  obtain ⟨m, fired, later⟩ := Runs.foldlM_cons.mp ran'
  have unset : r.stop = none := by
    by_contra stopped
    simp [act, receive, stopped] at fired
  have same : m = r.onStop plan := by simpa [act, receive, unset] using fired.symm
  subst same
  have lawful := Lawful.of_run ran (unstopped_of_run ran unset)
  have quiet := (Connected.of_run ran).unstopped unset
  obtain ⟨stopping, bound⟩ := (Stopping.of_stop quiet able).run sent later
  have reached := Runs.foldlM_append.mpr ⟨r, ran, ran'⟩
  have connected := Connected.of_run reached
  have attempts := stopping.asksNothing.attempts.trans lawful.attempts
  rw [onStop_remaining plan quiet] at bound
  refine ⟨stopping.asksNothing, attempts, ?_, ?_, stopping.ending, ?_, stopping.stranded,
    by omega⟩
  · exact stopping.asksNothing.built.trans lawful.built
  · intro few
    rw [attempts]
    exact UInt32.toNat_ofNat_of_lt' few
  · exact stopping.ends fun since s talking =>
      ⟨connected.steady talking, connected.clock since s talking⟩

/-- A handler runs and a second request of its partition waits. -/
def handling : List (Action String Nat String) :=
  [.move .start, .event .opened] ++ Session.exchangeReading.map raised ++
    [.move (.session (.ask 0)), .move (.session (.start 0))]

/-- The handler panics, the remote end closes the stream, and the response to the second request
cannot be written. -/
def breakdown : List (Action String Nat String) :=
  [.move (.session .heedStop), .event (.session (.panic 0)), .event (.session (.arrive .eof)),
    .move (.session (.ask 1)), .move (.session (.start 1)),
    .event (.session (.answer 1 { payload := "twenty" })), .move (.session (.place 1)),
    .move (.session .pick), .event (.session (.writeFailed .closed)), .move (.session (.join 0)),
    .move (.session (.join 1)), .move (.session .drained), .move (.session .settle),
    .move .conclude]

theorem stopping_never_fails_handling :
    ∃ r r' : Registration String String Nat String,
      ({ identifiers := ⟨1⟩ } : Registration String String Nat String).run twicePlan handling =
        some r ∧
      r.mayStop = true ∧ r.run twicePlan (.event .stop :: breakdown) = some r' ∧
      (∀ a ∈ breakdown, a.failsIntroduction = false) ∧ r'.ending? = some (.stopped 1, 0) ∧
      Stops twicePlan (({ identifiers := ⟨1⟩ } :
        Registration String String Nat String).log twicePlan handling) r r' breakdown :=
  ⟨_, _, rfl, rfl, rfl, by decide, rfl, stopping_never_fails rfl rfl rfl (by decide)⟩

end Dialback.Registration
