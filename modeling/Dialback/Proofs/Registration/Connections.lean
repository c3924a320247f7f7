import Dialback.Proofs.Registration.Lawful
import Dialback.Proofs.Session.Closing
import Mathlib.Data.List.Forall2

/-!
The connections of a registration and what happens on each of them. Every session is followed from
its opening to its end by the actions that reach it, so whatever is known of the runs of a session
holds of every session of every registration.
-/
namespace Dialback.Registration

variable {α γ θ ρ : Type}

/-- The session under way. -/
def current? (r : Registration α γ θ ρ) : Option (Session α γ θ ρ) :=
  match r.phase with
  | .talking _ s => some s
  | _ => none

/-- The sessions of earlier attempts. -/
def closed (r : Registration α γ θ ρ) : List (Session α γ θ ρ) :=
  r.connections.filterMap Connection.session

/-- One session for each connection that was opened. -/
def sessions (r : Registration α γ θ ρ) : List (Session α γ θ ρ) :=
  r.closed ++ r.current?.toList

/-- How often a connection was asked for. -/
def dialed (r : Registration α γ θ ρ) : Nat :=
  r.connections.length +
    match r.phase with
    | .dialing _ _ | .talking _ _ => 1
    | _ => 0

/-- What an action is to the session under way. -/
def Action.lowered : Action γ θ ρ → List (Session.Action γ θ ρ)
  | .move (.session m) => [.move m]
  | .move .welcome => [.event .serve]
  | .event (.session e) => [.event e]
  | .event (.elapse time) => [.event (.elapse time)]
  | .event .stop => [.event .stop, .event .cancel]
  | _ => []

/-- How an action is taken by the session under way, the signals apart. -/
def raised : Session.Action γ θ ρ → Action γ θ ρ
  | .move m => .move (.session m)
  | .event .serve => .move .welcome
  | .event (.elapse time) => .event (.elapse time)
  | .event e => .event (.session e)

/-- What has happened on each connection. -/
structure Traffic (γ θ ρ : Type) where
  past : List (List (Session.Action γ θ ρ)) := []
  current : Option (List (Session.Action γ θ ρ)) := none

namespace Traffic

def note (t : Traffic γ θ ρ) (_ : Registration α γ θ ρ) : Action γ θ ρ → Traffic γ θ ρ
  | .event .opened => { t with current := some [] }
  | .move .conclude => { past := t.past ++ t.current.toList, current := none }
  | a => { t with current := t.current.map (· ++ a.lowered) }

/-- Connection by connection, in the order in which they were opened. -/
def connections (t : Traffic γ θ ρ) : List (List (Session.Action γ θ ρ)) :=
  t.past ++ t.current.toList

end Traffic

/-- The traffic of a run that begins in `r`. -/
def traffic (r : Registration α γ θ ρ) (plan : Plan α θ) (actions : List (Action γ θ ρ)) :
    Traffic γ θ ρ :=
  Runs.noted (fun r a => r.act plan a) Traffic.note {} r actions

/-- These actions, and no others, have brought the session from its opening to where it is. -/
def Traces (plan : Plan α θ) (s : Session α γ θ ρ) (actions : List (Session.Action γ θ ρ)) : Prop :=
  ∃ openedAt arguments,
    (Session.opened plan.terms.settings openedAt arguments).run plan.terms actions = some s

structure Connected (plan : Plan α θ) (t : Traffic γ θ ρ) (r : Registration α γ θ ρ) : Prop where
  past : List.Forall₂ (Traces plan) r.closed t.past
  current : List.Forall₂ (Traces plan) r.current?.toList t.current.toList
  ended : ∀ s ∈ r.closed, s.phase.isEnded = true
  /-- The stop signal reaches the session when it fires, and so does the clock. -/
  unstopped : r.stop = none → ∀ since s, r.phase = .talking since s → s.Unstopped
  clock : ∀ since s, r.phase = .talking since s → s.now = r.now

variable {plan : Plan α θ} {t : Traffic γ θ ρ} {r r' : Registration α γ θ ρ} {a : Action γ θ ρ}

/-! Connections. -/

@[simp] theorem startAttempt_connections (r : Registration α γ θ ρ) (plan : Plan α θ) :
    (r.startAttempt plan).connections = r.connections := by
  unfold startAttempt
  cases plan.handshake <;> rfl

@[simp] theorem failAttempt_connections (r : Registration α γ θ ρ) (plan : Plan α θ)
    (fault : AttemptFault) (connected : Bool) :
    (r.failAttempt plan fault connected).connections = r.connections := by
  obtain ⟨h, _, same⟩ := failAttempt_eq r plan fault connected
  rw [same]

/-- Connections are only ever added, and only when they are left behind. -/
theorem Effect.connections (effect : Effect plan r a r') :
    r'.connections = r.connections ++ (r.closing? a).toList := by
  cases effect with
  | begin => simp [closing?]
  | dial | connect | welcome | wake | elapse | stop => simp [closing?, openSession, onStop]
  | session since now s s' x talking lifts => cases lifts <;> simp [closing?]
  | fail fault welcome? connections fails left => simp [left]
  | complete since time s connections talking finished left => exact left
  | cancelled since time s connections talking finished left => exact left
  | heed connections heeds stopped left => exact left

theorem Effect.closed (effect : Effect plan r a r') :
    r'.closed = r.closed ++ ((r.closing? a).bind Connection.session).toList := by
  unfold Registration.closed
  rw [effect.connections, List.filterMap_append]
  cases r.closing? a with
  | none => rfl
  | some c => cases session : c.session <;> simp [session]

theorem current_of_talking {since : Nat} {s : Session α γ θ ρ}
    (talking : r.phase = .talking since s) : r.current? = some s := by
  simp [current?, talking]

theorem current_eq_none : r.current? = none ↔ ∀ since s, r.phase ≠ .talking since s := by
  unfold current?
  split
  case h_1 since s talking => simp [talking]
  case h_2 alone => simp_all

/-! Steps. -/

theorem Connected.opened (identifiers : Uuid.Source) (begun : Nat) :
    Connected plan {} ({ identifiers, now := begun, started := begun } : Registration α γ θ ρ) where
  past := .nil
  current := .nil
  ended s member := by simp [Registration.closed] at member
  unstopped _ since s phase := by cases phase
  clock since s phase := by cases phase

/-- No session is under way, neither before nor after. -/
private theorem Connected.alone (connected : Connected plan t r) (before : r.current? = none)
    (after : r'.current? = none) (closed : r'.closed = r.closed) :
    Connected plan { t with current := t.current.map (· ++ a.lowered) } r' := by
  have none : t.current = none := by
    have lists := connected.current
    rw [before] at lists
    simpa using List.forall₂_nil_left_iff.mp lists
  have lasts := current_eq_none.mp after
  refine ⟨?_, ?_, ?_, ?_, ?_⟩
  · rw [closed]
    exact connected.past
  · rw [after, none]
    exact .nil
  · rw [closed]
    exact connected.ended
  · exact fun _ since s talking => absurd talking (lasts since s)
  · exact fun since s talking => absurd talking (lasts since s)

/-- The session under way goes on. -/
private theorem Connected.go_on (connected : Connected plan t r) {since : Nat}
    {s s' : Session α γ θ ρ} (talking : r.phase = .talking since s)
    (next : r'.phase = .talking since s') (closed : r'.closed = r.closed)
    (ran : s.run plan.terms a.lowered = some s') (unstopped : r'.stop = none → s'.Unstopped)
    (clock : s'.now = r'.now) :
    Connected plan { t with current := t.current.map (· ++ a.lowered) } r' := by
  have lists := connected.current
  rw [current_of_talking talking] at lists
  refine ⟨?_, ?_, ?_, ?_, ?_⟩
  · rw [closed]
    exact connected.past
  · rw [current_of_talking next]
    cases here : t.current with
    | none =>
      rw [here] at lists
      cases lists
    | some actions =>
      rw [here] at lists
      obtain ⟨openedAt, arguments, reached⟩ := (List.forall₂_cons.mp lists).1
      refine .cons ⟨openedAt, arguments, ?_⟩ .nil
      exact Runs.foldlM_append.mpr ⟨s, reached, ran⟩
  · rw [closed]
    exact connected.ended
  · intro quiet since' s'' phase
    rw [next] at phase
    cases phase
    exact unstopped quiet
  · intro since' s'' phase
    rw [next] at phase
    cases phase
    exact clock

/-- The session under way is over, and its connection with it. -/
private theorem Connected.conclude (connected : Connected plan t r) {since time : Nat}
    {s : Session α γ θ ρ} {outcome : Session.Outcome} (talking : r.phase = .talking since s)
    (ended : s.phase = .ended outcome time) (after : r'.current? = none)
    (closed : r'.closed = r.closed ++ [s]) :
    Connected plan { past := t.past ++ t.current.toList, current := none } r' := by
  have lasts := current_eq_none.mp after
  have lists := connected.current
  rw [current_of_talking talking] at lists
  refine ⟨?_, ?_, ?_, ?_, ?_⟩
  · rw [closed]
    exact List.rel_append connected.past lists
  · rw [after]
    exact .nil
  · rw [closed]
    intro x member
    rcases List.mem_append.mp member with before | last
    · exact connected.ended x before
    · rw [List.mem_singleton.mp last, ended]
      rfl
  · exact fun _ since s talking => absurd talking (lasts since s)
  · exact fun since s talking => absurd talking (lasts since s)

/-- Both signals reach a session that has not had them. -/
theorem onStop_talking (plan : Plan α θ) {since : Nat} {s : Session α γ θ ρ}
    (talking : r.phase = .talking since s) (stop : s.stop = none) (cancel : s.cancel = none) :
    ∃ s', (r.onStop plan).phase = .talking since s' ∧
      s.run plan.terms [.event .stop, .event .cancel] = some s' ∧
      s' = { s with stop := some s.now, cancel := some s.now } := by
  refine ⟨{ s with stop := some s.now, cancel := some s.now }, ?_, ?_, rfl⟩
  · simp [onStop, talking, Session.receive, stop, cancel]
  · simp [Session.run, Session.act, Session.receive, stop, cancel]

theorem Connected.step (connected : Connected plan t r) (effect : Effect plan r a r') :
    Connected plan (t.note r a) r' := by
  have closed := effect.closed
  cases effect with
  | begin ready =>
    refine connected.alone (by simp [current?, ready]) ?_ (by simpa [closing?] using closed)
    unfold startAttempt
    cases plan.handshake <;> rfl
  | dial arguments since limit client answer result greeting =>
    exact connected.alone (by simp [current?, greeting]) rfl (by simpa [closing?] using closed)
  | connect arguments since dialing =>
    have closed : (r.openSession plan arguments since).closed = r.closed := by
      simpa [closing?] using closed
    refine ⟨?_, ?_, ?_, ?_, ?_⟩
    · rw [closed]
      exact connected.past
    · exact .cons ⟨_, _, rfl⟩ .nil
    · rw [closed]
      exact connected.ended
    · intro _ since' s' phase
      cases phase
      exact .opened ..
    · intro since' s' phase
      cases phase
      rfl
  | session since now s s' x talking lifts acted =>
    have happened := Session.Effect.of_act acted
    have lowered : a.lowered = [x] := by cases lifts <;> rfl
    have note : t.note r a = { t with current := t.current.map (· ++ a.lowered) } := by
      cases lifts <;> rfl
    rw [note]
    refine connected.go_on talking rfl ?_ ?_ (fun quiet => ?_) ?_
    · apply closed.trans
      cases lifts <;> simp [closing?]
    · rw [lowered]
      exact Runs.foldlM_cons.mpr ⟨s', acted, rfl⟩
    · exact (connected.unstopped quiet since s talking).step lifts.unsignalled.1 happened
    · have before := connected.clock since s talking
      cases lifts with
      | move m => exact (happened.now_eq (by simp)).trans before
      | event e allowed =>
        refine (happened.now_eq ?_).trans before
        rintro time same
        cases same
        cases allowed
      | elapse time later =>
        cases happened with
        | control control =>
          cases control
          rfl
        | finish o ends => cases ends
        | flush cause outbox flushes => cases flushes
        | endJob i t how outbox job ends => cases ends
        | sink b outbox sunk => cases sunk
  | welcome since s payload talking accepted =>
    have served : s.act plan.terms (.event .serve) = some (s.serve plan.terms) := by
      simp [Session.act, Session.receive, accepted]
    refine connected.go_on talking rfl (by simpa [closing?] using closed) ?_ (fun quiet => ?_) ?_
    · exact Runs.foldlM_cons.mpr ⟨_, served, rfl⟩
    · exact (connected.unstopped quiet since s talking).step rfl (.of_act served)
    · exact connected.clock since s talking
  | fail fault welcome? connections fails left =>
    have silent :
        (failAttempt { r with connections } plan fault welcome?.isSome).current? = none := by
      obtain ⟨h, _, same⟩ := failAttempt_eq { r with connections } plan fault welcome?.isSome
      rw [same]
      cases plan.policy h <;> simp [current?]
    cases fails with
    | timeout arguments since limit client greeting
    | handshake arguments since limit client answer fault greeting =>
      exact connected.alone (by simp [current?, greeting]) silent (by simpa [closing?] using closed)
    | opening arguments since fault dialing =>
      exact connected.alone (by simp [current?, dialing]) silent
        (by simpa [closing?, dialing] using closed)
    | call since time s fault talking finished =>
      exact connected.conclude talking finished silent (by simpa [closing?, talking] using closed)
  | complete since time s connections talking finished =>
    exact connected.conclude talking finished rfl (by simpa [closing?, talking] using closed)
  | cancelled since time s connections talking finished =>
    exact connected.conclude talking finished rfl (by simpa [closing?, talking] using closed)
  | heed connections heeds stopped =>
    cases heeds with
    | start ready =>
      exact connected.alone (by simp [current?, ready]) rfl (by simpa [closing?] using closed)
    | greeting arguments since limit greeting =>
      exact connected.alone (by simp [current?, greeting]) rfl
        (by simpa [closing?, greeting] using closed)
    | dialing arguments since dialing =>
      exact connected.alone (by simp [current?, dialing]) rfl
        (by simpa [closing?, dialing] using closed)
    | resting wake resting =>
      exact connected.alone (by simp [current?, resting]) rfl
        (by simpa [closing?, resting] using closed)
  | wake wake resting =>
    exact connected.alone (by simp [current?, resting]) rfl (by simpa [closing?] using closed)
  | elapse time later alone =>
    exact connected.alone (current_eq_none.mpr alone) (current_eq_none.mpr alone)
      (by simpa [closing?] using closed)
  | stop unset =>
    cases phase : r.phase with
    | talking since s =>
      have before := connected.unstopped unset since s phase
      obtain ⟨s', next, ran, rfl⟩ := onStop_talking plan phase before.stop before.cancel
      refine connected.go_on phase next (by simpa [closing?] using closed) ran (fun quiet => ?_) ?_
      · cases quiet
      · exact connected.clock since s phase
    | ready | greeting | dialing | resting | ended =>
      refine connected.alone ?_ ?_ (by simpa [closing?] using closed)
      · simp [current?, phase]
      · simp [current?, onStop, phase]

theorem Connected.of_run {identifiers : Uuid.Source} {begun : Nat} {actions : List (Action γ θ ρ)}
    (ran : ({ identifiers, now := begun, started := begun } : Registration α γ θ ρ).run plan
      actions = some r) :
    Connected plan (({ identifiers, now := begun, started := begun } :
      Registration α γ θ ρ).traffic plan actions) r :=
  Runs.noted_induction (fun _ => True)
    (fun _ _ _ _ _ connected acted => connected.step (.of_act acted))
    (.opened identifiers begun) (fun _ _ => trivial) ran

/-- The session under way is one that its own actions can lead to. -/
theorem Connected.steady (connected : Connected plan t r) {since : Nat} {s : Session α γ θ ρ}
    (talking : r.phase = .talking since s) : s.Steady plan.terms := by
  have lists := connected.current
  rw [current_of_talking talking] at lists
  cases here : t.current with
  | none =>
    rw [here] at lists
    cases lists
  | some actions =>
    rw [here] at lists
    obtain ⟨openedAt, arguments, reached⟩ := (List.forall₂_cons.mp lists).1
    exact .of_run reached

end Dialback.Registration
