import Dialback.Proofs.Registration.Connections
import Dialback.Proofs.Registration.Law
import Dialback.Proofs.Session.Gaps

/-!
Attempts do not overlap and share nothing. A session that has ended has neither a writer nor a job
left, so however it ended nothing more happens on its connection; a registration leaves a connection
behind only then, and every response on a connection replies to a request read on that connection.
-/
namespace Dialback.Session

variable {α γ θ ρ : Type}

/-- Something of the session is left: its loop, its writer or a job. -/
def isAlive (s : Session α γ θ ρ) : Bool :=
  !s.phase.isEnded || !s.outbox.writer.hasEnded || s.jobs.any fun t => !t.hasEnded

/-- Nothing has been written in between and no job has gone on. -/
structure Untouched (s s' : Session α γ θ ρ) : Prop where
  wire : s'.wire = s.wire
  jobs : s'.jobs = s.jobs

/-- What is written on the connection of this session answers what was read there. -/
structure RepliesOnly (l : Log γ θ ρ) (s : Session α γ θ ρ) : Prop where
  read : l.read <+: l.arrived
  replies : ∀ sent, sent <+: s.handed →
    List.Forall₂ l.Replies (sent.filterMap ClientMessage.response?) (l.repliedTo sent)
  wire : s.wire.map Prod.snd <+: s.handed

variable {l : Log γ θ ρ} {s s' : Session α γ θ ρ} {terms : Terms θ} {a : Action γ θ ρ}
  {arguments : ConnectArguments α}

theorem isAlive_eq_false : s.isAlive = false ↔
    s.phase.isEnded = true ∧ s.outbox.writer.hasEnded = true ∧ s.live = 0 := by
  simp [isAlive, live_eq_zero, and_assoc]

/-- A session outlives neither its writer nor its jobs, however it ends. -/
theorem Tended.not_alive (tended : Tended s) (ended : s.phase.isEnded = true) :
    s.isAlive = false := by
  have settled := tended.settled (Phase.isClosed_of_isEnded ended)
  exact isAlive_eq_false.mpr ⟨ended, tended.ended ended, settled⟩

theorem Untouched.refl (s : Session α γ θ ρ) : Untouched s s := ⟨rfl, rfl⟩

theorem Untouched.trans {s'' : Session α γ θ ρ} (first : Untouched s s')
    (second : Untouched s' s'') : Untouched s s'' :=
  ⟨second.wire.trans first.wire, second.jobs.trans first.jobs⟩

/-- Where nothing is left nothing happens. -/
theorem Effect.untouched (effect : Effect terms s a s') (gone : s.isAlive = false) :
    s'.isAlive = false ∧ Untouched s s' := by
  obtain ⟨ended, written, settled⟩ := isAlive_eq_false.mp gone
  have quiet : ∀ (i : Nat) (t : Job θ), s.jobs[i]? = some t → t.hasEnded = true := fun i t job =>
    live_eq_zero.mp settled t (List.mem_of_getElem? job)
  cases effect with
  | control control =>
    cases control with
    | stop | cancel | elapse => exact ⟨gone, rfl, rfl⟩
    | introduced phase | serve payload phase | heedStop limit phase | heedWriter limit phase
    | giveUpServicing limit d phase | drainOver cause limit phase
    | overrun limit x rest phase =>
      simp [phase, Phase.isEnded] at ended
  | finish outcome ends =>
    cases ends with
    | introductionFailed fault phase | cancelConnect limit phase | giveUpConnecting limit phase
    | aborted fault phase | settle cause how phase => simp [phase, Phase.isEnded] at ended
  | arrive => exact ⟨gone, rfl, rfl⟩
  | accept limit payload rest phase | dismiss limit x rest outcome phase =>
    simp [phase, Phase.isEnded] at ended
  | ignore x rest reading | hangUp x rest cause reading | ping rest outbox reading
  | pingRefused rest reading | dispatch request rest outbox reading =>
    simp [reading.past.2] at ended
  | join i t job unnoticed joining =>
    cases joining with
    | servicing limit phase | draining cause limit phase | aborting cause phase =>
      simp [phase, Phase.isEnded] at ended
  | joinPanicked i t limit job unnoticed phase => simp [phase, Phase.isEnded] at ended
  | flush cause outbox flushes =>
    cases flushes with
    | drained cause limit phase | aborted cause phase => simp [phase, Phase.isEnded] at ended
  | ask i t job stage | start i t permits job stage
  | answer i t response outbox job stage
  | place i t placed outbox job stage =>
    have finished := quiet i t job
    simp [Job.hasEnded, Stage.isEnded, stage] at finished
  | endJob i t how outbox job ends =>
    have finished := quiet i t job
    rw [ends.lasts] at finished
    cases finished
  | sink b outbox sunk work =>
    rw [work.unended] at written
    cases written

theorem untouched_of_run {actions : List (Action γ θ ρ)} (gone : s.isAlive = false)
    (ran : s.run terms actions = some s') : s'.isAlive = false ∧ Untouched s s' := by
  have step : ∀ (m : Session α γ θ ρ) (a : Action γ θ ρ) (next : Session α γ θ ρ), True →
      m.isAlive = false ∧ Untouched s m → m.act terms a = some next →
      next.isAlive = false ∧ Untouched s next := by
    rintro m a next - ⟨gone, before⟩ acted
    obtain ⟨gone, after⟩ := (Effect.of_act acted).untouched gone
    exact ⟨gone, before.trans after⟩
  exact Runs.preserved (fun _ => True) step ⟨gone, .refl s⟩ (fun _ _ => trivial) ran

theorem Sound.repliesOnly (sound : Sound terms arguments l s) : RepliesOnly l s where
  read := by
    rw [sound.heard.arrived]
    exact List.prefix_append _ _
  replies _ before := sound.replies_repliedTo before
  wire := sound.wire_handed

end Dialback.Session

namespace Dialback.Registration

variable {α γ θ ρ : Type}

/-- The session has come about by these actions alone, and replies to nothing else. -/
def Confined (plan : Plan α θ) (s : Session α γ θ ρ) (actions : List (Session.Action γ θ ρ)) :
    Prop :=
  ∃ openedAt arguments, ∃ start : Session α γ θ ρ,
    start = .opened plan.terms.settings openedAt arguments ∧
    start.run plan.terms actions = some s ∧
    Session.RepliesOnly (start.log plan.terms actions) s

structure Isolated (plan : Plan α θ) (t : Traffic γ θ ρ) (r : Registration α γ θ ρ) : Prop where
  confined : List.Forall₂ (Confined plan) r.sessions t.connections
  /-- However an attempt returns, nothing of its session is left. -/
  returned : ∀ s ∈ r.sessions, s.phase.isEnded = true → s.isAlive = false
  /-- What is left behind has returned. -/
  behind : ∀ s ∈ r.closed, s.isAlive = false
  apart : r.sessions.countP Session.isAlive ≤ 1
  /-- Whatever may happen to a session that was left behind, it writes nothing and runs nothing. -/
  silent : ∀ s ∈ r.closed, ∀ rest s', s.run plan.terms rest = some s' →
    s'.isAlive = false ∧ s.Untouched s'
  /-- What is left behind stays as it was. -/
  kept : ∀ after r', r.run plan after = some r' → r.closed <+: r'.closed

variable {plan : Plan α θ} {t : Traffic γ θ ρ} {r r' : Registration α γ θ ρ}

theorem closed_of_run {actions : List (Action γ θ ρ)} (ran : r.run plan actions = some r') :
    r.closed <+: r'.closed := by
  have step : ∀ (m : Registration α γ θ ρ) (a : Action γ θ ρ) (next : Registration α γ θ ρ), True →
      r.closed <+: m.closed → m.act plan a = some next → r.closed <+: next.closed := by
    intro m a next _ before acted
    rw [(Effect.of_act acted).closed]
    exact before.trans (List.prefix_append _ _)
  exact Runs.preserved (fun _ => True) step (List.prefix_refl r.closed) (fun _ _ => trivial) ran

theorem Connected.sessions (connected : Connected plan t r) :
    List.Forall₂ (Traces plan) r.sessions t.connections :=
  List.rel_append connected.past connected.current

theorem Traces.confined {s : Session α γ θ ρ} {actions : List (Session.Action γ θ ρ)}
    (traces : Traces plan s actions) : Confined plan s actions := by
  obtain ⟨openedAt, arguments, ran⟩ := traces
  exact ⟨openedAt, arguments, _, rfl, ran, (Session.Sound.of_run ran).repliesOnly⟩

theorem Traces.returned {s : Session α γ θ ρ} {actions : List (Session.Action γ θ ρ)}
    (traces : Traces plan s actions) (ended : s.phase.isEnded = true) : s.isAlive = false := by
  obtain ⟨openedAt, arguments, ran⟩ := traces
  exact (Session.Sound.of_run ran).tended.not_alive ended

/-- At every moment of every run, whatever the remote ends, handlers and writers do. -/
theorem attempts_isolated {identifiers : Uuid.Source} {begun : Nat} {actions : List (Action γ θ ρ)}
    (ran : ({ identifiers, now := begun, started := begun } : Registration α γ θ ρ).run plan
      actions = some r) :
    Isolated plan (({ identifiers, now := begun, started := begun } :
      Registration α γ θ ρ).traffic plan actions) r := by
  have connected := Connected.of_run ran
  have traced := connected.sessions
  have returned : ∀ s ∈ r.sessions, s.phase.isEnded = true → s.isAlive = false :=
    ((List.forall₂_and_left _ _).mp
      (traced.imp fun _ _ traces => ⟨traces.returned, traces⟩)).1
  have behind : ∀ s ∈ r.closed, s.isAlive = false := fun s member =>
    returned s (List.mem_append_left _ member) (connected.ended s member)
  refine ⟨traced.imp fun _ _ traces => traces.confined, returned, behind, ?_, ?_, ?_⟩
  · have nothing : r.closed.countP Session.isAlive = 0 := by
      simpa [List.countP_eq_zero] using behind
    have few : r.current?.toList.countP Session.isAlive ≤ r.current?.toList.length :=
      List.countP_le_length
    have one : r.current?.toList.length ≤ 1 := by cases r.current? <;> simp
    rw [Registration.sessions, List.countP_append]
    omega
  · exact fun s member rest s' ran => Session.untouched_of_run (behind s member) ran
  · exact fun after r' ran => closed_of_run ran

/-- The handler of the first connection panics; the second connection answers a request. -/
def relapse : List (Action String Nat String) :=
  [.move .start, .event .opened] ++ Session.exchangeReading.map raised ++
    [.move (.session (.ask 0)), .move (.session (.start 0)), .event (.session (.panic 0)),
      .move (.session (.join 0)), .move (.session (.abort 1)), .move (.session (.join 1)),
      .move (.session .aborted), .move .conclude, .move .wake, .move .start, .event .opened] ++
    Session.exchangeReading.map raised ++
    (Session.exchangeJob 0 { payload := "ten" }).map raised

theorem attempts_isolated_relapse :
    ∃ r : Registration String String Nat String,
      ({ identifiers := ⟨1⟩ } : Registration String String Nat String).run twicePlan relapse =
        some r ∧
      r.sessions.map Session.isAlive = [false, true] ∧
      r.sessions.map (·.wire.length) = [2, 3] ∧
      Isolated twicePlan (({ identifiers := ⟨1⟩ } :
        Registration String String Nat String).traffic twicePlan relapse) r :=
  ⟨_, rfl, rfl, rfl, attempts_isolated rfl⟩

end Dialback.Registration
