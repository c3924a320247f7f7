import Dialback.Proofs.Session.Closing
import Dialback.Proofs.Session.Seats
import Mathlib.Logic.Relation

/-!
Jobs and writer never block each other. A job takes three things one after another: the end of the
job before it in its partition, a permit, and room in the queue, for which it waits with the permit
in its hand. Whoever has a permit waits for the writer only, and waiting for a predecessor leads to
earlier jobs; so unless a handler is running, somebody can go on.
-/
namespace Dialback.Session

variable {α γ θ ρ : Type}

/-- Steps of jobs and of the writer, whose sink accepts what it is handed. -/
def Action.byWorkers : Action γ θ ρ → Bool
  | .move (.ask _) | .move (.start _) | .move (.place _) | .move (.refuse _) | .move (.abort _)
  | .move .pick | .event .wrote => true
  | _ => false

/-- A job is let into the line or gets a permit. -/
def Action.seats : Action γ θ ρ → Bool
  | .move (.ask _) | .move (.start _) => true
  | _ => false

/-- Some job has not ended, or some message is not written. -/
def HasWork (s : Session α γ θ ρ) : Prop :=
  (∃ t ∈ s.jobs, t.hasEnded = false) ∨ s.outbox.pongs ≠ [] ∨ s.outbox.queue ≠ [] ∨
    s.outbox.underway ≠ []

/-- A job that has not ended waits for the end of another. -/
def Awaits (s : Session α γ θ ρ) (i k : Nat) : Prop :=
  ∃ t, s.jobs[i]? = some t ∧ t.hasEnded = false ∧ t.behind = some k

/-- An earlier job of the same partition has not ended. -/
def Backlogged (s : Session α γ θ ρ) (i : Nat) : Prop :=
  ∃ t u k, s.jobs[i]? = some t ∧ k < i ∧ s.jobs[k]? = some u ∧ u.partition = t.partition ∧
    u.hasEnded = false

structure NeverStuck (terms : Terms θ) (s : Session α γ θ ρ) : Prop where
  /-- Unless a handler is running, whatever is left to do goes on, and comes nearer to its end. -/
  moves : s.HasWork → (s.phase.isAborting = false → ∀ t ∈ s.jobs, t.stage ≠ .running) →
    ∃ a s', a.byWorkers = true ∧ s.act terms a = some s' ∧ s'.remaining < s.remaining
  /-- Whoever stands in line or has a permit waits for nobody: the predecessor has ended, and unless
  jobs are being torn down, so have all earlier jobs of the partition. -/
  unhindered : ∀ (i : Nat) (t : Job θ), s.jobs[i]? = some t →
    t.stage = .inLine ∨ t.stage.holdsPermit = true →
      s.released t = true ∧ (s.phase.isAborting = false → ¬ s.Backlogged i)
  acyclic : ∀ i, ¬ Relation.TransGen s.Awaits i i
  /-- Every permit is free or in the hands of one job. -/
  permits : s.permits.free + s.jobs.countP (·.stage.holdsPermit) = terms.settings.permits
  /-- Jobs can be seated until all permits are taken, or else the only jobs without one are behind
  others of their own partitions. -/
  shares : ∃ actions s', (∀ a ∈ actions, a.seats = true) ∧
    s.run terms actions = some s' ∧ (s'.permits.free = 0 ∨
      ∀ (i : Nat) (t : Job θ), s'.jobs[i]? = some t → t.hasEnded = false →
        t.stage.holdsPermit = false → s'.Backlogged i)

/-- What the argument relies on, at every moment. -/
structure Orderly (terms : Terms θ) (s : Session α γ θ ρ) : Prop where
  sound : ∃ (arguments : ConnectArguments α) (l : Log γ θ ρ), Sound terms arguments l s
  seated : Seated terms.settings s

variable {s s' : Session α γ θ ρ} {terms : Terms θ} {a : Action γ θ ρ}

theorem Orderly.step (orderly : Orderly terms s) (effect : Effect terms s a s') :
    Orderly terms s' := by
  obtain ⟨arguments, l, sound⟩ := orderly.sound
  exact ⟨⟨arguments, _, sound.step effect⟩, orderly.seated.step effect⟩

theorem Orderly.opened (openedAt : Nat) (arguments : ConnectArguments α) :
    Orderly terms (Session.opened terms.settings openedAt arguments : Session α γ θ ρ) where
  sound := ⟨arguments, {}, .opened terms.settings openedAt arguments⟩
  seated := .opened terms.settings openedAt arguments

theorem Orderly.of_run {openedAt : Nat} {arguments : ConnectArguments α}
    {actions : List (Action γ θ ρ)}
    (ran : (Session.opened terms.settings openedAt arguments).run terms actions = some s) :
    Orderly terms s :=
  Runs.preserved (fun _ => True) (fun _ _ _ _ orderly acted => orderly.step (.of_act acted))
    (.opened openedAt arguments) (fun _ _ => trivial) ran

/-! What a job needs to go on. -/

theorem act_job {i : Nat} {t : Job θ} (job : s.jobs[i]? = some t) :
    s.act terms (.move (.ask i)) = s.ask? i t ∧ s.act terms (.move (.start i)) = s.start? i t ∧
      s.act terms (.move (.place i)) = s.place? i t ∧
      s.act terms (.move (.refuse i)) = s.refuse? i t := by
  simp [act, advance, onJob?, job]

theorem ask_isSome {i : Nat} {t : Job θ} (job : s.jobs[i]? = some t)
    (waiting : t.stage = .waiting) (released : s.released t = true) :
    (s.act terms (.move (.ask i))).isSome = true := by
  rw [(act_job job).1, ask?, if_pos ⟨waiting, released⟩]
  rfl

/-- The first in line may take a free permit. -/
theorem Seated.start_isSome {settings : CallSettings} (seated : Seated settings s)
    (free : s.permits.free ≠ 0) {i : Nat} {rest : List Nat}
    (line : s.permits.line = i :: rest) : (s.act terms (.move (.start i))).isSome = true := by
  have inLine : (s.jobs.map Job.stage)[i]? = some .inLine := (seated.line i).mp (by simp [line])
  obtain ⟨t, job, stage⟩ := job_of_stage inLine
  have enters : s.permits.mayEnter i = true := by
    obtain ⟨n, more⟩ := Nat.exists_eq_succ_of_ne_zero free
    simp [Permits.mayEnter, line, more]
  rw [(act_job job).2.1, start?, guard, if_pos stage, Permits.enter?, if_pos enters]
  rfl

/-- There is room for the first response if nothing is queued. -/
theorem Seated.place_isSome {settings : CallSettings} (seated : Seated settings s)
    (held : 0 < s.outbox.handles)
    (working : s.outbox.writer.hasEnded = false) (queue : s.outbox.queue = []) {i : Nat}
    {m : ClientMessage α ρ} {rest : List (Nat × ClientMessage α ρ)}
    (offers : s.outbox.offers = (i, m) :: rest) :
    (s.act terms (.move (.place i))).isSome = true := by
  have offering : (s.jobs.map Job.stage)[i]? = some .offering :=
    (seated.offers i).mp (by simp [offers])
  obtain ⟨t, job, stage⟩ := job_of_stage offering
  have room : ∃ n, s.outbox.room = n + 1 := by
    have positive : 0 < settings.buffer := Nat.lt_of_lt_of_le Nat.zero_lt_one (Nat.le_max_right _ _)
    refine Nat.exists_eq_add_one.mpr ?_
    simpa [Outbox.room, queue, seated.capacity] using positive
  obtain ⟨n, room⟩ := room
  have found : s.outbox.placeable? i = some m := by simp [Outbox.placeable?, offers, room]
  have placed : s.outbox.step (.place i) = some _ :=
    Outbox.step_place.mpr ⟨working, m, found, rfl⟩
  rw [(act_job job).2.2.1, place?, guard, if_pos stage]
  simp only [pure_bind, placed, Option.bind_eq_bind, Option.bind_some]
  exact endJob_isSome t .queued held

theorem refuse_isSome {i : Nat} {t : Job θ} (held : 0 < s.outbox.handles)
    (gone : s.outbox.writer.hasEnded = true)
    (job : s.jobs[i]? = some t) (offering : t.stage = .offering) :
    (s.act terms (.move (.refuse i))).isSome = true := by
  rw [(act_job job).2.2.2, refuse?, guard, if_pos ⟨offering, gone⟩]
  exact endJob_isSome t .refused held

/-! Waiting for a predecessor. -/

/-- Who is not released is behind an unfinished job of its own partition. -/
theorem Orderly.awaited (orderly : Orderly terms s) {i : Nat} {t : Job θ}
    (job : s.jobs[i]? = some t) (bound : s.released t = false) : s.Backlogged i := by
  obtain ⟨_, _, sound⟩ := orderly.sound
  cases behind : t.behind with
  | none => simp [released, behind] at bound
  | some k =>
    obtain ⟨less, u, here, partition⟩ := sound.chained.follows i k t job behind
    have unfinished : u.hasEnded = false := by
      simpa [released, behind, finished, here] using bound
    exact ⟨t, u, k, job, less, here, partition, unfinished⟩

theorem Orderly.unhindered (orderly : Orderly terms s) {i : Nat} {t : Job θ}
    (job : s.jobs[i]? = some t) (entered : t.stage = .inLine ∨ t.stage.holdsPermit = true) :
    s.released t = true ∧ (s.phase.isAborting = false → ¬ s.Backlogged i) := by
  obtain ⟨_, _, sound⟩ := orderly.sound
  have letIn : t.isLetIn = true := by
    cases stage : t.stage <;> simp_all [Job.isLetIn, Stage.holdsPermit]
  refine ⟨sound.chained.freed i t job letIn, ?_⟩
  rintro calm ⟨v, u, k, here, less, earlier, partition, unfinished⟩
  rw [job] at here
  cases here
  have isOpen := sound.tended.open_of_live earlier unfinished
  rcases sound.chained.ordered k i u t less earlier job partition letIn with ended | skipped
  · rw [ended] at unfinished
    cases unfinished
  · obtain ⟨m, _, _, _, skipped⟩ := sound.skips earlier partition skipped
    rw [sound.unskipped calm isOpen m] at skipped
    cases skipped

/-- Waiting leads to earlier jobs. -/
theorem Orderly.awaits_earlier (orderly : Orderly terms s) {i k : Nat}
    (chain : Relation.TransGen s.Awaits i k) : k < i := by
  obtain ⟨_, _, sound⟩ := orderly.sound
  have earlier : ∀ {i k : Nat}, s.Awaits i k → k < i := by
    rintro i k ⟨t, job, _, behind⟩
    exact (sound.chained.follows i k t job behind).1
  induction chain with
  | single waits => exact earlier waits
  | tail _ waits ih => exact Nat.lt_trans (earlier waits) ih

/-- If all that is left is waiting, the job at the head of some partition is let in. The induction
follows the predecessors. -/
theorem Orderly.ask_on (orderly : Orderly terms s)
    (waiting : ∀ t ∈ s.jobs, t.hasEnded = false → t.stage = .waiting) (i : Nat) {t : Job θ}
    (job : s.jobs[i]? = some t) (lasts : t.hasEnded = false) :
    ∃ j, (s.act terms (.move (.ask j))).isSome = true := by
  induction i using Nat.strongRecOn generalizing t with
  | ind i ih =>
    cases released : s.released t with
    | true =>
      exact ⟨i, ask_isSome job (waiting t (List.mem_of_getElem? job) lasts) released⟩
    | false =>
      obtain ⟨_, u, k, _, less, here, _, unfinished⟩ := orderly.awaited job released
      exact ih k less here unfinished

/-! Somebody can go on. -/

theorem Seated.free_of_unheld {settings : CallSettings} (seated : Seated settings s)
    (unheld : ∀ t ∈ s.jobs, t.stage.holdsPermit = false) : s.permits.free ≠ 0 := by
  have none : (s.jobs.map Job.stage).countP Stage.holdsPermit = 0 := by
    simpa [List.countP_eq_zero] using unheld
  have all := seated.permits
  have positive : 1 ≤ settings.permits := Nat.le_max_right _ _
  omega

/-- The jobs by themselves go on if no handler is running and nothing is queued before them. -/
theorem Orderly.jobs_on (orderly : Orderly terms s) (queue : s.outbox.queue = [])
    {i : Nat} {t : Job θ} (job : s.jobs[i]? = some t) (lasts : t.hasEnded = false)
    (quiet : s.phase.isAborting = false → ∀ t ∈ s.jobs, t.stage ≠ .running) :
    ∃ a : Action γ θ ρ, a.byWorkers = true ∧ (s.act terms a).isSome = true := by
  obtain ⟨_, _, sound⟩ := orderly.sound
  have seated := orderly.seated
  have held : 0 < s.outbox.handles := by
    have handles := (sound.tended.held (sound.tended.open_of_live job lasts)).2
    unfold ownHandles at handles
    omega
  cases calm : s.phase.isAborting with
  | true => exact ⟨.move (.abort i), rfl, abort_isSome calm held job lasts⟩
  | false =>
    cases offers : s.outbox.offers with
    | cons e rest =>
      cases gone : s.outbox.writer.hasEnded with
      | true =>
        have offering := (seated.offers e.1).mp (by simp [offers])
        obtain ⟨u, here, stage⟩ := job_of_stage offering
        exact ⟨.move (.refuse e.1), rfl, refuse_isSome held gone here stage⟩
      | false =>
        exact ⟨.move (.place e.1), rfl, seated.place_isSome held gone queue offers⟩
    | nil =>
      have unheld : ∀ u ∈ s.jobs, u.stage.holdsPermit = false := by
        intro u member
        obtain ⟨j, here⟩ := List.mem_iff_getElem?.mp member
        have running := quiet calm u member
        have offering : u.stage ≠ .offering := by
          intro stage
          have known := (seated.offers j).mpr (by rw [stage_known here, stage])
          simp [offers] at known
        cases stage : u.stage <;> simp_all [Stage.holdsPermit]
      cases line : s.permits.line with
      | cons j rest =>
        exact ⟨.move (.start j), rfl, seated.start_isSome (seated.free_of_unheld unheld) line⟩
      | nil =>
        have waiting : ∀ u ∈ s.jobs, u.hasEnded = false → u.stage = .waiting := by
          intro u member unfinished
          obtain ⟨j, here⟩ := List.mem_iff_getElem?.mp member
          have free := unheld u member
          have outside : u.stage ≠ .inLine := by
            intro stage
            have known := (seated.line j).mpr (by rw [stage_known here, stage])
            simp [line] at known
          cases stage : u.stage <;>
            simp_all [Stage.holdsPermit, Job.hasEnded, Stage.isEnded]
        obtain ⟨j, able⟩ := orderly.ask_on waiting i job lasts
        exact ⟨.move (.ask j), rfl, able⟩

/-- A writer that is shutting down, or has ended, has nothing left to write. -/
theorem Orderly.idle_writer (orderly : Orderly terms s)
    (gone : s.outbox.writer.isShutting = true ∨ s.outbox.writer.hasEnded = true) :
    s.outbox.pongs = [] ∧ s.outbox.queue = [] := by
  obtain ⟨_, _, sound⟩ := orderly.sound
  exact gone.elim sound.conveyed.shut orderly.seated.cleared

theorem Orderly.goes_on (orderly : Orderly terms s) (work : s.HasWork)
    (quiet : s.phase.isAborting = false → ∀ t ∈ s.jobs, t.stage ≠ .running) :
    ∃ a : Action γ θ ρ, a.byWorkers = true ∧ (s.act terms a).isSome = true := by
  have byJobs : s.outbox.pongs = [] → s.outbox.queue = [] → s.outbox.underway = [] →
      ∃ a : Action γ θ ρ, a.byWorkers = true ∧ (s.act terms a).isSome = true := by
    intro pongs queue underway
    have live : ∃ t ∈ s.jobs, t.hasEnded = false := by
      simpa [HasWork, pongs, queue, underway] using work
    obtain ⟨t, member, lasts⟩ := live
    obtain ⟨i, job⟩ := List.mem_iff_getElem?.mp member
    exact orderly.jobs_on queue job lasts quiet
  cases writer : s.outbox.writer with
  | writing m since =>
    exact ⟨.event .wrote, rfl, by simp [act, receive, sink, Outbox.step, writer]⟩
  | idle =>
    by_cases empty : s.outbox.pongs = [] ∧ s.outbox.queue = []
    · exact byJobs empty.1 empty.2 (by simp [Outbox.underway, writer])
    · refine ⟨.move .pick, rfl, ?_⟩
      simp only [act, advance, Outbox.step, writer, Option.isSome_map, Outbox.picked?]
      split
      · rfl
      · rfl
      · simp_all
  | closing =>
    obtain ⟨pongs, queue⟩ := orderly.idle_writer (Or.inl (by rw [writer]; rfl))
    exact byJobs pongs queue (by simp [Outbox.underway, writer])
  | ended how =>
    obtain ⟨pongs, queue⟩ := orderly.idle_writer (Or.inr (by rw [writer]; rfl))
    exact byJobs pongs queue (by simp [Outbox.underway, writer])

/-! Sharing permits. -/

theorem Action.busy_of_byWorkers (works : a.byWorkers = true) :
    a.isIdle = false ∧ a ≠ .move .read := by
  unfold byWorkers at works
  split at works <;> simp_all [isIdle]

theorem Action.byWorkers_of_seats (seats : a.seats = true) : a.byWorkers = true := by
  unfold Action.seats at seats
  split at seats <;> simp_all [byWorkers]

/-- While a permit is free some job is seated, or all that have none are behind others. -/
theorem Orderly.seats_on (orderly : Orderly terms s) (free : s.permits.free ≠ 0) :
    (∃ a : Action γ θ ρ, a.seats = true ∧ (s.act terms a).isSome = true) ∨
      ∀ (i : Nat) (t : Job θ), s.jobs[i]? = some t → t.hasEnded = false →
        t.stage.holdsPermit = false → s.Backlogged i := by
  by_contra neither
  obtain ⟨stuck, someone⟩ := not_or.mp neither
  simp only [not_forall] at someone
  obtain ⟨i, t, job, lasts, unheld, alone⟩ := someone
  cases line : s.permits.line with
  | cons j rest =>
    exact stuck ⟨.move (.start j), rfl, orderly.seated.start_isSome free line⟩
  | nil =>
    have outside : t.stage ≠ .inLine := by
      intro stage
      have known := (orderly.seated.line i).mpr (by rw [stage_known job, stage])
      simp [line] at known
    have waiting : t.stage = .waiting := by
      cases stage : t.stage <;> simp_all [Stage.holdsPermit, Job.hasEnded, Stage.isEnded]
    cases released : s.released t with
    | true => exact stuck ⟨.move (.ask i), rfl, ask_isSome job waiting released⟩
    | false => exact alone (orderly.awaited job released)

theorem Orderly.shares (orderly : Orderly terms s) :
    ∃ actions s', (∀ a ∈ actions, a.seats = true) ∧ s.run terms actions = some s' ∧
      (s'.permits.free = 0 ∨ ∀ (i : Nat) (t : Job θ), s'.jobs[i]? = some t →
        t.hasEnded = false → t.stage.holdsPermit = false → s'.Backlogged i) := by
  induction work : s.remaining using Nat.strongRecOn generalizing s with
  | ind n ih =>
    by_cases free : s.permits.free = 0
    · exact ⟨[], s, by simp, rfl, Or.inl free⟩
    · rcases orderly.seats_on free with ⟨a, seats, able⟩ | behind
      · obtain ⟨next, acted⟩ := Option.isSome_iff_exists.mp able
        have effect := Effect.of_act acted
        obtain ⟨busy, unread⟩ := Action.busy_of_byWorkers (Action.byWorkers_of_seats seats)
        have less := effect.remaining_lt busy unread
        obtain ⟨rest, s', seated, ran, shared⟩ :=
          ih next.remaining (by omega) (orderly.step effect) rfl
        exact ⟨a :: rest, s', List.forall_mem_cons.mpr ⟨seats, seated⟩,
          Runs.foldlM_cons.mpr ⟨next, acted, ran⟩, shared⟩
      · exact ⟨[], s, by simp, rfl, Or.inr behind⟩

/-- In every run jobs and writer go on unless a handler is running. -/
theorem workers_never_stuck (openedAt : Nat) (arguments : ConnectArguments α)
    (actions : List (Action γ θ ρ))
    (ran : (Session.opened terms.settings openedAt arguments).run terms actions = some s) :
    NeverStuck terms s := by
  have orderly : Orderly terms s := .of_run ran
  refine ⟨?_, ?_, ?_, ?_, orderly.shares⟩
  · intro work quiet
    obtain ⟨a, works, able⟩ := orderly.goes_on work quiet
    obtain ⟨s', acted⟩ := Option.isSome_iff_exists.mp able
    obtain ⟨busy, unread⟩ := Action.busy_of_byWorkers works
    exact ⟨a, s', works, acted, (Effect.of_act acted).remaining_lt busy unread⟩
  · intro i t job entered
    exact orderly.unhindered job entered
  · intro i chain
    exact Nat.lt_irrefl i (orderly.awaits_earlier chain)
  · rw [← orderly.seated.permits, List.countP_map]
    rfl

/-- Settings of zero count as one permit and room for one response. -/
def narrowTerms : Terms Nat :=
  { exchangeTerms with settings := { maxConcurrency := 0, outboundBuffer := 0 } }

/-- The handler of the first request has panicked, the second response is offered and the third
request waits for its predecessor. -/
def narrowed : List (Action String Nat String) :=
  exchangeReading ++
    [.event (.arrive (.message (.request ⟨exchangeContext 3, 30⟩))), .move .read,
      .move (.ask 0), .move (.start 0), .event (.panic 0),
      .move (.ask 1), .move (.start 1), .event (.answer 1 { payload := "twenty" })]

theorem workers_never_stuck_narrowed :
    ∃ s : Session String String Nat String,
      (Session.opened narrowTerms.settings 0 { payload := "hello" }).run narrowTerms narrowed =
        some s ∧
      s.jobs.map Job.stage = [.ended .panicked, .offering, .waiting] ∧ s.permits.free = 0 ∧
      NeverStuck narrowTerms s :=
  ⟨_, rfl, rfl, rfl, workers_never_stuck 0 { payload := "hello" } narrowed rfl⟩

end Dialback.Session
