import Dialback.Proofs.Session.Pending
import Dialback.Proofs.Session.Table

/-!
Sweeping cannot be observed. A session that sweeps its table and one that never does differ in
traces of finished jobs only: entries of the table, and predecessors for which nobody waits any
more. What is left of a session without these decides what it can do, and every action leaves the
same of it, whether or not the table is swept.
-/
namespace Dialback.Session

variable {α γ θ ρ : Type}

/-- The job without a predecessor that has finished. -/
def Job.tidy (finished : Nat → Bool) (t : Job θ) : Job θ :=
  { t with behind := t.behind.filter fun k => !finished k }

def tidied (s : Session α γ θ ρ) (finished : Nat → Bool) : Session α γ θ ρ :=
  { s with jobs := s.jobs.map (Job.tidy finished), lanes := s.lanes.tidy finished }

/-- A session without traces of finished jobs: whom every job still waits for, and the lanes whose
latest job is unfinished. -/
def essence (s : Session α γ θ ρ) : Session α γ θ ρ :=
  s.tidied s.finished

/-- The same terms with another limit of the table. -/
def Terms.limited (terms : Terms θ) (limit : Option Nat) : Terms θ :=
  { terms with laneLimit := limit }

/-- What can happen to a dispatcher by itself: requests, its jobs and their outbox, in any order.
Unlike in a session, jobs may be torn down at any time, and others dispatched behind them. -/
inductive DispatcherStep (α θ ρ : Type) where
  | dispatch (request : Request θ)
  | ask (job : Nat)
  | start (job : Nat)
  | answer (job : Nat) (response : Response ρ)
  | place (job : Nat)
  | refuse (job : Nat)
  | panic (job : Nat)
  | abort (job : Nat)
  | outbox (a : Outbox.Action (ClientMessage α ρ))

/-- The handler of the job panics. -/
def panic? (s : Session α γ θ ρ) (i : Nat) (t : Job θ) : Option (Session α γ θ ρ) :=
  if t.stage = .running then s.endJob? i t .panicked else none

/-- The job is torn down. -/
def abort? (s : Session α γ θ ρ) (i : Nat) (t : Job θ) : Option (Session α γ θ ρ) :=
  if t.hasEnded then none else s.endJob? i t .aborted

def dispatcherStep (s : Session α γ θ ρ) (terms : Terms θ) :
    DispatcherStep α θ ρ → Option (Session α γ θ ρ)
  | .dispatch request => s.dispatch? terms request
  | .ask job => s.onJob? job s.ask?
  | .start job => s.onJob? job s.start?
  | .answer job response => s.onJob? job fun i t => s.answer? i t response
  | .place job => s.onJob? job s.place?
  | .refuse job => s.onJob? job s.refuse?
  | .panic job => s.onJob? job s.panic?
  | .abort job => s.onJob? job s.abort?
  | .outbox a => s.sink a

def dispatcherRun (s : Session α γ θ ρ) (terms : Terms θ) (steps : List (DispatcherStep α θ ρ)) :
    Option (Session α γ θ ρ) :=
  steps.foldlM (fun s x => s.dispatcherStep terms x) s

/-- How a dispatcher gets to a state, as part of a session or by itself. -/
inductive Reaches (terms : Terms θ) (start s : Session α γ θ ρ) : Prop
  | serving (actions : List (Action γ θ ρ)) (ran : start.run terms actions = some s)
  | dispatching (steps : List (DispatcherStep α θ ρ))
      (ran : start.dispatcherRun terms steps = some s)

/-- A table that is swept once it has grown to this size goes unnoticed, and stays small. -/
structure SweptUnseen (terms : Terms θ) (limit : Nat) (start : Session α γ θ ρ) : Prop where
  /-- The same sequences of actions are runs, and they end in the same states but for traces of
  finished jobs. -/
  runs : ∀ actions : List (Action γ θ ρ),
    (start.run (terms.limited (some limit)) actions).map essence =
      (start.run (terms.limited none) actions).map essence
  prompt : ∀ actions : List (Action γ θ ρ),
    (start.runPromptly (terms.limited (some limit)) actions).map essence =
      (start.runPromptly (terms.limited none) actions).map essence
  dispatching : ∀ steps : List (DispatcherStep α θ ρ),
    (start.dispatcherRun (terms.limited (some limit)) steps).map essence =
      (start.dispatcherRun (terms.limited none) steps).map essence
  /-- The latest job of a partition is in the table until it has finished. -/
  tracked : ∀ s, Reaches (terms.limited (some limit)) start s → ∀ p j, s.Latest p j →
    s.finished j = false → s.lanes.latest? p = some j
  bounded : ∀ s, Reaches (terms.limited (some limit)) start s → ∀ request s',
    s.dispatch? (terms.limited (some limit)) request = some s' →
      s'.lanes.size ≤ max limit (1 + s.busyPartitions.length)

variable {s s' u : Session α γ θ ρ} {terms : Terms θ} {a : Action γ θ ρ}
  {finished finished' : Nat → Bool}

/-! Without traces of finished jobs. -/

theorem finished_tidied (s : Session α γ θ ρ) (finished : Nat → Bool) :
    (s.tidied finished).finished = s.finished := by
  funext k
  simp only [Session.finished, tidied, List.getElem?_map]
  cases s.jobs[k]? <;> rfl

theorem Job.tidy_tidy {t : Job θ}
    (late : ∀ k, t.behind = some k → finished k = true → finished' k = true) :
    (t.tidy finished).tidy finished' = t.tidy finished' := by
  unfold tidy
  cases behind : t.behind with
  | none => rfl
  | some k =>
    have known := late k behind
    cases before : finished k <;> simp_all [Option.filter_some]

/-- Of what finishes later there are no traces left, either. -/
theorem essence_tidied (same : u = s.tidied finished)
    (late : ∀ k, finished k = true → s.finished k = true) : u.essence = s.essence := by
  subst same
  unfold essence
  rw [finished_tidied]
  have jobs : (s.jobs.map (Job.tidy finished)).map (Job.tidy s.finished) =
      s.jobs.map (Job.tidy s.finished) := by
    rw [List.map_map]
    exact List.map_congr_left fun t _ => Job.tidy_tidy fun k _ => late k
  have lanes := s.lanes.tidy_tidy fun e _ => late e.2
  simp only [tidied, jobs, lanes]

theorem setJob_tidied (s : Session α γ θ ρ) (finished : Nat → Bool) (i : Nat) (t : Job θ) :
    (s.tidied finished).setJob i (t.tidy finished) = (s.setJob i t).tidied finished := by
  simp only [setJob, tidied, List.map_set]

/-- Nobody waits for a predecessor that has finished. -/
theorem released_tidy (s : Session α γ θ ρ) (t : Job θ) :
    s.essence.released (t.tidy s.finished) = s.released t := by
  unfold released essence
  rw [finished_tidied]
  cases behind : t.behind with
  | none => simp [Job.tidy, behind]
  | some k => cases ended : s.finished k <;> simp [Job.tidy, behind, ended, Option.filter_some]

theorem guard_bind {σ : Type} {c : Prop} [Decidable c] {next : Unit → Option σ} :
    (guard c >>= next) = if c then next () else none := by
  unfold guard
  split <;> rfl

/-- A step of a job that goes by nothing but the essence of its session, and leaves other jobs
alone. -/
structure IsLocal
    (f : Session α γ θ ρ → Nat → Job θ → Option (Session α γ θ ρ)) : Prop where
  books : ∀ s i t s', f s i t = some s' →
    ∃ t', t.Advances t' ∧ s'.jobs = s.jobs.set i t' ∧ s'.lanes = s.lanes
  tidied : ∀ s i t, f s.essence i (t.tidy s.finished) = (f s i t).map (·.tidied s.finished)

theorem IsLocal.ask : IsLocal (fun s : Session α γ θ ρ => s.ask?) where
  books s i t s' asked := by
    simp only [ask?] at asked
    split at asked
    case isTrue able =>
      cases asked
      have lasts : t.hasEnded = false := Job.hasEnded_of_stage able.1
      exact ⟨t.withStage .inLine, .of_live lasts ⟨rfl, rfl, rfl⟩, rfl, rfl⟩
    case isFalse => cases asked
  tidied s i t := by
    have stage : (t.tidy s.finished).stage = t.stage := rfl
    have moved := setJob_tidied s s.finished i (t.withStage .inLine)
    simp only [ask?, released_tidy, stage]
    split
    · exact congrArg (fun u => some { u with permits := s.permits.ask i }) moved
    · rfl

theorem IsLocal.start : IsLocal (fun s : Session α γ θ ρ => s.start?) where
  books s i t s' started := by
    obtain ⟨inLine, started⟩ := guarded started
    obtain ⟨permits, _, same⟩ := Option.bind_eq_some_iff.mp started
    cases same
    have lasts : t.hasEnded = false := Job.hasEnded_of_stage inLine
    exact ⟨{ t with stage := .running, started := some s.now }, .of_live lasts ⟨rfl, rfl, rfl⟩,
      rfl, rfl⟩
  tidied s i t := by
    have stage : (t.tidy s.finished).stage = t.stage := rfl
    have permits : s.essence.permits = s.permits := rfl
    have moved := setJob_tidied s s.finished i
      { t with stage := .running, started := some s.now }
    unfold start?
    rw [guard_bind, guard_bind, stage, permits]
    split
    · cases s.permits.enter? i with
      | none => rfl
      | some permits' => exact congrArg (fun u => some { u with permits := permits' }) moved
    · rfl

theorem IsLocal.answer (response : Response ρ) :
    IsLocal (fun (s : Session α γ θ ρ) i t => s.answer? i t response) where
  books s i t s' answered := by
    obtain ⟨running, answered⟩ := guarded answered
    obtain ⟨outbox, _, same⟩ := Option.bind_eq_some_iff.mp answered
    cases same
    have lasts : t.hasEnded = false := Job.hasEnded_of_stage running
    exact ⟨{ t with stage := .offering, answered := some s.now }, .of_live lasts ⟨rfl, rfl, rfl⟩,
      rfl, rfl⟩
  tidied s i t := by
    have stage : (t.tidy s.finished).stage = t.stage := rfl
    have request : (t.tidy s.finished).request = t.request := rfl
    have outbox : s.essence.outbox = s.outbox := rfl
    have moved := setJob_tidied s s.finished i
      { t with stage := .offering, answered := some s.now }
    unfold answer?
    rw [guard_bind, guard_bind, stage, request, outbox]
    split
    · dsimp only
      cases s.outbox.step (.offer i (.response (response.withContext t.request.context))) with
      | none => rfl
      | some outbox' => exact congrArg (fun u => some { u with outbox := outbox' }) moved
    · rfl

theorem endJob_tidied (s : Session α γ θ ρ) (i : Nat) (t : Job θ) (how : JobEnd) :
    (s.tidied finished).endJob? i (t.tidy finished) how =
      (s.endJob? i t how).map (·.tidied finished) := by
  have stage : (t.tidy finished).stage = t.stage := rfl
  have outbox : (s.tidied finished).outbox = s.outbox := rfl
  have moved := setJob_tidied s finished i (t.withStage (.ended how))
  cases left : s.outbox.run [.withdraw i, .release] with
  | none => simp [endJob?, outbox, left]
  | some outbox' =>
    simp only [endJob?, stage, outbox, left]
    exact congrArg (fun u => some { u with
      outbox := outbox', permits := s.permitsAfter i t.stage }) moved

theorem endJob_books {i : Nat} {t : Job θ} {how : JobEnd} (lasts : t.hasEnded = false)
    (ended : s.endJob? i t how = some s') :
    ∃ t', t.Advances t' ∧ s'.jobs = s.jobs.set i t' ∧ s'.lanes = s.lanes := by
  obtain ⟨outbox, _, rfl⟩ := endJob_cases ended
  exact ⟨t.withStage (.ended how), .of_live lasts ⟨rfl, rfl, rfl⟩, rfl, rfl⟩

theorem IsLocal.place : IsLocal (fun s : Session α γ θ ρ => s.place?) where
  books s i t s' placed := by
    obtain ⟨offering, placed⟩ := guarded placed
    obtain ⟨outbox, _, ended⟩ := Option.bind_eq_some_iff.mp placed
    have known := endJob_books (Job.hasEnded_of_stage offering) ended
    exact known
  tidied s i t := by
    have stage : (t.tidy s.finished).stage = t.stage := rfl
    have outbox : s.essence.outbox = s.outbox := rfl
    unfold place?
    rw [guard_bind, guard_bind, stage, outbox]
    split
    · cases s.outbox.step (.place i) with
      | none => rfl
      | some outbox' => exact endJob_tidied { s with outbox := outbox' } i t .queued
    · rfl

theorem IsLocal.refuse : IsLocal (fun s : Session α γ θ ρ => s.refuse?) where
  books s i t s' refused := by
    obtain ⟨⟨offering, _⟩, refused⟩ := guarded refused
    exact endJob_books (Job.hasEnded_of_stage offering) refused
  tidied s i t := by
    have stage : (t.tidy s.finished).stage = t.stage := rfl
    have outbox : s.essence.outbox = s.outbox := rfl
    unfold refuse?
    rw [guard_bind, guard_bind, stage, outbox]
    split
    · exact endJob_tidied s i t .refused
    · rfl

theorem IsLocal.panic : IsLocal (fun s : Session α γ θ ρ => s.panic?) where
  books s i t s' panicked := by
    simp only [panic?] at panicked
    split at panicked
    case isTrue running =>
      exact endJob_books (Job.hasEnded_of_stage running) panicked
    case isFalse => cases panicked
  tidied s i t := by
    have stage : (t.tidy s.finished).stage = t.stage := rfl
    simp only [panic?, stage]
    split
    · exact endJob_tidied s i t .panicked
    · rfl

theorem IsLocal.abort : IsLocal (fun s : Session α γ θ ρ => s.abort?) where
  books s i t s' aborted := by
    simp only [abort?] at aborted
    split at aborted
    case isTrue => cases aborted
    case isFalse live => exact endJob_books (by simpa using live) aborted
  tidied s i t := by
    have stage : (t.tidy s.finished).hasEnded = t.hasEnded := rfl
    simp only [abort?, stage]
    split
    · rfl
    · exact endJob_tidied s i t .aborted

theorem IsLocal.join (terms : Terms θ) : IsLocal (fun s : Session α γ θ ρ => s.join? terms) where
  books s i t s' joined := by
    obtain ⟨_, joined⟩ := guarded joined
    refine ⟨{ t with joined := true }, .noticed t, ?_⟩
    cases phase : s.phase with
    | servicing limit =>
      rw [phase] at joined
      obtain ⟨_, joined⟩ := guarded joined
      split at joined <;> cases joined <;> exact ⟨rfl, rfl⟩
    | draining | aborting =>
      rw [phase] at joined
      cases joined
      exact ⟨rfl, rfl⟩
    | _ =>
      rw [phase] at joined
      cases joined
  tidied s i t := by
    have unnoticed : (t.tidy s.finished).unnoticed = t.unnoticed := rfl
    have stage : (t.tidy s.finished).stage = t.stage := rfl
    have essence : s.essence.phase = s.phase := rfl
    have undisturbed : s.essence.undisturbed = s.undisturbed := rfl
    have moved : s.essence.setJob i { t.tidy s.finished with joined := true } = _ :=
      setJob_tidied s s.finished i { t with joined := true }
    unfold join?
    rw [guard_bind, guard_bind, unnoticed, essence]
    by_cases noticed : t.unnoticed = true
    case neg =>
      rw [if_neg noticed, if_neg noticed]
      rfl
    rw [if_pos noticed, if_pos noticed]
    cases phase : s.phase with
    | servicing limit =>
      change (guard _ >>= _) = Option.map _ (guard _ >>= _)
      rw [guard_bind, guard_bind, undisturbed, stage]
      split
      · split
        · exact congrArg (fun u => some (u.leave terms (.fault .handlerPanicked))) moved
        · exact congrArg some moved
      · rfl
    | draining | aborting => exact congrArg some moved
    | _ => rfl

/-- A step of a job, if there is such a job. -/
theorem IsLocal.onJob {f : Session α γ θ ρ → Nat → Job θ → Option (Session α γ θ ρ)}
    (isLocal : IsLocal f) (s : Session α γ θ ρ) (i : Nat) :
    s.essence.onJob? i (f s.essence) = (s.onJob? i (f s)).map (·.tidied s.finished) := by
  unfold onJob?
  have jobs : s.essence.jobs[i]? = s.jobs[i]?.map (Job.tidy s.finished) := List.getElem?_map
  rw [jobs]
  cases s.jobs[i]? with
  | none => rfl
  | some t => exact isLocal.tidied s i t

theorem IsLocal.books_onJob {f : Session α γ θ ρ → Nat → Job θ → Option (Session α γ θ ρ)}
    (isLocal : IsLocal f) {i : Nat} (acted : s.onJob? i (f s) = some s') : Books s s' := by
  obtain ⟨t, job, did⟩ := Option.bind_eq_some_iff.mp acted
  obtain ⟨t', advances, jobs, lanes⟩ := isLocal.books s i t s' did
  exact .moved i t t' job advances jobs lanes

/-! Dispatching. -/

theorem finished_congr (stages : s'.jobs.map Job.stage = s.jobs.map Job.stage) :
    s'.finished = s.finished := by
  have known : ∀ (u : Session α γ θ ρ) (k : Nat),
      u.finished k = (u.jobs.map Job.stage)[k]?.all Stage.isEnded := by
    intro u k
    rw [Session.finished, List.getElem?_map]
    cases u.jobs[k]? <;> rfl
  funext k
  rw [known, known, stages]

variable {l l' : Lanes} {outbox : Outbox (ClientMessage α ρ)} {request : Request θ}
  {p : PartitionKey}

theorem finished_afterRequest {k : Nat} (inside : k < s.jobs.length) :
    (s.afterRequest l outbox request p).finished k = s.finished k := by
  simp [Session.finished, afterRequest, List.getElem?_append_left inside]

theorem unfinished_afterRequest :
    (s.afterRequest l outbox request p).finished s.jobs.length = false := by
  simp [Session.finished, afterRequest, Job.hasEnded, Stage.isEnded]

/-- If the tables found differ in finished jobs only, so do the sessions afterwards. -/
theorem Booked.essence_afterRequest (booked : Booked s) (keys : (l.entries.map Prod.fst).Nodup)
    (keys' : (l'.entries.map Prod.fst).Nodup)
    (tables : ∀ later : Nat → Bool,
      (∀ e ∈ s.lanes.entries, s.finished e.2 = true → later e.2 = true) →
        l'.tidy later = l.tidy later) :
    (s.essence.afterRequest l' outbox request p).essence =
      (s.afterRequest l outbox request p).essence := by
  have same : (s.essence.afterRequest l' outbox request p).finished =
      (s.afterRequest l outbox request p).finished := by
    refine finished_congr ?_
    simp only [afterRequest, essence, tidied, List.map_append, List.map_map]
    rfl
  have kept : ∀ k < s.jobs.length, (s.afterRequest l outbox request p).finished k = s.finished k :=
    fun k inside => finished_afterRequest inside
  have fresh : (s.afterRequest l outbox request p).finished s.jobs.length = false :=
    unfinished_afterRequest
  unfold essence at same ⊢
  rw [same]
  generalize (s.afterRequest l outbox request p).finished = later at kept fresh
  have table := tables later fun e member ended => by
    rw [kept e.2 (booked.inside member), ended]
  have behind : (l'.latest? p).filter (fun k => !later k) =
      (l.latest? p).filter fun k => !later k := by
    rw [← Lanes.latest_tidy keys', ← Lanes.latest_tidy keys, table]
  have old : (s.jobs.map (Job.tidy s.finished)).map (Job.tidy later) =
      s.jobs.map (Job.tidy later) := by
    rw [List.map_map]
    refine List.map_congr_left fun t member => Job.tidy_tidy fun k waits ended => ?_
    rw [kept k (booked.behind t member k waits), ended]
  have length : (s.tidied s.finished).jobs.length = s.jobs.length := List.length_map _
  simp only [tidied, afterRequest] at length ⊢
  simp only [List.map_append, old, length, Lanes.tidy_assign _ p fresh, table, List.map_singleton,
    Job.tidy, behind]

/-- A dispatched job is behind the same unfinished job, whether or not the table is swept. -/
theorem Booked.dispatch_essence (booked : Booked s) (terms : Terms θ) (request : Request θ)
    (limit limit' : Option Nat) :
    (s.essence.dispatch? (terms.limited limit') request).map essence =
      (s.dispatch? (terms.limited limit) request).map essence := by
  have outbox : s.essence.outbox = s.outbox := rfl
  have finished : s.essence.finished = s.finished := finished_tidied s s.finished
  have keys : ((s.lanes.tidy s.finished).entries.map Prod.fst).Nodup :=
    booked.keys.sublist (List.filter_sublist.map Prod.fst)
  have tables : ∀ later : Nat → Bool,
      (∀ e ∈ s.lanes.entries, s.finished e.2 = true → later e.2 = true) →
        ((s.lanes.tidy s.finished).sweep limit' s.finished).tidy later =
          (s.lanes.sweep limit s.finished).tidy later := by
    intro later late
    rw [s.lanes.tidy_sweep limit late, (s.lanes.tidy s.finished).tidy_sweep limit' fun e member =>
      late e (List.mem_of_mem_filter member)]
    exact s.lanes.tidy_tidy late
  rw [dispatch_eq, dispatch_eq, outbox, finished]
  cases s.outbox.step .retain with
  | none => rfl
  | some outbox =>
    exact congrArg some (booked.essence_afterRequest (Lanes.keys_sweep booked.keys _ _)
      (Lanes.keys_sweep keys _ _) tables)

/-! Sessions. -/

theorem hasUnnoticed_essence : s.essence.hasUnnoticed = s.hasUnnoticed := by
  simp only [hasUnnoticed, essence, tidied, List.any_map]
  rfl

theorem allJoined_essence : s.essence.allJoined = s.allJoined := by
  simp only [allJoined, essence, tidied, List.all_map]
  rfl

theorem attentive_essence : s.essence.attentive = s.attentive := by
  simp only [attentive, hasUnnoticed_essence]
  rfl

theorem flush_tidied (cause : Cause) :
    (s.tidied finished).flush? cause = (s.flush? cause).map (·.tidied finished) := by
  have outbox : (s.tidied finished).outbox = s.outbox := rfl
  cases left : s.outbox.run [.closePongs, .release, .release] with
  | none => simp [flush?, outbox, left]
  | some outbox' =>
    simp only [flush?, outbox, left]
    rfl

theorem onFirst_tidied (x : Inbound γ θ) (same : u = s.tidied finished) :
    u.onFirst x = (s.onFirst x).tidied finished := by
  subst same
  unfold onFirst
  split <;> rfl

theorem isOverdue_essence (terms : Terms θ) (limit limit' : Option Nat) (x : Inbound γ θ) :
    s.essence.isOverdue (terms.limited limit') x = s.isOverdue (terms.limited limit) x :=
  rfl

/-- Reading apart, a session and its essence make the same moves. -/
theorem advance_essence (m : Move) (other : m ≠ .read) (limit limit' : Option Nat) :
    s.essence.advance (terms.limited limit') m =
      (s.advance (terms.limited limit) m).map (·.tidied s.finished) := by
  have phase : s.essence.phase = s.phase := rfl
  have inbox : s.essence.inbox = s.inbox := rfl
  have cancel : s.essence.cancel = s.cancel := rfl
  have stop : s.essence.stop = s.stop := rfl
  have now : s.essence.now = s.now := rfl
  have outbox : s.essence.outbox = s.outbox := rfl
  have settings : ∀ n, (terms.limited n).settings = terms.settings := fun _ => rfl
  cases m with
  | read => exact absurd rfl other
  | cancelConnect =>
    simp only [advance, phase, cancel]
    split
    · split <;> rfl
    · rfl
  | readFirst =>
    simp only [advance, phase, inbox, cancel]
    split
    · split
      · rfl
      case isFalse inbound rest _ _ _ => exact congrArg some (onFirst_tidied inbound (by rfl))
    · rfl
  | giveUpConnecting =>
    simp only [advance, phase, inbox, cancel, now]
    split
    · split <;> rfl
    · rfl
  | heedStop =>
    simp only [advance, phase, stop]
    split
    · split <;> rfl
    · rfl
  | heedWriter =>
    simp only [advance, phase, stop, outbox]
    split
    · split <;> rfl
    · rfl
  | join i => exact (IsLocal.join (terms.limited limit)).onJob s i
  | overrun =>
    simp only [advance, phase, inbox, attentive_essence, isOverdue_essence terms limit limit']
    split
    · split <;> rfl
    · rfl
  | giveUpServicing =>
    simp only [advance, phase, inbox, attentive_essence, now, settings]
    split
    · split
      · cases terms.settings.pingTimeout? <;> rfl
      · rfl
    · rfl
  | drained =>
    simp only [advance, phase, allJoined_essence]
    split
    · split
      · exact flush_tidied _
      · rfl
    · rfl
  | drainOver =>
    simp only [advance, phase, allJoined_essence, hasUnnoticed_essence, now]
    split
    · split <;> rfl
    · rfl
  | abort i =>
    simp only [advance, phase]
    split
    · exact IsLocal.abort.onJob s i
    · rfl
  | aborted =>
    simp only [advance, phase, allJoined_essence]
    split
    · split
      · rfl
      · split
        · rfl
        · exact flush_tidied _
    · rfl
  | settle =>
    simp only [advance, phase, outbox]
    split <;> rfl
  | ask i => exact IsLocal.ask.onJob s i
  | start i => exact IsLocal.start.onJob s i
  | place i => exact IsLocal.place.onJob s i
  | refuse i => exact IsLocal.refuse.onJob s i
  | pick =>
    simp only [advance, outbox, now]
    cases s.outbox.step (.pick s.now) <;> rfl

/-- Events, too, are the same to a session and its essence. -/
theorem receive_essence (e : Event γ θ ρ) (limit limit' : Option Nat) :
    s.essence.receive (terms.limited limit') e =
      (s.receive (terms.limited limit) e).map (·.tidied s.finished) := by
  have phase : s.essence.phase = s.phase := rfl
  have cancel : s.essence.cancel = s.cancel := rfl
  have stop : s.essence.stop = s.stop := rfl
  have now : s.essence.now = s.now := rfl
  have sunk : ∀ o : Outbox.Action (ClientMessage α ρ),
      s.essence.sink o = (s.sink o).map (·.tidied s.finished) := by
    intro o
    change (s.outbox.step o).map _ = ((s.outbox.step o).map _).map _
    cases s.outbox.step o <;> rfl
  cases e with
  | arrive x => rfl
  | stop =>
    simp only [receive, stop]
    split <;> rfl
  | cancel =>
    simp only [receive, cancel]
    split <;> rfl
  | introduced | introductionFailed fault | serve =>
    simp only [receive, phase]
    split <;> rfl
  | answer i response => exact (IsLocal.answer response).onJob s i
  | panic i => exact IsLocal.panic.onJob s i
  | wrote => exact sunk (.wrote s.now)
  | writeFailed fault => exact sunk (.writeFailed fault)
  | writerCrashed => exact sunk .crashed
  | closed => exact sunk (.closed s.now)
  | closeFailed fault => exact sunk (.closeFailed fault)
  | elapse time =>
    simp only [receive, now]
    split <;> rfl

/-- What a step leaves of a session is the same as what it leaves of its essence, if it finishes
jobs only. -/
theorem essence_of_tidied {x y : Option (Session α γ θ ρ)}
    (same : y = x.map (·.tidied s.finished))
    (late : ∀ s', x = some s' → ∀ k, s.finished k = true → s'.finished k = true) :
    y.map essence = x.map essence := by
  subst same
  cases x with
  | none => rfl
  | some s' => exact congrArg some (essence_tidied rfl (late s' rfl))

theorem Booked.read_essence (booked : Booked s) (limit limit' : Option Nat) :
    (s.essence.read? (terms.limited limit')).map essence =
      (s.read? (terms.limited limit)).map essence := by
  have phase : s.essence.phase = s.phase := rfl
  have inbox : s.essence.inbox = s.inbox := rfl
  have outbox : s.essence.outbox = s.outbox := rfl
  have kept : ∀ {u u' : Session α γ θ ρ}, u'.finished = s.finished → u = u'.tidied s.finished →
      (some u).map essence = (some u').map essence := by
    intro u u' finished same
    exact congrArg some (essence_tidied same fun k ended => finished ▸ ended)
  simp only [read?, phase, inbox, outbox, attentive_essence, isOverdue_essence terms limit limit']
  split
  case h_2 => rfl
  case h_1 _ x rest serving unread =>
    split
    · rfl
    · split
      case h_1 | h_2 | h_3 | h_4 => exact kept (by rfl) (by rfl)
      case h_5 => split <;> exact kept (by rfl) (by rfl)
      case h_6 request _ =>
        have before : Booked { s with inbox := rest } := booked.step (.same rfl rfl)
        have dispatched := before.dispatch_essence terms request limit limit'
        have serves : ∀ (n : Option Nat) (x : Option (Session α γ θ ρ)),
            (x.map (·.serve (terms.limited n))).map essence =
              (x.map essence).map (·.serve terms) := by
          intro n x
          cases x <;> rfl
        exact (serves limit' _).trans ((congrArg _ dispatched).trans (serves limit _).symm)

/-- A session and its essence take the same steps, and these leave the same essence. -/
theorem Booked.act_essence (booked : Booked s) (a : Action γ θ ρ) (limit limit' : Option Nat) :
    (s.essence.act (terms.limited limit') a).map essence =
      (s.act (terms.limited limit) a).map essence := by
  have late (unread : a ≠ .move .read) : ∀ s', s.act (terms.limited limit) a = some s' →
      ∀ k, s.finished k = true → s'.finished k = true := by
    intro s' acted
    have effect := Effect.of_act acted
    exact effect.books.late (effect.jobs_length unread)
  cases a with
  | event e => exact essence_of_tidied (receive_essence e limit limit') (late (by simp))
  | move m =>
    by_cases reads : m = .read
    · subst reads
      exact booked.read_essence limit limit'
    · exact essence_of_tidied (advance_essence m reads limit limit') (late (by simpa using reads))

/-- Whoever has the same essence takes the same steps, whatever the limits of the tables. -/
theorem Booked.act_alike (booked : Booked s) (booked' : Booked u) (same : s.essence = u.essence)
    (terms : Terms θ) (a : Action γ θ ρ) (limit limit' : Option Nat) :
    (s.act (terms.limited limit) a).map essence =
      (u.act (terms.limited limit') a).map essence := by
  rw [← booked.act_essence a limit limit', same, booked'.act_essence a limit' limit']

theorem moves_essence : s.essence.moves = s.moves := by
  have pending : s.essence.pendingJobs = s.pendingJobs := by
    simp only [pendingJobs, essence, tidied, List.length_map, List.getElem?_map, Option.any_map]
    rfl
  simp only [moves, loopMoves, jobMoves, pending]

/-- They have to wait at the same moments. -/
theorem Booked.actPromptly_alike (booked : Booked s) (booked' : Booked u)
    (same : s.essence = u.essence) (a : Action γ θ ρ) (limit limit' : Option Nat) :
    (s.actPromptly (terms.limited limit) a).map essence =
      (u.actPromptly (terms.limited limit') a).map essence := by
  have alike := booked.act_alike booked' same terms a limit limit'
  have quiet : s.isQuiet (terms.limited limit) = u.isQuiet (terms.limited limit') := by
    have moves : s.moves = u.moves := by rw [← moves_essence, same, moves_essence]
    unfold isQuiet
    rw [moves]
    congr 1
    funext m
    have step := booked.act_alike booked' same terms (.move m) limit limit'
    have none := congrArg Option.isNone step
    rwa [Option.isNone_map, Option.isNone_map] at none
  have phase : s.phase = u.phase := by
    change s.essence.phase = u.essence.phase
    rw [same]
  unfold actPromptly
  split
  · unfold mayWait
    rw [quiet, phase]
    split
    · exact alike
    · rfl
  · exact alike

/-! Dispatchers by themselves. -/

theorem IsLocal.essence_onJob {f : Session α γ θ ρ → Nat → Job θ → Option (Session α γ θ ρ)}
    (isLocal : IsLocal f) (s : Session α γ θ ρ) (i : Nat) :
    (s.essence.onJob? i (f s.essence)).map essence = (s.onJob? i (f s)).map essence := by
  refine essence_of_tidied (isLocal.onJob s i) fun s' acted k ended => ?_
  obtain ⟨t, job, did⟩ := Option.bind_eq_some_iff.mp acted
  obtain ⟨t', advances, jobs, _⟩ := isLocal.books s i t s' did
  exact finished_set job advances jobs k ended

theorem Booked.dispatcherStep_essence (booked : Booked s) (x : DispatcherStep α θ ρ)
    (limit limit' : Option Nat) :
    (s.essence.dispatcherStep (terms.limited limit') x).map essence =
      (s.dispatcherStep (terms.limited limit) x).map essence := by
  cases x with
  | dispatch request => exact booked.dispatch_essence terms request limit limit'
  | ask i => exact IsLocal.ask.essence_onJob s i
  | start i => exact IsLocal.start.essence_onJob s i
  | answer i response => exact (IsLocal.answer response).essence_onJob s i
  | place i => exact IsLocal.place.essence_onJob s i
  | refuse i => exact IsLocal.refuse.essence_onJob s i
  | panic i => exact IsLocal.panic.essence_onJob s i
  | abort i => exact IsLocal.abort.essence_onJob s i
  | outbox a =>
    change ((s.outbox.step a).map _).map _ = ((s.outbox.step a).map _).map _
    cases s.outbox.step a with
    | none => rfl
    | some outbox =>
      exact congrArg some (essence_tidied (s := { s with outbox }) rfl fun _ ended => ended)

theorem dispatcherStep_books {x : DispatcherStep α θ ρ}
    (acted : s.dispatcherStep terms x = some s') : Books s s' := by
  cases x with
  | dispatch request => exact dispatch_books acted
  | ask i => exact IsLocal.ask.books_onJob acted
  | start i => exact IsLocal.start.books_onJob acted
  | answer i response => exact (IsLocal.answer response).books_onJob acted
  | place i => exact IsLocal.place.books_onJob acted
  | refuse i => exact IsLocal.refuse.books_onJob acted
  | panic i => exact IsLocal.panic.books_onJob acted
  | abort i => exact IsLocal.abort.books_onJob acted
  | outbox a =>
    obtain ⟨outbox, _, rfl⟩ := Option.map_eq_some_iff.mp acted
    exact .same rfl rfl

theorem Booked.of_reaches {start : Session α γ θ ρ} (booked : Booked start)
    (reaches : Reaches terms start s) : Booked s := by
  cases reaches with
  | serving actions ran =>
    exact Runs.preserved (fun _ => True)
      (fun _ _ _ _ booked acted => booked.step (Effect.of_act acted).books) booked
      (fun _ _ => trivial) ran
  | dispatching steps ran =>
    exact Runs.preserved (fun _ => True)
      (fun _ _ _ _ booked acted => booked.step (dispatcherStep_books acted)) booked
      (fun _ _ => trivial) ran

/-- Sweeping is unobservable, for a limit of 256 partitions as for any other. -/
theorem sweeping_unobservable (terms : Terms θ) (limit openedAt : Nat)
    (arguments : ConnectArguments α) :
    SweptUnseen terms limit
      (Session.opened terms.settings openedAt arguments : Session α γ θ ρ) := by
  have booked : Booked (Session.opened terms.settings openedAt arguments : Session α γ θ ρ) :=
    .opened terms.settings openedAt arguments
  have kept : ∀ (n : Option Nat) (s : Session α γ θ ρ) (a : Action γ θ ρ) (s' : Session α γ θ ρ),
      Booked s → s.act (terms.limited n) a = some s' → Booked s' := by
    intro n s a s' known acted
    exact known.step (Effect.of_act acted).books
  have promptly : ∀ (n : Option Nat) (s : Session α γ θ ρ) (a : Action γ θ ρ)
      (s' : Session α γ θ ρ), Booked s → s.actPromptly (terms.limited n) a = some s' →
        Booked s' := by
    intro n s a s' known acted
    exact kept n s a s' known (act_of_promptly acted).1
  have alone : ∀ (n : Option Nat) (s : Session α γ θ ρ) (x : DispatcherStep α θ ρ)
      (s' : Session α γ θ ρ), Booked s → s.dispatcherStep (terms.limited n) x = some s' →
        Booked s' := by
    intro n s x s' known acted
    exact known.step (dispatcherStep_books acted)
  refine ⟨?_, ?_, ?_, ?_, ?_⟩
  · exact Runs.foldlM_seen
      (fun s u a known known' same => known.act_alike known' same terms a (some limit) none)
      (kept (some limit)) (kept none) booked booked rfl
  · exact Runs.foldlM_seen
      (fun s u a known known' same => known.actPromptly_alike known' same a (some limit) none)
      (promptly (some limit)) (promptly none) booked booked rfl
  · exact Runs.foldlM_seen
      (fun s u x known known' same => by
        rw [← known.dispatcherStep_essence x (some limit) none, same,
          known'.dispatcherStep_essence x none none])
      (alone (some limit)) (alone none) booked booked rfl
  · intro s reaches p j latest unfinished
    have known := booked.of_reaches reaches
    exact Lanes.latest_of_mem known.keys (known.tracked p j latest unfinished)
  · intro s reaches request s' taken
    exact (booked.of_reaches reaches).size_le rfl taken

/-- The second request of a partition is read when the first has been answered. -/
def answeredFirst : List (Action String Nat String) :=
  exchangeStart ++
    [.event (.arrive (.message (.request ⟨exchangeContext 1, 10⟩))), .move .read, .move (.ask 0),
      .move (.start 0), .event (.answer 0 { payload := "ten" }), .move (.place 0), .move (.join 0),
      .event (.arrive (.message (.request ⟨exchangeContext 2, 20⟩))), .move .read]

/-- A table that is swept at one entry has no trace of the first job; any other has. -/
example :
    let start : Session String String Nat String :=
      Session.opened exchangeTerms.settings 0 { payload := "hello" }
    (start.run (exchangeTerms.limited (some 1)) answeredFirst).map (·.jobs.map Job.behind) =
        some [none, none] ∧
      (start.run (exchangeTerms.limited none) answeredFirst).map (·.jobs.map Job.behind) =
        some [none, some 0] :=
  ⟨rfl, rfl⟩

end Dialback.Session
