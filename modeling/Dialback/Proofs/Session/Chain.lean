import Dialback.Proofs.Session.Handles

/-!
The chain of each partition. Every job is behind the latest unfinished job of its partition, if
there is one; so when a job is let into the line for a permit, all earlier jobs of its partition
have ended. The table of latest jobs may be overwritten and swept meanwhile.

Only tearing jobs down breaks the chain: a job that is torn down while it waits lets in the job
behind it, although those before it may be at work.
-/
namespace Dialback.Session

variable {α γ θ ρ : Type}

/-- The job was torn down before its handler was invoked. -/
def Job.isSkipped (t : Job θ) : Bool :=
  decide (t.stage = .ended .aborted) && t.started.isNone

/-- The job has been let into the line. Of those torn down only the ones that were started count. -/
def Job.isLetIn (t : Job θ) : Bool :=
  match t.stage with
  | .waiting => false
  | .ended .aborted => t.started.isSome
  | _ => true

/-- Behind the wait and before the end, the stage is enough. -/
theorem Job.isLetIn_of_stage {t : Job θ} {stage : Stage} (known : t.stage = stage)
    (lasts : stage.isEnded = false) (entered : stage ≠ .waiting) : t.isLetIn = true := by
  cases stage with
  | waiting => exact absurd rfl entered
  | inLine | running | offering => simp [isLetIn, known]
  | ended => cases lasts

theorem Job.isLetIn_or_isSkipped {t : Job θ} (ended : t.hasEnded = true) :
    t.isLetIn = true ∨ t.isSkipped = true := by
  cases stage : t.stage with
  | waiting => simp [hasEnded, Stage.isEnded, stage] at ended
  | inLine | running | offering => simp [isLetIn, stage]
  | ended how => cases how <;> cases started : t.started <;> simp [isLetIn, isSkipped, *]

theorem Job.hasEnded_of_isSkipped {t : Job θ} (skipped : t.isSkipped = true) :
    t.hasEnded = true := by
  simp only [isSkipped, Bool.and_eq_true, decide_eq_true_eq] at skipped
  simp [hasEnded, Stage.isEnded, skipped.1]

/-- Between the two jobs, one of the partition was skipped. -/
def SkippedBetween (s : Session α γ θ ρ) (p : PartitionKey) (i j : Nat) : Prop :=
  ∃ k t, i < k ∧ k < j ∧ s.jobs[k]? = some t ∧ t.partition = p ∧ t.isSkipped = true

/-- Nothing but the progress of a job changes. -/
structure Job.Advances (t t' : Job θ) : Prop where
  request : t'.request = t.request
  partition : t'.partition = t.partition
  behind : t'.behind = t.behind
  ended : t.hasEnded = true → t'.hasEnded = true
  skipped : t.isSkipped = true → t'.isSkipped = true

theorem Job.Advances.refl (t : Job θ) : t.Advances t :=
  ⟨rfl, rfl, rfl, fun h => h, fun h => h⟩

/-- The end of a job may be noticed. -/
theorem Job.Advances.noticed (t : Job θ) : t.Advances { t with joined := true } :=
  ⟨rfl, rfl, rfl, fun h => h, fun h => h⟩

/-- A job that has not ended may go on in any way. -/
theorem Job.Advances.of_live {t t' : Job θ} (lasts : t.hasEnded = false)
    (same : t'.request = t.request ∧ t'.partition = t.partition ∧ t'.behind = t.behind) :
    t.Advances t' where
  request := same.1
  partition := same.2.1
  behind := same.2.2
  ended finished := by
    rw [lasts] at finished
    cases finished
  skipped passed := by
    rw [Job.hasEnded_of_isSkipped passed] at lasts
    cases lasts

structure Chained (terms : Terms θ) (s : Session α γ θ ρ) : Prop where
  partition : ∀ (i : Nat) (t : Job θ), s.jobs[i]? = some t →
    t.partition = terms.partitionOf t.request
  latest : ∀ e ∈ s.lanes.entries, (∃ t, s.jobs[e.2]? = some t ∧ t.partition = e.1) ∧
    ∀ (j : Nat) (u : Job θ), s.jobs[j]? = some u → u.partition = e.1 → j ≤ e.2
  /-- Only finished jobs may be missing from the table. -/
  tracked : ∀ (j : Nat) (u : Job θ), s.jobs[j]? = some u →
    u.hasEnded = true ∨ ∃ i, (u.partition, i) ∈ s.lanes.entries
  behind : ∀ (i j : Nat) (u t : Job θ), i < j → s.jobs[i]? = some u → s.jobs[j]? = some t →
    u.partition = t.partition → u.hasEnded = true ∨
      ∃ k v, t.behind = some k ∧ i ≤ k ∧ k < j ∧ s.jobs[k]? = some v ∧ v.partition = t.partition
  aborted : ∀ (i : Nat) (t : Job θ), s.jobs[i]? = some t → t.stage = .ended .aborted →
    s.phase.isAborting = true ∨ s.phase.isClosed = true
  /-- A job waits for an earlier one of its own partition. -/
  follows : ∀ (i k : Nat) (t : Job θ), s.jobs[i]? = some t → t.behind = some k →
    k < i ∧ ∃ u, s.jobs[k]? = some u ∧ u.partition = t.partition
  freed : ∀ (i : Nat) (t : Job θ), s.jobs[i]? = some t → t.isLetIn = true → s.released t = true
  unstarted : ∀ (i : Nat) (t : Job θ), s.jobs[i]? = some t → t.stage = .waiting → t.started = none
  ordered : ∀ (i j : Nat) (u t : Job θ), i < j → s.jobs[i]? = some u → s.jobs[j]? = some t →
    u.partition = t.partition → t.isLetIn = true →
      u.hasEnded = true ∨ s.SkippedBetween t.partition i j

variable {l : Log γ θ ρ} {s s' : Session α γ θ ρ} {terms : Terms θ} {a : Action γ θ ρ}

theorem Chained.opened (settings : CallSettings) (openedAt : Nat)
    (arguments : ConnectArguments α) :
    Chained terms (Session.opened settings openedAt arguments : Session α γ θ ρ) where
  partition i t job := by simp [Session.opened] at job
  latest e member := by simp [Session.opened, Lanes.empty] at member
  tracked j u job := by simp [Session.opened] at job
  behind i j u t _ job := by simp [Session.opened] at job
  aborted i t job := by simp [Session.opened] at job
  follows i k t job := by simp [Session.opened] at job
  freed i t job := by simp [Session.opened] at job
  unstarted i t job := by simp [Session.opened] at job
  ordered i j u t _ job := by simp [Session.opened] at job

/-! Jobs of an updated list. -/

theorem job_before {i : Nat} {t t' : Job θ} {jobs : List (Job θ)} (job : jobs[i]? = some t)
    (advances : t.Advances t') {j : Nat} {u' : Job θ} (known : (jobs.set i t')[j]? = some u') :
    ∃ u, jobs[j]? = some u ∧ u.Advances u' ∧ (j = i ∧ u = t ∧ u' = t' ∨ j ≠ i ∧ u' = u) := by
  rw [List.getElem?_set] at known
  by_cases same : i = j
  · subst same
    simp only [if_true, (List.getElem?_eq_some_iff.mp job).1] at known
    cases known
    exact ⟨t, job, advances, Or.inl ⟨rfl, rfl, rfl⟩⟩
  · rw [if_neg same] at known
    exact ⟨u', known, .refl u', Or.inr ⟨Ne.symm same, rfl⟩⟩

theorem job_after {i : Nat} {t t' : Job θ} {jobs : List (Job θ)} (job : jobs[i]? = some t)
    (advances : t.Advances t') {j : Nat} {u : Job θ} (known : jobs[j]? = some u) :
    ∃ u', (jobs.set i t')[j]? = some u' ∧ u.Advances u' := by
  by_cases same : i = j
  · subst same
    rw [job] at known
    cases known
    exact ⟨t', by simp [(List.getElem?_eq_some_iff.mp job).1], advances⟩
  · exact ⟨u, by rw [List.getElem?_set_ne same, known], .refl u⟩

/-- What was skipped remains so. -/
theorem SkippedBetween.step {p : PartitionKey} {i j : Nat} (skipped : s.SkippedBetween p i j)
    (after : ∀ (k : Nat) (t : Job θ), s.jobs[k]? = some t →
      ∃ t', s'.jobs[k]? = some t' ∧ t.Advances t') : s'.SkippedBetween p i j := by
  obtain ⟨k, t, low, high, job, partition, torn⟩ := skipped
  obtain ⟨t', here, advances⟩ := after k t job
  exact ⟨k, t', low, high, here, advances.partition.trans partition, advances.skipped torn⟩

/-! Jobs and table, step by step. -/

/-- What an action may do to jobs and table. -/
inductive Books (s s' : Session α γ θ ρ) : Prop
  | same (jobs : s'.jobs = s.jobs) (lanes : s'.lanes = s.lanes)
  | moved (i : Nat) (t t' : Job θ) (job : s.jobs[i]? = some t) (advances : t.Advances t')
      (jobs : s'.jobs = s.jobs.set i t') (lanes : s'.lanes = s.lanes)
  | added (new : Job θ) (limit : Option Nat)
      (behind : new.behind = (s.lanes.sweep limit s.finished).latest? new.partition)
      (jobs : s'.jobs = s.jobs ++ [new])
      (lanes : s'.lanes =
        (s.lanes.sweep limit s.finished).assign new.partition s.jobs.length)

theorem Effect.books (effect : Effect terms s a s') : Books s s' := by
  cases effect with
  | control control => cases control <;> exact .same rfl rfl
  | finish | arrive | accept | dismiss | ignore | hangUp | ping | pingRefused | flush | sink =>
    exact .same rfl rfl
  | dispatch request rest outbox => exact .added _ terms.laneLimit rfl rfl rfl
  | join i t job | joinPanicked i t limit job =>
    exact .moved i t _ job (.noticed t) rfl rfl
  | ask i t job waiting =>
    have lasts : t.hasEnded = false := Job.hasEnded_of_stage waiting
    refine .moved i t _ job ?_ rfl rfl
    exact .of_live lasts ⟨rfl, rfl, rfl⟩
  | start i t permits job inLine =>
    have lasts : t.hasEnded = false := Job.hasEnded_of_stage inLine
    refine .moved i t _ job ?_ rfl rfl
    exact .of_live lasts ⟨rfl, rfl, rfl⟩
  | answer i t response outbox job running =>
    have lasts : t.hasEnded = false := Job.hasEnded_of_stage running
    refine .moved i t _ job ?_ rfl rfl
    exact .of_live lasts ⟨rfl, rfl, rfl⟩
  | place i t placed outbox job offering =>
    have lasts : t.hasEnded = false := Job.hasEnded_of_stage offering
    refine .moved i t _ job ?_ rfl rfl
    exact .of_live lasts ⟨rfl, rfl, rfl⟩
  | endJob i t how outbox job ends =>
    refine .moved i t _ job ?_ rfl rfl
    exact .of_live ends.lasts ⟨rfl, rfl, rfl⟩

theorem Books.job (books : Books s s') {i : Nat} {t : Job θ} (job : s.jobs[i]? = some t) :
    ∃ t', s'.jobs[i]? = some t' ∧ t.Advances t' := by
  cases books with
  | same jobs => exact ⟨t, by rwa [jobs], .refl t⟩
  | moved j u u' here advances jobs =>
    rw [jobs]
    exact job_after here advances job
  | added new limit behind jobs =>
    refine ⟨t, ?_, .refl t⟩
    rw [jobs, List.getElem?_append_left (List.getElem?_eq_some_iff.mp job).1, job]

/-- All earlier jobs of the partition have ended once nobody is left to wait for, unless one of
them was skipped. -/
private theorem Chained.released (chained : Chained terms s) {i : Nat} {t : Job θ}
    (job : s.jobs[i]? = some t) (released : s.released t = true) (j : Nat) (u : Job θ)
    (less : j < i) (known : s.jobs[j]? = some u) (partition : u.partition = t.partition) :
    u.hasEnded = true ∨ s.SkippedBetween t.partition j i := by
  rcases chained.behind j i u t less known job partition with ended | found
  · exact Or.inl ended
  · obtain ⟨k, v, behind, low, high, here, same⟩ := found
    have ended : v.hasEnded = true := by
      simpa [Session.released, behind, finished, here] using released
    rcases Nat.lt_or_eq_of_le low with less | rfl
    · rcases Job.isLetIn_or_isSkipped ended with entered | skipped
      · refine (chained.ordered j k u v less known here (partition.trans same.symm) entered).imp_right
          fun ⟨m, w, after, before, rest⟩ => ?_
        rw [← same]
        exact ⟨m, w, after, Nat.lt_trans before high, rest⟩
      · exact Or.inr ⟨k, v, less, high, here, same, skipped⟩
    · rw [known] at here
      cases here
      exact Or.inl ended

/-- Who has nobody left to wait for stays so. -/
private theorem Chained.released_step (chained : Chained terms s) {i : Nat} {t t' : Job θ}
    (job : s.jobs[i]? = some t) (same : t'.behind = t.behind)
    (after : ∀ (k : Nat) (u : Job θ), s.jobs[k]? = some u →
      ∃ u', s'.jobs[k]? = some u' ∧ u.Advances u')
    (released : s.released t = true) : s'.released t' = true := by
  unfold Session.released at released ⊢
  rw [same]
  cases behind : t.behind with
  | none => rfl
  | some k =>
    obtain ⟨_, u, here, _⟩ := chained.follows i k t job behind
    obtain ⟨u', later, advances⟩ := after k u here
    have ended : u.hasEnded = true := by simpa [behind, finished, here] using released
    simp [finished, later, advances.ended ended]

/-- Steps that leave jobs and table alone. -/
private theorem Chained.keep (chained : Chained terms s) (jobs : s'.jobs = s.jobs)
    (lanes : s'.lanes = s.lanes)
    (phase : s.phase.isAborting = true ∨ s.phase.isClosed = true →
      s'.phase.isAborting = true ∨ s'.phase.isClosed = true) : Chained terms s' where
  partition := by
    rw [jobs]
    exact chained.partition
  latest := by
    rw [jobs, lanes]
    exact chained.latest
  tracked := by
    rw [jobs, lanes]
    exact chained.tracked
  behind := by
    rw [jobs]
    exact chained.behind
  aborted i t job torn := phase (chained.aborted i t (by rwa [← jobs]) torn)
  follows := by
    rw [jobs]
    exact chained.follows
  freed := by
    unfold Session.released finished
    rw [jobs]
    exact chained.freed
  unstarted := by
    rw [jobs]
    exact chained.unstarted
  ordered := by
    unfold SkippedBetween
    rw [jobs]
    exact chained.ordered

/-- One job advances. -/
private theorem Chained.update (chained : Chained terms s) {i : Nat} {t t' : Job θ}
    (job : s.jobs[i]? = some t) (jobs : s'.jobs = s.jobs.set i t') (advances : t.Advances t')
    (lanes : s'.lanes = s.lanes)
    (phase : s.phase.isAborting = true ∨ s.phase.isClosed = true →
      s'.phase.isAborting = true ∨ s'.phase.isClosed = true)
    (torn : t'.stage = .ended .aborted → t.stage = .ended .aborted ∨
      s'.phase.isAborting = true ∨ s'.phase.isClosed = true)
    (unstarted : t'.stage = .waiting → t'.started = none)
    (letIn : t'.isLetIn = true → t.isLetIn = true ∨ s.released t = true) : Chained terms s' := by
  have after : ∀ (k : Nat) (u : Job θ), s.jobs[k]? = some u →
      ∃ u', s'.jobs[k]? = some u' ∧ u.Advances u' := by
    rw [jobs]
    exact fun k u here => job_after job advances here
  constructor
  case partition =>
    intro j u' known
    rw [jobs] at known
    obtain ⟨u, before, same, _⟩ := job_before job advances known
    rw [same.partition, same.request]
    exact chained.partition j u before
  case latest =>
    intro e member
    rw [lanes] at member
    obtain ⟨⟨u, here, partition⟩, last⟩ := chained.latest e member
    obtain ⟨u', after, same⟩ := job_after job advances here
    refine ⟨⟨u', by rwa [jobs], same.partition.trans partition⟩, ?_⟩
    intro j v' known partition'
    rw [jobs] at known
    obtain ⟨v, before, same, _⟩ := job_before job advances known
    exact last j v before (same.partition.symm.trans partition')
  case tracked =>
    intro j u' known
    rw [jobs] at known
    obtain ⟨u, before, same, _⟩ := job_before job advances known
    rw [lanes, same.partition]
    exact (chained.tracked j u before).imp_left same.ended
  case behind =>
    intro j k u' v' less first second partition
    rw [jobs] at first second
    obtain ⟨u, early, sameU, _⟩ := job_before job advances first
    obtain ⟨v, late, sameV, _⟩ := job_before job advances second
    rw [sameU.partition, sameV.partition] at partition
    rcases chained.behind j k u v less early late partition with ended | found
    · exact Or.inl (sameU.ended ended)
    · obtain ⟨m, w, behind, low, high, here, partition⟩ := found
      obtain ⟨w', after, sameW⟩ := job_after job advances here
      refine Or.inr ⟨m, w', sameV.behind.trans behind, low, high, by rwa [jobs], ?_⟩
      rw [sameW.partition, sameV.partition, partition]
  case aborted =>
    intro j u' known aborted
    rw [jobs] at known
    obtain ⟨u, before, _, ⟨_, rfl, rfl⟩ | ⟨_, rfl⟩⟩ := job_before job advances known
    · rcases torn aborted with already | finished
      · exact phase (chained.aborted j u before already)
      · exact finished
    · exact phase (chained.aborted j u' before aborted)
  case follows =>
    intro j k u' known behind
    rw [jobs] at known
    obtain ⟨u, before, same, _⟩ := job_before job advances known
    obtain ⟨less, v, here, partition⟩ := chained.follows j k u before (same.behind ▸ behind)
    obtain ⟨v', later, same'⟩ := after k v here
    exact ⟨less, v', later, same'.partition.trans (partition.trans same.partition.symm)⟩
  case freed =>
    intro j u' known entered
    rw [jobs] at known
    obtain ⟨u, before, same, which⟩ := job_before job advances known
    refine chained.released_step before same.behind after ?_
    rcases which with ⟨_, rfl, rfl⟩ | ⟨_, rfl⟩
    · exact (letIn entered).elim (chained.freed j u before) id
    · exact chained.freed j u' before entered
  case unstarted =>
    intro j u' known waiting
    rw [jobs] at known
    obtain ⟨u, before, _, ⟨_, _, rfl⟩ | ⟨_, rfl⟩⟩ := job_before job advances known
    · exact unstarted waiting
    · exact chained.unstarted j u' before waiting
  case ordered =>
    intro j k u' v' less first second partition entered
    rw [jobs] at first second
    obtain ⟨u, early, sameU, _⟩ := job_before job advances first
    obtain ⟨v, late, sameV, which⟩ := job_before job advances second
    rw [sameU.partition, sameV.partition] at partition
    rw [sameV.partition]
    have ordered : u.hasEnded = true ∨ s.SkippedBetween v.partition j k := by
      rcases which with ⟨rfl, rfl, rfl⟩ | ⟨_, rfl⟩
      · rcases letIn entered with already | released
        · exact chained.ordered j k u v less early late partition already
        · exact chained.released late released j u less early partition
      · exact chained.ordered j k u v' less early late partition entered
    exact ordered.imp sameU.ended fun skipped => skipped.step after

/-- One job goes on, and is neither back at the wait nor torn down. -/
private theorem Chained.onward (chained : Chained terms s) {i : Nat} {t t' : Job θ}
    (job : s.jobs[i]? = some t) (jobs : s'.jobs = s.jobs.set i t') (advances : t.Advances t')
    (lanes : s'.lanes = s.lanes) (phase : s'.phase = s.phase)
    (forward : t'.stage ≠ .waiting ∧ t'.stage ≠ .ended .aborted)
    (letIn : t.isLetIn = true ∨ s.released t = true) : Chained terms s' := by
  refine chained.update job jobs advances lanes ?_ ?_ ?_ fun _ => letIn
  · rw [phase]
    exact id
  · exact fun torn => absurd torn forward.2
  · exact fun back => absurd back forward.1

/-! Steps. -/

/-- Nothing is skipped before jobs are torn down. -/
private theorem Chained.unskipped (chained : Chained terms s)
    (calm : ¬ (s.phase.isAborting = true ∨ s.phase.isClosed = true)) {i : Nat} {t : Job θ}
    (job : s.jobs[i]? = some t) : t.isSkipped = false := by
  by_contra skipped
  simp only [Job.isSkipped, Bool.not_eq_false, Bool.and_eq_true, decide_eq_true_eq] at skipped
  exact calm (chained.aborted i t job skipped.1)

theorem Lanes.mem_of_latest {lanes : Lanes} {p : PartitionKey} {i : Nat}
    (latest : lanes.latest? p = some i) : (p, i) ∈ lanes.entries := by
  obtain ⟨before, after, split, _⟩ := List.lookup_eq_some_iff.mp latest
  rw [split]
  simp

theorem Lanes.untracked {lanes : Lanes} {p : PartitionKey} (none : lanes.latest? p = none)
    (i : Nat) : (p, i) ∉ lanes.entries := by
  intro member
  have different := List.lookup_eq_none_iff.mp none (p, i) member
  simp at different

theorem Lanes.mem_sweep {lanes : Lanes} {limit : Option Nat} {finished : Nat → Bool}
    {e : PartitionKey × Nat} :
    (e ∈ (lanes.sweep limit finished).entries → e ∈ lanes.entries) ∧
      (e ∈ lanes.entries → finished e.2 = false → e ∈ (lanes.sweep limit finished).entries) := by
  unfold sweep
  split
  · exact ⟨fun h => h, fun h _ => h⟩
  · split
    · simp only [List.mem_filter, Bool.not_eq_true']
      exact ⟨And.left, And.intro⟩
    · exact ⟨fun h => h, fun h _ => h⟩

theorem Lanes.mem_assign {lanes : Lanes} {p : PartitionKey} {i : Nat} {e : PartitionKey × Nat} :
    e ∈ (lanes.assign p i).entries ↔ e = (p, i) ∨ e ∈ lanes.entries ∧ e.1 ≠ p := by
  simp [assign]

/-- Sweeping keeps every partition that has an unfinished job. -/
private theorem Chained.swept (chained : Chained terms s)
    (calm : ¬ (s.phase.isAborting = true ∨ s.phase.isClosed = true)) (limit : Option Nat)
    (j : Nat) (u : Job θ) (job : s.jobs[j]? = some u) :
    u.hasEnded = true ∨ ∃ i, (u.partition, i) ∈ (s.lanes.sweep limit s.finished).entries := by
  rcases chained.tracked j u job with ended | ⟨i, member⟩
  · exact Or.inl ended
  · obtain ⟨⟨t, here, partition⟩, last⟩ := chained.latest _ member
    cases finished : s.finished i with
    | false => exact Or.inr ⟨i, Lanes.mem_sweep.2 member finished⟩
    | true =>
      have ended : t.hasEnded = true := by simpa [Session.finished, here] using finished
      rcases Nat.lt_or_eq_of_le (last j u job rfl) with less | same
      · have entered : t.isLetIn = true := by
          simpa [chained.unskipped calm here] using Job.isLetIn_or_isSkipped ended
        rcases chained.ordered j i u t less job here partition.symm entered with before | skipped
        · exact Or.inl before
        · obtain ⟨k, v, _, _, between, _, skipped⟩ := skipped
          simp [chained.unskipped calm between] at skipped
      · change j = i at same
        subst same
        rw [job] at here
        cases here
        exact Or.inl ended

private theorem Chained.dispatch (chained : Chained terms s)
    (calm : ¬ (s.phase.isAborting = true ∨ s.phase.isClosed = true)) (request : Request θ)
    (jobs : s'.jobs = s.jobs ++ [{
      request, partition := terms.partitionOf request
      behind := (s.lanes.sweep terms.laneLimit s.finished).latest? (terms.partitionOf request) }])
    (lanes : s'.lanes = (s.lanes.sweep terms.laneLimit s.finished).assign
      (terms.partitionOf request) s.jobs.length) : Chained terms s' := by
  have new_or_old : ∀ (j : Nat) (u : Job θ), s'.jobs[j]? = some u → s.jobs[j]? = some u ∨
      j = s.jobs.length ∧ u = {
        request, partition := terms.partitionOf request
        behind := (s.lanes.sweep terms.laneLimit s.finished).latest?
          (terms.partitionOf request) } := by
    intro j u known
    rw [jobs] at known
    exact job_of_append known
  have old : ∀ (j : Nat) (u : Job θ), s.jobs[j]? = some u → s'.jobs[j]? = some u := by
    intro j u known
    rw [jobs, List.getElem?_append_left (List.getElem?_eq_some_iff.mp known).1, known]
  have inside : ∀ (j : Nat) (u : Job θ), s.jobs[j]? = some u → j < s.jobs.length :=
    fun j u known => (List.getElem?_eq_some_iff.mp known).1
  have advance : ∀ (j : Nat) (u : Job θ), s.jobs[j]? = some u →
      ∃ u', s'.jobs[j]? = some u' ∧ u.Advances u' :=
    fun j u known => ⟨u, old j u known, .refl u⟩
  constructor
  case partition =>
    intro i t known
    rcases new_or_old i t known with before | ⟨_, rfl⟩
    · exact chained.partition i t before
    · rfl
  case latest =>
    intro e member
    rw [lanes] at member
    rcases Lanes.mem_assign.mp member with rfl | ⟨before, other⟩
    · refine ⟨⟨_, by rw [jobs]; exact List.getElem?_concat_length, rfl⟩, ?_⟩
      intro j u known _
      rcases new_or_old j u known with before | ⟨same, _⟩
      · exact Nat.le_of_lt (inside j u before)
      · exact Nat.le_of_eq same
    · obtain ⟨⟨t, here, partition⟩, last⟩ := chained.latest e (Lanes.mem_sweep.1 before)
      refine ⟨⟨t, old e.2 t here, partition⟩, ?_⟩
      intro j u known same
      rcases new_or_old j u known with before | ⟨_, rfl⟩
      · exact last j u before same
      · exact absurd same.symm other
  case tracked =>
    intro j u known
    rw [lanes]
    by_cases same : u.partition = terms.partitionOf request
    · exact Or.inr ⟨s.jobs.length, Lanes.mem_assign.mpr (Or.inl (by rw [same]))⟩
    · rcases new_or_old j u known with before | ⟨_, rfl⟩
      · rcases chained.swept calm terms.laneLimit j u before with ended | ⟨i, member⟩
        · exact Or.inl ended
        · exact Or.inr ⟨i, Lanes.mem_assign.mpr (Or.inr ⟨member, same⟩)⟩
      · exact absurd rfl same
  case behind =>
    intro i j u t less first second partition
    rcases new_or_old j t second with before | ⟨rfl, rfl⟩
    · rcases new_or_old i u first with early | ⟨beyond, _⟩
      · rcases chained.behind i j u t less early before partition with ended | found
        · exact Or.inl ended
        · obtain ⟨k, v, behind, low, high, here, same⟩ := found
          exact Or.inr ⟨k, v, behind, low, high, old k v here, same⟩
      · have bound := inside j t before
        omega
    · rcases new_or_old i u first with early | ⟨beyond, _⟩
      · rcases chained.swept calm terms.laneLimit i u early with ended | ⟨k, member⟩
        · exact Or.inl ended
        · cases latest : (s.lanes.sweep terms.laneLimit s.finished).latest?
              (terms.partitionOf request) with
          | none =>
            rw [partition] at member
            exact absurd member (Lanes.untracked latest k)
          | some m =>
            have member := Lanes.mem_sweep.1 (Lanes.mem_of_latest latest)
            obtain ⟨⟨v, here, same⟩, last⟩ := chained.latest _ member
            exact Or.inr ⟨m, v, rfl, last i u early partition, inside m v here, old m v here, same⟩
      · omega
  case aborted =>
    intro i t known torn
    rcases new_or_old i t known with before | ⟨_, rfl⟩
    · exact absurd (chained.aborted i t before torn) calm
    · cases torn
  case follows =>
    intro i k t known behind
    rcases new_or_old i t known with before | ⟨rfl, rfl⟩
    · obtain ⟨less, u, here, partition⟩ := chained.follows i k t before behind
      exact ⟨less, u, old k u here, partition⟩
    · obtain ⟨⟨u, here, partition⟩, _⟩ :=
        chained.latest _ (Lanes.mem_sweep.1 (Lanes.mem_of_latest behind))
      exact ⟨inside k u here, u, old k u here, partition⟩
  case freed =>
    intro i t known entered
    rcases new_or_old i t known with before | ⟨_, rfl⟩
    · exact chained.released_step before rfl advance (chained.freed i t before entered)
    · cases entered
  case unstarted =>
    intro i t known waiting
    rcases new_or_old i t known with before | ⟨_, rfl⟩
    · exact chained.unstarted i t before waiting
    · rfl
  case ordered =>
    intro i j u t less first second partition entered
    rcases new_or_old j t second with before | ⟨rfl, rfl⟩
    · rcases new_or_old i u first with early | ⟨beyond, _⟩
      · refine (chained.ordered i j u t less early before partition entered).imp_right
          fun skipped => skipped.step advance
      · have bound := inside j t before
        omega
    · cases entered

private theorem Chained.control (chained : Chained terms s) (control : Control terms s a s') :
    Chained terms s' := by
  cases control with
  | stop | cancel | elapse => exact chained.keep rfl rfl fun h => h
  | introduced phase | serve payload phase | heedStop limit phase | heedWriter limit phase
  | giveUpServicing limit d phase =>
    refine chained.keep rfl rfl fun torn => ?_
    simp [phase, Phase.isAborting, Phase.isClosed] at torn
  | overrun | drainOver => exact chained.keep rfl rfl fun _ => Or.inl rfl

theorem Reading.calm {x : Inbound γ θ} {rest : List (Inbound γ θ)} (reading : Reading s x rest) :
    ¬ (s.phase.isAborting = true ∨ s.phase.isClosed = true) := by
  obtain ⟨limit, phase⟩ := reading.serving
  simp [phase, Phase.isAborting, Phase.isClosed]

theorem Chained.step (chained : Chained terms s)
    (effect : Effect terms s a s') : Chained terms s' := by
  cases effect with
  | control control => exact chained.control control
  | finish => exact chained.keep rfl rfl fun _ => Or.inr rfl
  | arrive => exact chained.keep rfl rfl fun h => h
  | accept limit payload rest phase =>
    refine chained.keep rfl rfl fun torn => ?_
    simp [phase, Phase.isAborting, Phase.isClosed] at torn
  | dismiss => exact chained.keep rfl rfl fun _ => Or.inr rfl
  | ignore x rest reading | hangUp x rest cause reading | ping rest outbox reading
  | pingRefused rest reading =>
    exact chained.keep rfl rfl fun torn => absurd torn reading.calm
  | dispatch request rest outbox reading => exact chained.dispatch reading.calm request rfl rfl
  | join i t job =>
    exact chained.update job rfl (.noticed t) rfl (fun h => h) Or.inl
      (chained.unstarted i t job) Or.inl
  | joinPanicked i t limit job =>
    exact chained.update job rfl (.noticed t) rfl (fun _ => Or.inl rfl) Or.inl
      (chained.unstarted i t job) Or.inl
  | flush => exact chained.keep rfl rfl fun _ => Or.inr rfl
  | ask i t job waiting released =>
    have lasts : t.hasEnded = false := Job.hasEnded_of_stage waiting
    have advances : t.Advances (t.withStage .inLine) := .of_live lasts ⟨rfl, rfl, rfl⟩
    exact chained.onward job rfl advances rfl rfl (by simp [Job.withStage])
      (Or.inr released)
  | start i t permits job inLine =>
    have lasts : t.hasEnded = false := Job.hasEnded_of_stage inLine
    have advances : t.Advances { t with stage := .running, started := some s.now } :=
      .of_live lasts ⟨rfl, rfl, rfl⟩
    exact chained.onward job rfl advances rfl rfl (by simp)
      (Or.inl (Job.isLetIn_of_stage inLine rfl (by decide)))
  | answer i t response outbox job running =>
    have lasts : t.hasEnded = false := Job.hasEnded_of_stage running
    have advances : t.Advances { t with stage := .offering, answered := some s.now } :=
      .of_live lasts ⟨rfl, rfl, rfl⟩
    exact chained.onward job rfl advances rfl rfl (by simp)
      (Or.inl (Job.isLetIn_of_stage running rfl (by decide)))
  | place i t placed outbox job offering =>
    have lasts : t.hasEnded = false := Job.hasEnded_of_stage offering
    have advances : t.Advances (t.withStage (.ended .queued)) := .of_live lasts ⟨rfl, rfl, rfl⟩
    exact chained.onward job rfl advances rfl rfl (by simp [Job.withStage])
      (Or.inl (Job.isLetIn_of_stage offering rfl (by decide)))
  | endJob i t how outbox job ends =>
    have advances : t.Advances (t.withStage (.ended how)) := .of_live ends.lasts ⟨rfl, rfl, rfl⟩
    refine chained.update job rfl advances rfl (fun h => h) (fun torn => ?_) (fun back => ?_)
      fun entered => Or.inl ?_
    · cases ends with
      | refuse | panic => cases torn
      | abort aborting => exact Or.inr (Or.inl aborting)
    · cases back
    · cases ends with
      | refuse offering => exact Job.isLetIn_of_stage offering rfl (by decide)
      | panic running => exact Job.isLetIn_of_stage running rfl (by decide)
      | abort aborting live =>
        -- one that was still waiting had not been started
        by_contra outside
        cases stage : t.stage with
        | waiting => simp [Job.isLetIn, Job.withStage, chained.unstarted i t job stage] at entered
        | inLine | running | offering => exact outside (Job.isLetIn_of_stage stage rfl (by decide))
        | ended how => simp [Job.hasEnded, Stage.isEnded, stage] at live
  | sink => exact chained.keep rfl rfl fun h => h

end Dialback.Session
