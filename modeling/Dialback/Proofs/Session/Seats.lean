import Dialback.Proofs.Session.Invariant
import Dialback.Proofs.Session.Remaining

/-!
Where every job is to be found. The jobs in line for a permit are those at that stage, the jobs that
wait for room are those with a response at hand, and every permit is free or held by one job.
-/
namespace Dialback.Session

variable {α γ θ ρ : Type}

structure Seated (settings : CallSettings) (s : Session α γ θ ρ) : Prop where
  line : ∀ i, i ∈ s.permits.line ↔ (s.jobs.map Job.stage)[i]? = some .inLine
  once : s.permits.line.Nodup
  offers : ∀ i, i ∈ s.outbox.offers.map Prod.fst ↔ (s.jobs.map Job.stage)[i]? = some .offering
  permits : s.permits.free + (s.jobs.map Job.stage).countP Stage.holdsPermit = settings.permits
  capacity : s.outbox.capacity = settings.buffer
  /-- Nothing is queued once the writer has ended. -/
  cleared : s.outbox.writer.hasEnded = true → s.outbox.pongs = [] ∧ s.outbox.queue = []

variable {l : Log γ θ ρ} {s s' : Session α γ θ ρ} {terms : Terms θ} {a : Action γ θ ρ}
  {settings : CallSettings}

theorem Seated.opened (settings : CallSettings) (openedAt : Nat) (arguments : ConnectArguments α) :
    Seated settings (Session.opened settings openedAt arguments : Session α γ θ ρ) where
  line i := by simp [Session.opened, Permits.ofCount]
  once := List.nodup_nil
  offers i := by simp [Session.opened]
  permits := rfl
  capacity := rfl
  cleared gone := by simp [Session.opened, Writer.hasEnded, Writer.ending?] at gone

theorem stage_known {i : Nat} {t : Job θ} {jobs : List (Job θ)} (job : jobs[i]? = some t) :
    (jobs.map Job.stage)[i]? = some t.stage := by
  rw [List.getElem?_map, job]
  rfl

theorem job_of_stage {i : Nat} {stage : Stage} {jobs : List (Job θ)}
    (known : (jobs.map Job.stage)[i]? = some stage) :
    ∃ t, jobs[i]? = some t ∧ t.stage = stage := by
  rwa [List.getElem?_map, Option.map_eq_some_iff] at known

/-- Only the job that has moved is at another stage. -/
theorem stage_set {i : Nat} {t t' : Job θ} {jobs : List (Job θ)} (job : jobs[i]? = some t)
    (j : Nat) : ((jobs.set i t').map Job.stage)[j]? =
      if i = j then some t'.stage else (jobs.map Job.stage)[j]? := by
  have inside := (List.getElem?_eq_some_iff.mp job).1
  by_cases same : i = j
  · subst same
    simp [inside]
  · simp [same]

theorem holders_set {i : Nat} {t : Job θ} {jobs : List (Job θ)} (job : jobs[i]? = some t)
    (t' : Job θ) :
    ((jobs.set i t').map Job.stage).countP Stage.holdsPermit + t.stage.holdsPermit.toNat =
      (jobs.map Job.stage).countP Stage.holdsPermit + t'.stage.holdsPermit.toNat := by
  induction jobs generalizing i with
  | nil => simp at job
  | cons u rest ih =>
    cases i with
    | zero =>
      have same : u = t := by simpa using job
      subst same
      simp only [List.set_cons_zero, List.map_cons, List.countP_cons]
      cases u.stage.holdsPermit <;> cases t'.stage.holdsPermit <;> simp
    | succ i =>
      have counts := ih (i := i) (by simpa using job)
      simp only [List.set_cons_succ, List.map_cons, List.countP_cons]
      omega

/-! Steps. -/

/-- Jobs, permits and offers stay as they are. -/
private theorem Seated.keep (seated : Seated settings s)
    (stages : s'.jobs.map Job.stage = s.jobs.map Job.stage)
    (permits : s'.permits = s.permits) (offers : s'.outbox.offers = s.outbox.offers)
    (capacity : s'.outbox.capacity = s.outbox.capacity)
    (cleared : s'.outbox.writer.hasEnded = true → s'.outbox.pongs = [] ∧ s'.outbox.queue = []) :
    Seated settings s' where
  line := by
    rw [permits, stages]
    exact seated.line
  once := by
    rw [permits]
    exact seated.once
  offers := by
    rw [offers, stages]
    exact seated.offers
  permits := by
    rw [permits, stages]
    exact seated.permits
  capacity := capacity.trans seated.capacity
  cleared := cleared

/-- A job moves on from one stage to another. -/
private theorem Seated.update (seated : Seated settings s) {i : Nat} {t t' : Job θ}
    (job : s.jobs[i]? = some t) (jobs : s'.jobs = s.jobs.set i t')
    (line : ∀ j, j ∈ s'.permits.line ↔
      if i = j then t'.stage = .inLine else j ∈ s.permits.line)
    (once : s'.permits.line.Nodup)
    (offers : ∀ j, j ∈ s'.outbox.offers.map Prod.fst ↔
      if i = j then t'.stage = .offering else j ∈ s.outbox.offers.map Prod.fst)
    (permits : s'.permits.free + t'.stage.holdsPermit.toNat =
      s.permits.free + t.stage.holdsPermit.toNat)
    (capacity : s'.outbox.capacity = s.outbox.capacity)
    (cleared : s'.outbox.writer.hasEnded = true → s'.outbox.pongs = [] ∧ s'.outbox.queue = []) :
    Seated settings s' where
  line j := by
    rw [line, jobs, stage_set job]
    split
    · exact Option.some_inj.symm
    · exact seated.line j
  once := once
  offers j := by
    rw [offers, jobs, stage_set job]
    split
    · exact Option.some_inj.symm
    · exact seated.offers j
  permits := by
    have counts := holders_set job t'
    have before := seated.permits
    rw [jobs]
    omega
  capacity := capacity.trans seated.capacity
  cleared := cleared

/-- Who is at another stage neither stands in line nor waits for room. -/
theorem Seated.not_in_line (seated : Seated settings s) {i : Nat} {t : Job θ}
    (job : s.jobs[i]? = some t) (other : t.stage ≠ .inLine) : i ∉ s.permits.line := by
  rw [seated.line, stage_known job]
  simpa using other

theorem Seated.not_offering (seated : Seated settings s) {i : Nat} {t : Job θ}
    (job : s.jobs[i]? = some t) (other : t.stage ≠ .offering) :
    i ∉ s.outbox.offers.map Prod.fst := by
  rw [seated.offers, stage_known job]
  simpa using other

theorem mem_withdraw {μ : Type} {o : Outbox μ} {i j : Nat} :
    j ∈ (o.withdraw i).offers.map Prod.fst ↔
      if i = j then False else j ∈ o.offers.map Prod.fst := by
  by_cases same : i = j
  · subst same
    simp [Outbox.withdraw]
  · have other : j ≠ i := Ne.symm same
    simp only [Outbox.withdraw, if_neg same, List.mem_map, List.mem_filter, bne_iff_ne]
    constructor
    · rintro ⟨e, ⟨member, _⟩, rfl⟩
      exact ⟨e, member, rfl⟩
    · rintro ⟨e, member, rfl⟩
      exact ⟨e, ⟨member, other⟩, rfl⟩

/-- A job ends: it has left every line and given back its permit. -/
private theorem Seated.leave (seated : Seated settings s) {i : Nat} {t : Job θ} {how : JobEnd}
    (job : s.jobs[i]? = some t) (outbox : Outbox (ClientMessage α ρ))
    (offers : ∀ j, j ∈ outbox.offers.map Prod.fst ↔
      if i = j then False else j ∈ s.outbox.offers.map Prod.fst)
    (capacity : outbox.capacity = s.outbox.capacity)
    (cleared : outbox.writer.hasEnded = true → outbox.pongs = [] ∧ outbox.queue = []) :
    Seated settings { s with
      jobs := s.jobs.set i (t.withStage (.ended how)), outbox
      permits := s.permitsAfter i t.stage } := by
  have same : (s.permitsAfter i t.stage).line = s.permits.line.erase i ∧
      (s.permitsAfter i t.stage).free = s.permits.free + t.stage.holdsPermit.toNat := by
    unfold permitsAfter
    cases t.stage.holdsPermit <;> exact ⟨rfl, rfl⟩
  refine seated.update job rfl (fun j => ?_) ?_ (fun j => ?_) ?_
    capacity cleared
  · rw [same.1, seated.once.mem_erase_iff]
    by_cases own : i = j
    · simp [own, Job.withStage]
    · simp [own, Ne.symm own]
  · rw [same.1]
    exact seated.once.erase i
  · rw [offers]
    simp [Job.withStage]
  · rw [same.2]
    simp [Job.withStage, Stage.holdsPermit]

private theorem Seated.dropped (seated : Seated settings s) :
    s.outbox.dropped.offers = s.outbox.offers ∧ s.outbox.dropped.capacity = s.outbox.capacity ∧
      s.outbox.dropped.pongs = [] ∧ s.outbox.dropped.queue = [] := by
  unfold Outbox.dropped
  split
  case isTrue gone => exact ⟨rfl, rfl, seated.cleared gone⟩
  case isFalse => exact ⟨rfl, rfl, rfl, rfl⟩

theorem Seated.step (seated : Seated settings s)
    (effect : Effect terms s a s') : Seated settings s' := by
  cases effect with
  | control control =>
    cases control <;>
      exact seated.keep rfl rfl rfl rfl seated.cleared
  | finish | dismiss =>
    obtain ⟨offers, capacity, empty⟩ := seated.dropped
    exact seated.keep rfl rfl offers capacity fun _ => empty
  | arrive | accept | ignore | hangUp | pingRefused =>
    exact seated.keep rfl rfl rfl rfl seated.cleared
  | ping rest outbox reading taken =>
    obtain ⟨able, rfl⟩ := Outbox.step_pong.mp taken
    refine seated.keep rfl rfl rfl rfl fun gone => ?_
    exact absurd (able.2.symm.trans gone) Bool.false_ne_true
  | dispatch request rest outbox reading retained =>
    obtain ⟨_, rfl⟩ := Outbox.step_retain.mp retained
    have stage : ∀ (i : Nat) (st : Stage), st ≠ .waiting →
        ((s.jobs.map Job.stage ++ [Stage.waiting])[i]? = some st ↔
          (s.jobs.map Job.stage)[i]? = some st) := by
      intro i st other
      rw [List.getElem?_append]
      split
      · exact Iff.rfl
      case isFalse beyond =>
        rw [List.getElem?_eq_none (Nat.le_of_not_lt beyond), List.getElem?_singleton]
        split <;> simp [Ne.symm other]
    refine ⟨?_, seated.once, ?_, ?_, seated.capacity, seated.cleared⟩
    · intro i
      rw [List.map_append, List.map_singleton, stage i .inLine (by simp)]
      exact seated.line i
    · intro i
      rw [List.map_append, List.map_singleton, stage i .offering (by simp)]
      exact seated.offers i
    · rw [List.map_append, List.map_singleton, List.countP_append]
      exact seated.permits
  | join i t job =>
    exact seated.keep (map_set_same Job.stage job rfl) rfl rfl rfl seated.cleared
  | joinPanicked i t limit job =>
    exact seated.keep (map_set_same Job.stage job rfl) rfl rfl rfl seated.cleared
  | flush cause outbox flushes left =>
    obtain ⟨_, rfl⟩ := Outbox.run_owners_leave.mp left
    exact seated.keep rfl rfl rfl rfl seated.cleared
  | ask i t job waiting released =>
    have outside := seated.not_in_line job (by simp [waiting])
    have silent := seated.not_offering job (by simp [waiting])
    refine seated.update job rfl (fun j => ?_) ?_ (fun j => ?_) ?_
      rfl seated.cleared
    · by_cases own : i = j
      · simp [Permits.ask, own, Job.withStage]
      · simp [Permits.ask, own, Ne.symm own]
    · refine List.nodup_append.mpr ⟨seated.once, List.pairwise_singleton _ i, ?_⟩
      rintro j known k last rfl
      rw [List.mem_singleton.mp last] at known
      exact outside known
    · by_cases own : i = j
      · subst own
        simp [silent, Job.withStage]
      · simp [own]
    · simp [Permits.ask, Job.withStage, waiting, Stage.holdsPermit]
  | start i t permits job inLine entered =>
    have silent := seated.not_offering job (by simp [inLine])
    unfold Permits.enter? at entered
    split at entered
    case isFalse => cases entered
    case isTrue able =>
      cases entered
      have positive : 0 < s.permits.free := by
        by_contra none
        simp [Permits.mayEnter, Nat.eq_zero_of_not_pos none] at able
      refine seated.update job rfl (fun j => ?_) ?_ (fun j => ?_)
        ?_ rfl seated.cleared
      · rw [seated.once.mem_erase_iff]
        by_cases own : i = j
        · simp [own]
        · simp [own, Ne.symm own]
      · exact seated.once.erase i
      · by_cases own : i = j
        · subst own
          simp [silent]
        · simp [own]
      · simp only [inLine, Stage.holdsPermit, Bool.toNat_true, Bool.toNat_false]
        omega
  | answer i t response outbox job running offered =>
    have outside := seated.not_in_line job (by simp [running])
    rw [← Outbox.step_offer offered]
    refine seated.update job rfl (fun j => ?_) seated.once
      (fun j => ?_) ?_ rfl seated.cleared
    · by_cases own : i = j
      · subst own
        simp [outside]
      · simp [own]
    · by_cases own : i = j
      · simp [own]
      · simp [own, Ne.symm own]
    · simp [running, Stage.holdsPermit]
  | place i t placed outbox job offering room left =>
    obtain ⟨unended, m, _, rfl⟩ := Outbox.step_place.mp room
    obtain ⟨_, rfl⟩ := Outbox.run_sender_leaves.mp left
    refine seated.leave job _ (fun j => ?_) rfl fun gone => ?_
    · change j ∈ ((s.outbox.withdraw i).withdraw i).offers.map Prod.fst ↔ _
      rw [mem_withdraw, mem_withdraw]
      by_cases own : i = j <;> simp [own]
    · exact absurd (unended.symm.trans gone) Bool.false_ne_true
  | endJob i t how outbox job ends left =>
    obtain ⟨_, rfl⟩ := Outbox.run_sender_leaves.mp left
    exact seated.leave job _ (fun j => mem_withdraw) rfl seated.cleared
  | sink b outbox sunk work =>
    have frame : outbox.offers = s.outbox.offers ∧ outbox.capacity = s.outbox.capacity := by
      cases work <;> exact ⟨rfl, rfl⟩
    refine seated.keep rfl rfl frame.1 frame.2 fun gone => ?_
    cases work with
    | pickPong | pickMessage | shut | wrote => cases gone
    | broke | closed => exact ⟨rfl, rfl⟩

end Dialback.Session
