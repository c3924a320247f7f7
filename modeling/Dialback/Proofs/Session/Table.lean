import Dialback.Proofs.Session.Chain
import Mathlib.Data.List.Dedup
import Mathlib.Data.List.Perm.Subperm

/-!
The table of latest jobs. Every entry is the latest job of its partition, and as long as that job is
unfinished it is in the table. What is left by a sweep are partitions that have unfinished jobs, so
the table stays small.
-/
namespace Dialback.Session

variable {α γ θ ρ : Type}

/-- The table without finished jobs. -/
def Lanes.tidy (l : Lanes) (finished : Nat → Bool) : Lanes :=
  ⟨l.entries.filter fun e => !finished e.2⟩

/-- The last job of the partition. -/
def Latest (s : Session α γ θ ρ) (p : PartitionKey) (j : Nat) : Prop :=
  (∃ t, s.jobs[j]? = some t ∧ t.partition = p) ∧
    ∀ (k : Nat) (u : Job θ), s.jobs[k]? = some u → u.partition = p → k ≤ j

/-- Partitions whose latest job is unfinished. -/
def busyPartitions (s : Session α γ θ ρ) : List PartitionKey :=
  (s.jobs.map Job.partition).dedup.filter fun p =>
    (s.jobs.reverse.find? (·.partition = p)).any (!·.hasEnded)

variable {s s' : Session α γ θ ρ} {terms : Terms θ} {a : Action γ θ ρ}
  {finished finished' : Nat → Bool}

/-- What is swept is finished, and a table without traces of finished jobs is the same. -/
theorem Lanes.tidy_sweep (l : Lanes) (limit : Option Nat)
    (late : ∀ e ∈ l.entries, finished e.2 = true → finished' e.2 = true) :
    (l.sweep limit finished).tidy finished' = l.tidy finished' := by
  unfold sweep
  split
  · rfl
  · split
    · simp only [tidy, List.filter_filter, mk.injEq]
      refine List.filter_congr fun e member => ?_
      have known := late e member
      cases before : finished e.2 <;> simp_all
    · rfl

theorem Lanes.tidy_tidy (l : Lanes)
    (late : ∀ e ∈ l.entries, finished e.2 = true → finished' e.2 = true) :
    (l.tidy finished).tidy finished' = l.tidy finished' := by
  have swept := l.tidy_sweep (some 0) late
  rwa [sweep, if_pos (Nat.zero_le _)] at swept

theorem Lanes.tidy_assign (l : Lanes) (p : PartitionKey) {job : Nat}
    (unfinished : finished job = false) :
    (l.assign p job).tidy finished = (l.tidy finished).assign p job := by
  simp only [assign, tidy, List.filter_cons, unfinished, Bool.not_false, if_true,
    List.filter_filter, Bool.and_comm]

theorem Lanes.keys_sweep {l : Lanes} (keys : (l.entries.map Prod.fst).Nodup) (limit : Option Nat)
    (finished : Nat → Bool) : ((l.sweep limit finished).entries.map Prod.fst).Nodup := by
  unfold sweep
  split
  · exact keys
  · split
    · exact keys.sublist (List.filter_sublist.map Prod.fst)
    · exact keys

theorem Lanes.keys_assign {l : Lanes} (keys : (l.entries.map Prod.fst).Nodup) (p : PartitionKey)
    (job : Nat) : ((l.assign p job).entries.map Prod.fst).Nodup := by
  refine List.nodup_cons.mpr ⟨?_, keys.sublist (List.filter_sublist.map Prod.fst)⟩
  simp

/-- The latest job of a partition is found whether or not finished ones are in the table, unless it
has finished itself. -/
theorem Lanes.latest_tidy {l : Lanes} (keys : (l.entries.map Prod.fst).Nodup) (p : PartitionKey) :
    (l.tidy finished).latest? p = (l.latest? p).filter fun k => !finished k := by
  obtain ⟨entries⟩ := l
  simp only [tidy, latest?] at keys ⊢
  induction entries with
  | nil => rfl
  | cons e rest ih =>
    obtain ⟨key, job⟩ := e
    simp only [List.map_cons, List.nodup_cons] at keys
    have later := ih keys.2
    by_cases own : p = key
    · subst own
      have absent : (rest.filter fun e => !finished e.2).lookup p = none := by
        rw [List.lookup_eq_none_iff]
        intro e member
        have other : e.1 ≠ p := by
          rintro rfl
          exact keys.1 (List.mem_map_of_mem (List.mem_of_mem_filter member))
        simpa using Ne.symm other
      cases ended : finished job <;> simp [ended, absent, Option.filter_some]
    · have other : (p == key) = false := by simpa using own
      cases ended : finished job <;> simp [ended, List.lookup_cons, other, later]

theorem Lanes.latest_of_mem {l : Lanes} (keys : (l.entries.map Prod.fst).Nodup)
    {p : PartitionKey} {j : Nat} (member : (p, j) ∈ l.entries) : l.latest? p = some j := by
  cases found : l.latest? p with
  | none => exact absurd member (untracked found j)
  | some k =>
    have same := List.inj_on_of_nodup_map keys member (mem_of_latest found) rfl
    rw [(Prod.mk.inj same).2]

/-! Jobs and table, step by step. -/

structure Booked (s : Session α γ θ ρ) : Prop where
  keys : (s.lanes.entries.map Prod.fst).Nodup
  latest : ∀ e ∈ s.lanes.entries, s.Latest e.1 e.2
  behind : ∀ t ∈ s.jobs, ∀ k, t.behind = some k → k < s.jobs.length
  /-- The latest job of a partition is in the table until it has finished. -/
  tracked : ∀ p j, s.Latest p j → s.finished j = false → (p, j) ∈ s.lanes.entries

theorem Booked.opened (settings : CallSettings) (openedAt : Nat) (arguments : ConnectArguments α) :
    Booked (Session.opened settings openedAt arguments : Session α γ θ ρ) where
  keys := List.nodup_nil
  latest e member := by cases member
  behind t member := by cases member
  tracked p j latest := by
    obtain ⟨t, job, _⟩ := latest.1
    cases job

theorem finished_of_job {i : Nat} {t : Job θ} (job : s.jobs[i]? = some t) :
    s.finished i = t.hasEnded := by
  rw [finished, job]

/-- What has finished stays so. -/
theorem finished_set {i : Nat} {t t' : Job θ} (job : s.jobs[i]? = some t)
    (advances : t.Advances t') (jobs : s'.jobs = s.jobs.set i t') (j : Nat)
    (before : s.finished j = true) : s'.finished j = true := by
  cases known : s'.jobs[j]? with
  | none => rw [finished, known]
  | some v' =>
    rw [jobs] at known
    obtain ⟨v, here, same, _⟩ := job_before job advances known
    rw [finished_of_job here] at before
    rw [finished_of_job (jobs ▸ known)]
    exact same.ended before

/-- Progress of a job leaves the latest jobs the latest. -/
theorem latest_set {i : Nat} {t t' : Job θ} (job : s.jobs[i]? = some t)
    (advances : t.Advances t') (jobs : s'.jobs = s.jobs.set i t') (p : PartitionKey) (j : Nat) :
    s'.Latest p j ↔ s.Latest p j := by
  unfold Latest
  rw [jobs]
  constructor
  · rintro ⟨⟨v', known, partition⟩, last⟩
    obtain ⟨v, here, same, _⟩ := job_before job advances known
    refine ⟨⟨v, here, same.partition.symm.trans partition⟩, fun k w there equal => ?_⟩
    obtain ⟨w', after, same'⟩ := job_after job advances there
    exact last k w' after (same'.partition.trans equal)
  · rintro ⟨⟨v, here, partition⟩, last⟩
    obtain ⟨v', after, same⟩ := job_after job advances here
    refine ⟨⟨v', after, same.partition.trans partition⟩, fun k w' known equal => ?_⟩
    obtain ⟨w, there, same', _⟩ := job_before job advances known
    exact last k w there (same'.partition.symm.trans equal)

private theorem Booked.moved (booked : Booked s) {i : Nat} {t t' : Job θ}
    (job : s.jobs[i]? = some t) (advances : t.Advances t') (jobs : s'.jobs = s.jobs.set i t')
    (lanes : s'.lanes = s.lanes) : Booked s' := by
  have latest := latest_set job advances jobs
  refine ⟨by rw [lanes]; exact booked.keys, ?_, ?_, ?_⟩
  · rw [lanes]
    exact fun e member => (latest e.1 e.2).mpr (booked.latest e member)
  · intro u' member k behind
    obtain ⟨j, known⟩ := List.mem_iff_getElem?.mp (jobs ▸ member)
    obtain ⟨u, here, same, _⟩ := job_before job advances known
    rw [jobs, List.length_set]
    exact booked.behind u (List.mem_of_getElem? here) k (same.behind.symm.trans behind)
  · intro p j last unfinished
    rw [lanes]
    refine booked.tracked p j ((latest p j).mp last) ?_
    by_contra before
    have late := finished_set job advances jobs j (by simpa using before)
    rw [late] at unfinished
    cases unfinished

/-- Every lane is that of a job. -/
theorem Booked.inside (booked : Booked s) {e : PartitionKey × Nat} (member : e ∈ s.lanes.entries) :
    e.2 < s.jobs.length := by
  obtain ⟨⟨t, here, _⟩, _⟩ := booked.latest e member
  exact (List.getElem?_eq_some_iff.mp here).1

private theorem Booked.added (booked : Booked s) {new : Job θ} {limit : Option Nat}
    (behind : new.behind = (s.lanes.sweep limit s.finished).latest? new.partition)
    (jobs : s'.jobs = s.jobs ++ [new])
    (lanes : s'.lanes = (s.lanes.sweep limit s.finished).assign new.partition s.jobs.length) :
    Booked s' := by
  have old : ∀ {j : Nat} {v : Job θ}, s.jobs[j]? = some v → s'.jobs[j]? = some v := by
    intro j v here
    rw [jobs, List.getElem?_append_left (List.getElem?_eq_some_iff.mp here).1, here]
  have here : s'.jobs[s.jobs.length]? = some new := by
    rw [jobs]
    exact List.getElem?_concat_length
  have swept : ∀ e ∈ (s.lanes.sweep limit s.finished).entries, e ∈ s.lanes.entries :=
    fun e => Lanes.mem_sweep.1
  refine ⟨?_, ?_, ?_, ?_⟩
  · rw [lanes]
    exact Lanes.keys_assign (Lanes.keys_sweep booked.keys _ _) _ _
  · intro e member
    rw [lanes] at member
    rcases Lanes.mem_assign.mp member with rfl | ⟨before, other⟩
    · refine ⟨⟨new, here, rfl⟩, fun k v known _ => ?_⟩
      have bound := (List.getElem?_eq_some_iff.mp known).1
      rw [jobs, List.length_append, List.length_singleton] at bound
      exact Nat.le_of_lt_succ bound
    · obtain ⟨⟨t, known, partition⟩, last⟩ := booked.latest e (swept e before)
      refine ⟨⟨t, old known, partition⟩, fun k v there equal => ?_⟩
      rw [jobs] at there
      rcases job_of_append there with there | ⟨_, rfl⟩
      · exact last k v there equal
      · exact absurd equal.symm other
  · intro t member k waits
    rw [jobs] at member ⊢
    rw [List.length_append, List.length_singleton]
    rcases List.mem_append.mp member with known | last
    · exact Nat.lt_succ_of_lt (booked.behind t known k waits)
    · rw [List.mem_singleton.mp last, behind] at waits
      exact Nat.lt_succ_of_lt (booked.inside (swept _ (Lanes.mem_of_latest waits)))
  · intro p j last unfinished
    rw [lanes]
    obtain ⟨⟨t, known, partition⟩, later⟩ := last
    rw [jobs] at known
    rcases job_of_append known with before | ⟨rfl, rfl⟩
    · have other : p ≠ new.partition := by
        rintro rfl
        have bound := later s.jobs.length new here rfl
        have less := (List.getElem?_eq_some_iff.mp before).1
        omega
      have latest : s.Latest p j :=
        ⟨⟨t, before, partition⟩, fun k v there equal => later k v (old there) equal⟩
      rw [finished_of_job (old before)] at unfinished
      have lasts : s.finished j = false := (finished_of_job before).trans unfinished
      exact Lanes.mem_assign.mpr
        (Or.inr ⟨Lanes.mem_sweep.2 (booked.tracked p j latest lasts) lasts, other⟩)
    · exact Lanes.mem_assign.mpr (Or.inl (by rw [← partition]))

theorem Booked.step (booked : Booked s) (books : Books s s') : Booked s' := by
  cases books with
  | same jobs lanes =>
    have latest : ∀ p j, s'.Latest p j ↔ s.Latest p j := by
      intro p j
      rw [Latest, jobs, Latest]
    refine ⟨by rw [lanes]; exact booked.keys, ?_, by rw [jobs]; exact booked.behind, ?_⟩
    · rw [lanes]
      exact fun e member => (latest e.1 e.2).mpr (booked.latest e member)
    · intro p j last unfinished
      rw [lanes]
      refine booked.tracked p j ((latest p j).mp last) ?_
      rwa [finished, jobs] at unfinished
  | moved i t t' job advances jobs lanes => exact booked.moved job advances jobs lanes
  | added new limit behind jobs lanes => exact booked.added behind jobs lanes

/-! Actions. -/

/-- Only reading brings new jobs. -/
theorem Effect.jobs_length (unread : a ≠ .move .read) (effect : Effect terms s a s') :
    s'.jobs.length = s.jobs.length := by
  cases effect with
  | dispatch => exact absurd rfl unread
  | control control => cases control <;> rfl
  | join | joinPanicked | ask | start | answer | place | endJob => exact List.length_set
  | _ => rfl

theorem Books.late (books : Books s s') (kept : s'.jobs.length = s.jobs.length) (k : Nat)
    (ended : s.finished k = true) : s'.finished k = true := by
  cases books with
  | same jobs lanes => rwa [Session.finished, jobs]
  | moved i t t' job advances jobs lanes => exact finished_set job advances jobs k ended
  | added new limit behind jobs lanes =>
    rw [jobs, List.length_append, List.length_singleton] at kept
    omega

/-- The session after a request that finds this table. -/
def afterRequest (s : Session α γ θ ρ) (lanes : Lanes) (outbox : Outbox (ClientMessage α ρ))
    (request : Request θ) (p : PartitionKey) : Session α γ θ ρ :=
  { s with
    outbox
    lanes := lanes.assign p s.jobs.length
    jobs := s.jobs ++ [{ request, partition := p, behind := lanes.latest? p }] }

theorem dispatch_eq (s : Session α γ θ ρ) (terms : Terms θ) (request : Request θ) :
    s.dispatch? terms request = (s.outbox.step .retain).map fun outbox =>
      s.afterRequest (s.lanes.sweep terms.laneLimit s.finished) outbox request
        (terms.partitionOf request) := by
  unfold dispatch?
  cases s.outbox.step .retain <;> rfl

theorem dispatch_books (taken : s.dispatch? terms request = some s') : Books s s' := by
  rw [dispatch_eq] at taken
  obtain ⟨outbox, _, rfl⟩ := Option.map_eq_some_iff.mp taken
  exact .added _ terms.laneLimit rfl rfl rfl

variable {p : PartitionKey} {j : Nat}

/-! The size of the table. -/

theorem Latest.find (latest : s.Latest p j) :
    s.jobs.reverse.find? (·.partition = p) = s.jobs[j]? := by
  obtain ⟨⟨t, job, partition⟩, last⟩ := latest
  obtain ⟨inside, here⟩ := List.getElem?_eq_some_iff.mp job
  rw [job]
  refine List.find?_eq_some_iff_append.mpr ⟨by simpa using partition,
    (s.jobs.drop (j + 1)).reverse, (s.jobs.take j).reverse, ?_, ?_⟩
  · conv => lhs; rw [← List.take_append_drop j s.jobs, List.drop_eq_getElem_cons inside, here]
    simp
  · intro v member
    obtain ⟨k, known⟩ := List.mem_iff_getElem?.mp (List.mem_reverse.mp member)
    rw [List.getElem?_drop] at known
    have other : v.partition ≠ p := by
      intro same
      have bound := last _ v known same
      omega
    simpa using other

/-- What is left of a swept table has an unfinished job for every partition. -/
theorem Booked.size_tidy (booked : Booked s) :
    (s.lanes.tidy s.finished).size ≤ s.busyPartitions.length := by
  have keys : ((s.lanes.tidy s.finished).entries.map Prod.fst).Nodup :=
    booked.keys.sublist (List.filter_sublist.map Prod.fst)
  have busy : (s.lanes.tidy s.finished).entries.map Prod.fst ⊆ s.busyPartitions := by
    intro q member
    obtain ⟨e, kept, rfl⟩ := List.mem_map.mp member
    obtain ⟨known, unfinished⟩ := List.mem_filter.mp kept
    have latest := booked.latest e known
    obtain ⟨t, job, partition⟩ := latest.1
    have lasts : t.hasEnded = false := by simpa [finished_of_job job] using unfinished
    refine List.mem_filter.mpr ⟨List.mem_dedup.mpr ?_, ?_⟩
    · exact List.mem_map.mpr ⟨t, List.mem_of_getElem? job, partition⟩
    · rw [latest.find, job]
      simp [lasts]
  rw [Lanes.size, ← List.length_map Prod.fst]
  exact (List.subperm_of_subset keys busy).length_le

theorem Booked.size_le (booked : Booked s) {n : Nat} (limited : terms.laneLimit = some n)
    {request : Request θ} (taken : s.dispatch? terms request = some s') :
    s'.lanes.size ≤ max n (1 + s.busyPartitions.length) := by
  rw [dispatch_eq, limited] at taken
  obtain ⟨outbox, _, rfl⟩ := Option.map_eq_some_iff.mp taken
  have assigned : ∀ (l : Lanes) (q : PartitionKey) (j : Nat), (l.assign q j).size ≤ 1 + l.size := by
    intro l q j
    have fewer := List.length_filter_le (fun e => e.1 != q) l.entries
    simp only [Lanes.assign, Lanes.size, List.length_cons]
    omega
  refine Nat.le_trans (assigned _ _ _) ?_
  have tidy := booked.size_tidy
  change 1 + (s.lanes.sweep (some n) s.finished).size ≤ _
  unfold Lanes.sweep
  dsimp only
  split
  · change 1 + (s.lanes.tidy s.finished).size ≤ _
    omega
  · omega

end Dialback.Session
