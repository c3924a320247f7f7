import Dialback.Proofs.Session.Progress
import Dialback.Proofs.Session.Safety

/-!
How much a session takes on at once. A permit is held from the start of a handler until its response
is in the queue, or the job has ended otherwise, and the queue is bounded; so running handlers and
waiting responses are bounded together, however slowly the sink writes. Whatever permit is taken is
given back once.
-/
namespace Dialback.Session

variable {α γ θ ρ : Type}

/-- Handlers that are running. -/
def runningJobs (s : Session α γ θ ρ) : Nat :=
  (s.jobs.map Job.stage).count .running

/-- Responses that are on their way: they wait for room, are queued or are being written. -/
def backlog (s : Session α γ θ ρ) : Nat :=
  s.outbox.offers.length + s.outbox.queue.length +
    (s.outbox.underway.filterMap ClientMessage.response?).length

def responsesWritten (s : Session α γ θ ρ) : List (Response ρ) :=
  (s.outbox.written.map Prod.snd).filterMap ClientMessage.response?

/-- The job has ended without its response having been queued. -/
def Stage.isDiscarded : Stage → Bool
  | ended how => decide (how ≠ .queued)
  | _ => false

def discarded (s : Session α γ θ ρ) (job : Nat) : Bool :=
  (s.jobs.map Job.stage)[job]?.any Stage.isDiscarded

def holds (s : Session α γ θ ρ) (job : Nat) : Bool :=
  (s.jobs.map Job.stage)[job]?.any Stage.holdsPermit

/-- Jobs in the order in which they have taken permits, and given them back. -/
structure PermitLog where
  taken : List Nat := []
  returned : List Nat := []

/-- A job that ends gives back the permit it holds. -/
def PermitLog.note (b : PermitLog) (s : Session α γ θ ρ) : Action γ θ ρ → PermitLog
  | .move (.start i) => { b with taken := b.taken ++ [i] }
  | .move (.place i) | .move (.refuse i) | .move (.abort i) | .event (.panic i) =>
    if s.holds i then { b with returned := b.returned ++ [i] } else b
  | _ => b

/-- The ledger of a run that begins in `s`. -/
def permitLog (s : Session α γ θ ρ) (terms : Terms θ) (actions : List (Action γ θ ρ)) : PermitLog :=
  Runs.noted (fun s a => s.act terms a) PermitLog.note {} s actions

structure Restrained (terms : Terms θ) (l : Log γ θ ρ) (b : PermitLog) (s : Session α γ θ ρ) :
    Prop where
  /-- Handlers that run, and responses that the queue has not accepted. -/
  busy : s.runningJobs + s.outbox.offers.length ≤ max 1 terms.settings.maxConcurrency.toNat
  held : s.backlog ≤ max 1 terms.settings.maxConcurrency.toNat +
    max 1 terms.settings.outboundBuffer.toNat + 1
  /-- Unless the writer is lost, a response has been written or is on its way, if its job was not
  discarded. -/
  computed : s.outbox.writer.isLost = false →
    ((l.answered.map Prod.fst).filter fun i => !s.discarded i).length =
      s.responsesWritten.length + s.backlog
  /-- While jobs may go on, only a panic or the loss of the writer discards one. -/
  kept : s.phase.isAborting = false → s.phase.isClosed = false →
    s.outbox.writer.isLost = false → l.answered.length = s.responsesWritten.length + s.backlog
  pool : s.permits.free + b.taken.length =
    max 1 terms.settings.maxConcurrency.toNat + b.returned.length
  /-- No job takes or returns a permit twice, and whoever has not returned it has it still. -/
  once : ∀ i, b.taken.count i ≤ 1 ∧ b.taken.count i = b.returned.count i + (s.holds i).toNat
  /-- Once a job has ended, its permit is back; if its handler was invoked, there was one. -/
  returned : ∀ (i : Nat) (t : Job θ), s.jobs[i]? = some t → t.hasEnded = true →
    b.returned.count i = l.invoked.count i ∧ (t.stage ≠ .ended .aborted → b.returned.count i = 1)
  restored : (∀ t ∈ s.jobs, t.stage.holdsPermit = false) →
    s.permits.free = max 1 terms.settings.maxConcurrency.toNat
  /-- As many jobs as there are free permits can be started, from the head of the line. -/
  available : ∀ n ≤ s.permits.free, ∃ s',
    s.run terms ((s.permits.line.take n).map fun i => .move (.start i)) = some s' ∧
      s'.runningJobs = s.runningJobs + min n s.permits.line.length

variable {l : Log γ θ ρ} {b : PermitLog} {s s' : Session α γ θ ρ} {terms : Terms θ}
  {a : Action γ θ ρ} {settings : CallSettings}

/-! Permits. -/

structure Balanced (settings : CallSettings) (b : PermitLog) (s : Session α γ θ ρ) : Prop where
  pool : s.permits.free + b.taken.length = settings.permits + b.returned.length
  each : ∀ i, b.taken.count i = b.returned.count i + (s.holds i).toNat

theorem Balanced.opened (settings : CallSettings) (openedAt : Nat)
    (arguments : ConnectArguments α) :
    Balanced settings {} (Session.opened settings openedAt arguments : Session α γ θ ρ) where
  pool := rfl
  each i := by simp [Session.opened, holds]

theorem holds_of_job {i : Nat} {t : Job θ} (job : s.jobs[i]? = some t) :
    s.holds i = t.stage.holdsPermit := by
  rw [holds, stage_known job]
  rfl

/-- Only the job that has moved may hold another permit than before. -/
theorem holds_set {i : Nat} {t t' : Job θ} (job : s.jobs[i]? = some t)
    (jobs : s'.jobs = s.jobs.set i t') (j : Nat) :
    s'.holds j = if i = j then t'.stage.holdsPermit else s.holds j := by
  rw [holds, jobs, stage_set job]
  split
  · rfl
  · rfl

private theorem Balanced.keep (balanced : Balanced settings b s)
    (note : b.note s a = b) (holds : ∀ i, s'.holds i = s.holds i)
    (free : s'.permits.free = s.permits.free) : Balanced settings (b.note s a) s' := by
  rw [note]
  refine ⟨?_, fun i => ?_⟩
  · rw [free]
    exact balanced.pool
  · rw [holds]
    exact balanced.each i

/-- A job moves on with the permit it has, or without one. -/
private theorem Balanced.move (balanced : Balanced settings b s) {i : Nat} {t t' : Job θ}
    (job : s.jobs[i]? = some t) (jobs : s'.jobs = s.jobs.set i t') (note : b.note s a = b)
    (same : t'.stage.holdsPermit = t.stage.holdsPermit)
    (free : s'.permits.free = s.permits.free) : Balanced settings (b.note s a) s' := by
  refine balanced.keep note (fun j => ?_) free
  rw [holds_set job jobs, same]
  split
  case isTrue own => rw [← own, holds_of_job job]
  case isFalse => rfl

/-- A job ends, whichever way. -/
private theorem Balanced.leave (balanced : Balanced settings b s) {i : Nat} {t : Job θ}
    {how : JobEnd} (job : s.jobs[i]? = some t)
    (jobs : s'.jobs = s.jobs.set i (t.withStage (.ended how)))
    (permits : s'.permits = s.permitsAfter i t.stage)
    (note : b.note s a = if s.holds i then { b with returned := b.returned ++ [i] } else b) :
    Balanced settings (b.note s a) s' := by
  cases held : t.stage.holdsPermit with
  | false =>
    refine balanced.move job jobs ?_ (by rw [held]; rfl) (by rw [permits, permitsAfter, held]; rfl)
    rw [note, holds_of_job job, held]
    rfl
  | true =>
    have given : b.note s a = { b with returned := b.returned ++ [i] } := by
      rw [note, holds_of_job job, held]
      rfl
    rw [given]
    refine ⟨?_, fun j => ?_⟩
    · have pool := balanced.pool
      simp only [permits, permitsAfter, held, if_true, Permits.giveBack, Permits.withdraw,
        List.length_append, List.length_singleton]
      omega
    · have before := balanced.each j
      rw [holds_set job jobs]
      simp only [List.count_append, List.count_singleton]
      by_cases own : i = j
      · subst own
        rw [holds_of_job job, held] at before
        simpa [Job.withStage, Stage.holdsPermit] using before
      · simpa [own] using before

private theorem Balanced.start (balanced : Balanced settings b s) {i : Nat} {t : Job θ}
    {permits : Permits} (job : s.jobs[i]? = some t) (inLine : t.stage = .inLine)
    (entered : s.permits.enter? i = some permits) :
    Balanced settings { b with taken := b.taken ++ [i] } { s with
      jobs := s.jobs.set i { t with stage := .running, started := some s.now }, permits } := by
  have pool := balanced.pool
  unfold Permits.enter? at entered
  split at entered
  case isFalse => cases entered
  case isTrue able =>
    cases entered
    have positive : 0 < s.permits.free := by
      by_contra none
      simp [Permits.mayEnter, Nat.eq_zero_of_not_pos none] at able
    refine ⟨?_, fun j => ?_⟩
    · simp only [List.length_append, List.length_singleton]
      omega
    · have before := balanced.each j
      rw [holds_set job rfl]
      simp only [List.count_append, List.count_singleton]
      by_cases own : i = j
      · subst own
        rw [holds_of_job job, inLine] at before
        simpa [Stage.holdsPermit] using before
      · simpa [own] using before

theorem Control.permitLog (control : Control terms s a s') : b.note s a = b := by
  cases control <;> rfl

theorem Ends.permitLog {outcome : Outcome} (ends : Ends s a outcome) : b.note s a = b := by
  cases ends <;> rfl

theorem Flushes.permitLog {cause : Cause} (flushes : Flushes s a cause) : b.note s a = b := by
  cases flushes <;> rfl

theorem Sinks.permitLog {o : Outbox.Action (ClientMessage α ρ)} (sunk : Sinks s.now a o) :
    b.note s a = b := by
  cases sunk <;> rfl

theorem JobEnds.permitLog {i : Nat} {t : Job θ} {how : JobEnd} (ends : JobEnds s i t a how) :
    b.note s a = if s.holds i then { b with returned := b.returned ++ [i] } else b := by
  cases ends <;> rfl

theorem Balanced.step (balanced : Balanced settings b s) (effect : Effect terms s a s') :
    Balanced settings (b.note s a) s' := by
  cases effect with
  | control control =>
    have note := control.permitLog (b := b)
    cases control <;> exact balanced.keep note (fun _ => rfl) rfl
  | finish outcome ends => exact balanced.keep ends.permitLog (fun _ => rfl) rfl
  | flush cause outbox flushes => exact balanced.keep flushes.permitLog (fun _ => rfl) rfl
  | sink o outbox sunk => exact balanced.keep sunk.permitLog (fun _ => rfl) rfl
  | arrive | accept | dismiss | ignore | hangUp | ping | pingRefused =>
    exact balanced.keep rfl (fun _ => rfl) rfl
  | dispatch request rest outbox =>
    refine balanced.keep rfl (fun i => ?_) rfl
    simp only [holds, List.map_append, List.map_singleton, List.getElem?_append,
      List.getElem?_singleton]
    split
    · rfl
    case isFalse beyond =>
      rw [List.getElem?_eq_none (Nat.le_of_not_lt beyond)]
      split <;> rfl
  | join i t job => exact balanced.move job rfl rfl rfl rfl
  | joinPanicked i t limit job => exact balanced.move job rfl rfl rfl rfl
  | ask i t job waiting =>
    exact balanced.move job rfl rfl (by rw [waiting]; rfl) rfl
  | answer i t response outbox job running =>
    exact balanced.move job rfl rfl (by rw [running]; rfl) rfl
  | start i t permits job inLine entered => exact balanced.start job inLine entered
  | place i t placed outbox job => exact balanced.leave job rfl rfl rfl
  | endJob i t how outbox job ends => exact balanced.leave job rfl rfl ends.permitLog

theorem Balanced.of_run {openedAt : Nat} {arguments : ConnectArguments α}
    {actions : List (Action γ θ ρ)}
    (ran : (Session.opened settings openedAt arguments).run terms actions = some s) :
    Balanced settings ((Session.opened settings openedAt arguments).permitLog terms actions) s :=
  Runs.noted_induction (fun _ => True)
    (fun _ _ _ _ _ balanced acted => balanced.step (.of_act acted))
    (.opened settings openedAt arguments) (fun _ _ => trivial) ran

/-- A handler is invoked when its job takes a permit. -/
theorem permitLog_taken (s : Session α γ θ ρ) (terms : Terms θ) (actions : List (Action γ θ ρ)) :
    (s.permitLog terms actions).taken = (s.log terms actions).invoked := by
  have notes : ∀ (b : PermitLog) (l : Log γ θ ρ) (s : Session α γ θ ρ) (a : Action γ θ ρ),
      b.taken = l.invoked → (b.note s a).taken = (l.note s a).invoked := by
    intro b l s a same
    unfold PermitLog.note Log.note
    split <;> try split
    all_goals simp_all
  have along : ∀ (b : PermitLog) (l : Log γ θ ρ), b.taken = l.invoked →
      (Runs.noted (fun s a => s.act terms a) PermitLog.note b s actions).taken =
        (Runs.noted (fun s a => s.act terms a) Log.note l s actions).invoked := by
    induction actions generalizing s with
    | nil => exact fun _ _ same => same
    | cons a rest ih =>
      intro b l same
      simp only [Runs.noted]
      split
      · exact ih _ _ _ (notes b l s a same)
      · exact same
  exact along {} {} rfl

/-! Responses. -/

/-- What bounds the outbox. -/
structure Stocked (s : Session α γ θ ρ) : Prop where
  fits : s.outbox.queue.length ≤ s.outbox.capacity
  /-- No job waits for room twice. -/
  apart : (s.outbox.offers.map Prod.fst).Nodup
  refused : ∀ t ∈ s.jobs, t.stage = .ended .refused → s.outbox.writer.hasEnded = true

theorem Stocked.opened (settings : CallSettings) (openedAt : Nat)
    (arguments : ConnectArguments α) :
    Stocked (Session.opened settings openedAt arguments : Session α γ θ ρ) where
  fits := Nat.zero_le _
  apart := List.nodup_nil
  refused t member := by cases member

/-- There is room for a message that may be placed. -/
theorem Outbox.fits_of_placeable {μ : Type} {o : Outbox μ} {sender : Nat} {m : μ}
    (found : o.placeable? sender = some m) : o.queue.length + 1 ≤ o.capacity := by
  by_contra full
  have none : o.room = 0 := by
    unfold room
    omega
  simp [placeable?, none] at found

/-- Nobody starts to wait for room, and the queue does not grow. -/
private theorem Stocked.keep (stocked : Stocked s)
    (queue : s'.outbox.queue.length ≤ s.outbox.queue.length)
    (capacity : s'.outbox.capacity = s.outbox.capacity)
    (offers : s'.outbox.offers.Sublist s.outbox.offers)
    (refused : ∀ t ∈ s'.jobs, t.stage = .ended .refused → s.outbox.writer.hasEnded = true)
    (writer : s.outbox.writer.hasEnded = true → s'.outbox.writer.hasEnded = true) :
    Stocked s' where
  fits := by
    rw [capacity]
    exact Nat.le_trans queue stocked.fits
  apart := stocked.apart.sublist (offers.map Prod.fst)
  refused t member stage := writer (refused t member stage)

/-- Only a writer that has ended refuses the job that moves on. -/
private theorem Stocked.refused_set (stocked : Stocked s) {i : Nat} {t : Job θ}
    (own : t.stage = .ended .refused → s.outbox.writer.hasEnded = true) (u : Job θ)
    (member : u ∈ s.jobs.set i t) (stage : u.stage = .ended .refused) :
    s.outbox.writer.hasEnded = true := by
  rcases List.mem_or_eq_of_mem_set member with known | rfl
  · exact stocked.refused u known stage
  · exact own stage

/-- The outbox stays as it is while a job moves on. -/
private theorem Stocked.move (stocked : Stocked s) {i : Nat} {t : Job θ}
    (jobs : s'.jobs = s.jobs.set i t) (outbox : s'.outbox = s.outbox)
    (own : t.stage = .ended .refused → s.outbox.writer.hasEnded = true) : Stocked s' := by
  refine stocked.keep (Nat.le_of_eq (by rw [outbox])) (by rw [outbox]) (by rw [outbox]) ?_
    (by rw [outbox]; exact id)
  rw [jobs]
  exact stocked.refused_set own

private theorem Stocked.dropped (stocked : Stocked s) (inbox : List (Inbound γ θ))
    (outcome : Outcome) :
    Stocked { s with inbox, phase := .ended outcome s.now, outbox := s.outbox.dropped } := by
  have less : s.outbox.dropped.queue.length ≤ s.outbox.queue.length ∧
      s.outbox.dropped.capacity = s.outbox.capacity ∧
      s.outbox.dropped.offers = s.outbox.offers := by
    unfold Outbox.dropped
    split
    · exact ⟨Nat.le_refl _, rfl, rfl⟩
    · exact ⟨Nat.zero_le _, rfl, rfl⟩
  refine stocked.keep less.1 less.2.1 (by rw [less.2.2]) stocked.refused fun _ => ?_
  exact Outbox.dropped_hasEnded

private theorem Stocked.sink (stocked : Stocked s) {o : Outbox.Action (ClientMessage α ρ)}
    {outbox : Outbox (ClientMessage α ρ)} (work : s.outbox.Work o outbox) :
    Stocked { s with outbox } := by
  have lasts := work.unended
  have less : outbox.queue.length ≤ s.outbox.queue.length ∧ outbox.capacity = s.outbox.capacity ∧
      outbox.offers = s.outbox.offers := by
    cases work with
    | pickMessage time m rest idle pongs queue => simp [queue]
    | pickPong | shut | wrote => exact ⟨Nat.le_refl _, rfl, rfl⟩
    | broke | closed => exact ⟨Nat.zero_le _, rfl, rfl⟩
  refine stocked.keep less.1 less.2.1 (by rw [less.2.2]) stocked.refused fun gone => ?_
  exact absurd (lasts.symm.trans gone) Bool.false_ne_true

theorem Stocked.step (seated : Seated settings s) (stocked : Stocked s)
    (effect : Effect terms s a s') : Stocked s' := by
  have same {s' : Session α γ θ ρ} (outbox : s'.outbox = s.outbox) (jobs : s'.jobs = s.jobs) :
      Stocked s' :=
    stocked.keep (Nat.le_of_eq (by rw [outbox])) (by rw [outbox]) (by rw [outbox])
      (by rw [jobs]; exact stocked.refused) (by rw [outbox]; exact id)
  cases effect with
  | control control => cases control <;> exact same rfl rfl
  | finish outcome => exact stocked.dropped s.inbox outcome
  | dismiss limit x rest outcome => exact stocked.dropped rest outcome
  | arrive | accept | ignore | hangUp | pingRefused => exact same rfl rfl
  | ping rest outbox reading taken =>
    obtain ⟨_, rfl⟩ := Outbox.step_pong.mp taken
    exact stocked.keep (Nat.le_refl _) rfl (.refl _) stocked.refused id
  | dispatch request rest outbox reading retained =>
    obtain ⟨_, rfl⟩ := Outbox.step_retain.mp retained
    refine stocked.keep (Nat.le_refl _) rfl (.refl _) (fun t member stage => ?_) id
    rcases List.mem_append.mp member with known | new
    · exact stocked.refused t known stage
    · rw [List.mem_singleton.mp new] at stage
      cases stage
  | join i t job => exact stocked.move rfl rfl (stocked.refused t (List.mem_of_getElem? job))
  | joinPanicked i t limit job =>
    exact stocked.move rfl rfl (stocked.refused t (List.mem_of_getElem? job))
  | flush cause outbox flushes left =>
    obtain ⟨_, rfl⟩ := Outbox.run_owners_leave.mp left
    exact stocked.keep (Nat.le_refl _) rfl (.refl _) stocked.refused id
  | ask | start => exact stocked.move rfl rfl fun stage => by cases stage
  | answer i t response outbox job running offered =>
    have silent := seated.not_offering job (by simp [running])
    rw [← Outbox.step_offer offered]
    refine ⟨stocked.fits, ?_, stocked.refused_set fun stage => by cases stage⟩
    simp only [List.map_append, List.map_singleton]
    exact List.nodup_append.mpr ⟨stocked.apart, List.pairwise_singleton _ i, by
      rintro j known k last rfl
      rw [List.mem_singleton.mp last] at known
      exact silent known⟩
  | place i t placed outbox job offering room left =>
    obtain ⟨_, m, found, rfl⟩ := Outbox.step_place.mp room
    obtain ⟨_, rfl⟩ := Outbox.run_sender_leaves.mp left
    refine ⟨?_, ?_, stocked.refused_set fun stage => by cases stage⟩
    · have fits := Outbox.fits_of_placeable found
      simpa [Outbox.withdraw] using fits
    · have fewer : ((s.outbox.withdraw i).withdraw i).offers.Sublist s.outbox.offers :=
        List.filter_sublist.trans List.filter_sublist
      exact stocked.apart.sublist (fewer.map Prod.fst)
  | endJob i t how outbox job ends left =>
    obtain ⟨_, rfl⟩ := Outbox.run_sender_leaves.mp left
    refine stocked.keep (Nat.le_refl _) rfl List.filter_sublist ?_ id
    refine stocked.refused_set fun stage => ?_
    cases ends with
    | refuse offering gone => exact gone
    | panic | abort => cases stage
  | sink o outbox sunk work => exact stocked.sink work

theorem Stocked.of_run {openedAt : Nat} {arguments : ConnectArguments α}
    {actions : List (Action γ θ ρ)}
    (ran : (Session.opened terms.settings openedAt arguments).run terms actions = some s) :
    Stocked s := by
  have step : ∀ (s : Session α γ θ ρ) a s', True → Orderly terms s ∧ Stocked s →
      s.act terms a = some s' → Orderly terms s' ∧ Stocked s' := by
    rintro s a s' - ⟨orderly, stocked⟩ acted
    have effect := Effect.of_act acted
    exact ⟨orderly.step effect, stocked.step orderly.seated effect⟩
  exact (Runs.preserved (fun _ => True) step
    ⟨.opened openedAt arguments, .opened terms.settings openedAt arguments⟩
    (fun _ _ => trivial) ran).2

/-! Counting. -/

theorem Stage.unheld_of_ended {stage : Stage} (ended : stage.isEnded = true) :
    stage.holdsPermit = false := by
  cases stage with
  | ended => rfl
  | waiting | inLine | running | offering => cases ended

/-- A job that holds a permit runs its handler or waits for room. -/
theorem countP_holdsPermit (stages : List Stage) :
    stages.count .running + stages.count .offering = stages.countP Stage.holdsPermit := by
  induction stages with
  | nil => rfl
  | cons stage rest ih =>
    simp only [List.count_cons, List.countP_cons]
    cases stage <;> simp [Stage.holdsPermit] <;> omega

/-- The responses that wait for room are those of the jobs at that stage. -/
theorem Seated.offers_length (seated : Seated settings s) (stocked : Stocked s) :
    s.outbox.offers.length = (s.jobs.map Job.stage).count .offering := by
  have same : (s.outbox.offers.map Prod.fst).Perm
      ((s.jobs.map Job.stage).findIdxs (· == .offering)) := by
    refine (List.perm_ext_iff_of_nodup stocked.apart List.nodup_findIdxs).mpr fun i => ?_
    rw [seated.offers, List.mem_findIdxs_iff_exists_getElem_pos, List.getElem?_eq_some_iff]
    simp
  rw [List.count, ← List.length_findIdxs, ← same.length_eq, List.length_map]

theorem Seated.busy (seated : Seated settings s) (stocked : Stocked s) :
    s.runningJobs + s.outbox.offers.length =
      (s.jobs.map Job.stage).countP Stage.holdsPermit := by
  rw [seated.offers_length stocked]
  exact countP_holdsPermit (s.jobs.map Job.stage)

theorem Outbox.underway_responses (o : Outbox (ClientMessage α ρ)) :
    (o.underway.filterMap ClientMessage.response?).length ≤ 1 := by
  refine Nat.le_trans (List.length_filterMap_le _ _) ?_
  unfold underway
  split <;> simp

/-! Responses that are on their way. -/

theorem Stage.Allows.bounded {stage : Stage} {tally : Tally} (allowed : stage.Allows tally) :
    tally.invoked ≤ 1 ∧ tally.answered ≤ tally.invoked := by
  cases allowed with
  | aborted invoked answered once ordered => exact ⟨once, ordered⟩
  | waiting | inLine | running | offering | queued | refused | panicked => simp

theorem Stage.Allows.invoked_of_ended {stage : Stage} {tally : Tally}
    (allowed : stage.Allows tally) (ended : stage.isEnded = true)
    (whole : stage ≠ .ended .aborted) : tally.invoked = 1 := by
  cases allowed with
  | queued | refused | panicked => rfl
  | aborted => exact absurd rfl whole
  | waiting | inLine | running | offering => cases ended

theorem Stage.Allows.unanswered {tally : Tally} (allowed : (Stage.ended .panicked).Allows tally) :
    tally.answered = 0 := by
  cases allowed
  rfl

/-- The response of a job that was not discarded is queued, or waits for room. -/
theorem Stage.Allows.undiscarded {stage : Stage} {tally : Tally} (allowed : stage.Allows tally) :
    0 < tally.answered ∧ stage.isDiscarded = false ↔ 0 < tally.placed ∨ stage = .offering := by
  cases allowed <;> simp [isDiscarded]

/-- No handler is invoked twice or returns twice. -/
theorem Tallied.bounded (tallied : Tallied l s) (i : Nat) :
    (l.tally i).invoked ≤ 1 ∧ (l.tally i).answered ≤ (l.tally i).invoked := by
  cases job : s.jobs[i]? with
  | none => simp [tallied.others i (List.getElem?_eq_none_iff.mp job)]
  | some t => exact (tallied.jobs i t job).bounded

theorem Tallied.answered_nodup (tallied : Tallied l s) : (l.answered.map Prod.fst).Nodup := by
  refine List.nodup_iff_count_le_one.mpr fun i => ?_
  obtain ⟨once, ordered⟩ := tallied.bounded i
  exact Nat.le_trans ordered once

variable {arguments : ConnectArguments α}

theorem Sound.undiscarded (sound : Sound terms arguments l s) (seated : Seated settings s)
    (stocked : Stocked s) :
    ((l.answered.map Prod.fst).filter fun i => !s.discarded i).Perm
      (l.placed ++ s.outbox.offers.map Prod.fst) := by
  have tallied := sound.tallied
  have apart : ∀ i ∈ l.placed, ∀ j ∈ s.outbox.offers.map Prod.fst, i ≠ j := by
    rintro i placed j offered rfl
    obtain ⟨t, job, offering⟩ := job_of_stage ((seated.offers i).mp offered)
    rw [tallied.stage_of_placed job placed] at offering
    cases offering
  refine (List.perm_ext_iff_of_nodup (tallied.answered_nodup.filter _)
    (List.nodup_append.mpr ⟨tallied.placed_nodup, stocked.apart, apart⟩)).mpr fun i => ?_
  rw [List.mem_filter, List.mem_append, seated.offers, ← List.count_pos_iff, ← List.count_pos_iff]
  change 0 < (l.tally i).answered ∧ _ ↔ 0 < (l.tally i).placed ∨ _
  cases job : s.jobs[i]? with
  | none => simp [tallied.others i (List.getElem?_eq_none_iff.mp job), job]
  | some t =>
    have same := (tallied.jobs i t job).undiscarded
    simpa [discarded, job] using same

theorem Conveyed.placed_length (conveyed : Conveyed l s)
    (kept : s.outbox.writer.isLost = false) :
    l.placed.length = s.responsesWritten.length + s.outbox.queue.length +
      (s.outbox.underway.filterMap ClientMessage.response?).length := by
  obtain ⟨order, _, all, answered⟩ := conveyed.order
  have queue : (s.outbox.queue.filterMap ClientMessage.response?).length =
      s.outbox.queue.length := by
    refine List.filterMap_length_eq_length.mpr fun m member => ?_
    obtain ⟨r, rfl⟩ := conveyed.queue m member
    rfl
  have lengths := answered.length_eq
  simp only [Outbox.handed, List.filterMap_append, List.length_append, all kept, queue] at lengths
  unfold responsesWritten
  omega

theorem Sound.computed (sound : Sound terms arguments l s) (seated : Seated settings s)
    (stocked : Stocked s) (kept : s.outbox.writer.isLost = false) :
    ((l.answered.map Prod.fst).filter fun i => !s.discarded i).length =
      s.responsesWritten.length + s.backlog := by
  have placed := sound.conveyed.placed_length kept
  rw [(sound.undiscarded seated stocked).length_eq, List.length_append, List.length_map]
  unfold backlog
  omega

/-- A response is discarded only when jobs are torn down or the writer is lost. -/
theorem Sound.kept (sound : Sound terms arguments l s) (stocked : Stocked s)
    (calm : s.phase.isAborting = false) (isOpen : s.phase.isClosed = false)
    (kept : s.outbox.writer.isLost = false) (i : Nat) (answered : i ∈ l.answered.map Prod.fst) :
    s.discarded i = false := by
  have answers : 0 < (l.tally i).answered := List.count_pos_iff.mpr answered
  cases job : s.jobs[i]? with
  | none => simp [discarded, job]
  | some t =>
    have allowed := sound.tallied.jobs i t job
    have working : s.outbox.writer.hasEnded = false := by
      by_contra gone
      rcases Writer.lost_or_shutting (by simpa using gone) with lost | shutting
      · rw [kept] at lost
        cases lost
      · have closed := sound.tended.shutting shutting
        rw [isOpen] at closed
        cases closed
    cases stage : t.stage with
    | waiting | inLine | running | offering => simp [discarded, job, stage, Stage.isDiscarded]
    | ended how =>
      cases how with
      | queued => simp [discarded, job, stage, Stage.isDiscarded]
      | refused =>
        have gone := stocked.refused t (List.mem_of_getElem? job) stage
        rw [working] at gone
        cases gone
      | panicked =>
        rw [stage] at allowed
        exact absurd allowed.unanswered (Nat.ne_of_gt answers)
      | aborted =>
        have torn := sound.chained.aborted i t job stage
        simp [calm, isOpen] at torn

/-! Permits that are free are to be had. -/

theorem Effect.started {i : Nat} (effect : Effect terms s (.move (.start i)) s') :
    ∃ t, s.jobs[i]? = some t ∧ t.stage = .inLine ∧ s.permits.enter? i = some s'.permits ∧
      s'.jobs = s.jobs.set i { t with stage := .running, started := some s.now } := by
  cases effect with
  | start i t permits job inLine entered =>
    exact ⟨t, job, inLine, entered, rfl⟩
  | control control => cases control
  | finish outcome ends => cases ends
  | flush cause outbox flushes => cases flushes
  | endJob i t how outbox job ends => cases ends
  | sink b outbox sunk => cases sunk

/-- The first in line is started: one more handler runs, with one permit less to be had. -/
theorem Seated.start_first (seated : Seated terms.settings s)
    (free : s.permits.free ≠ 0) {i : Nat} {rest : List Nat} (line : s.permits.line = i :: rest) :
    ∃ s', s.act terms (.move (.start i)) = some s' ∧ s'.permits.line = rest ∧
      s'.permits.free + 1 = s.permits.free ∧ s'.runningJobs = s.runningJobs + 1 := by
  have able : (s.act terms (.move (.start i))).isSome = true := seated.start_isSome free line
  obtain ⟨s', acted⟩ := Option.isSome_iff_exists.mp able
  obtain ⟨t, job, inLine, entered, jobs⟩ := (Effect.of_act acted).started
  unfold Permits.enter? at entered
  split at entered
  case isFalse => cases entered
  case isTrue =>
    have permits := Option.some.inj entered
    obtain ⟨inside, here⟩ := List.getElem?_eq_some_iff.mp job
    refine ⟨s', acted, ?_, ?_, ?_⟩
    · rw [← permits, line]
      exact List.erase_cons_head i rest
    · rw [← permits]
      exact Nat.sub_add_cancel (Nat.one_le_iff_ne_zero.mpr free)
    · unfold runningJobs
      rw [jobs, List.map_set, List.count_set (by simpa using inside)]
      simp [here, inLine]

/-- The induction is on the number of permits that are to be taken. -/
theorem Orderly.available (orderly : Orderly terms s) (n : Nat) (free : n ≤ s.permits.free) :
    ∃ s', s.run terms ((s.permits.line.take n).map fun i => .move (.start i)) = some s' ∧
      s'.runningJobs = s.runningJobs + min n s.permits.line.length := by
  induction n generalizing s with
  | zero => exact ⟨s, rfl, by simp⟩
  | succ n ih =>
    cases line : s.permits.line with
    | nil => exact ⟨s, rfl, by simp⟩
    | cons i rest =>
      obtain ⟨next, acted, behind, fewer, more⟩ :=
        orderly.seated.start_first (by omega) line
      obtain ⟨s', ran, running⟩ := ih (orderly.step (.of_act acted)) (by omega)
      rw [behind] at ran running
      refine ⟨s', Runs.foldlM_cons.mpr ⟨next, acted, ran⟩, ?_⟩
      rw [List.length_cons]
      omega

/-- However requests arrive, handlers return and the sink writes, a session holds no more than its
settings allow, and gets back every permit it gives out. -/
theorem concurrency_restrained (openedAt : Nat) (arguments : ConnectArguments α)
    (actions : List (Action γ θ ρ))
    (ran : (Session.opened terms.settings openedAt arguments).run terms actions = some s) :
    Restrained terms ((Session.opened terms.settings openedAt arguments).log terms actions)
      ((Session.opened terms.settings openedAt arguments).permitLog terms actions) s := by
  have orderly : Orderly terms s := .of_run ran
  have seated := orderly.seated
  have sound := Sound.of_run ran
  have balanced := Balanced.of_run ran
  have stocked : Stocked s := .of_run ran
  have permits : terms.settings.permits = max 1 terms.settings.maxConcurrency.toNat :=
    Nat.max_comm _ _
  have buffer : terms.settings.buffer = max 1 terms.settings.outboundBuffer.toNat :=
    Nat.max_comm _ _
  have busy := seated.busy stocked
  have shared := seated.permits
  have invoked := permitLog_taken (Session.opened terms.settings openedAt arguments) terms actions
  rw [permits] at shared
  refine ⟨by omega, ?_, sound.computed seated stocked, ?_, ?_, ?_, ?_, ?_, orderly.available⟩
  · have fits := stocked.fits
    have last := s.outbox.underway_responses
    rw [seated.capacity, buffer] at fits
    unfold backlog
    omega
  · intro calm isOpen kept
    have all := sound.kept stocked calm isOpen kept
    rw [← sound.computed seated stocked kept, List.filter_eq_self.mpr (by simpa using all),
      List.length_map]
  · rw [← permits]
    exact balanced.pool
  · intro i
    rw [invoked]
    exact ⟨(sound.tallied.bounded i).1, invoked ▸ balanced.each i⟩
  · intro i t job ended
    have each := balanced.each i
    rw [holds_of_job job, Stage.unheld_of_ended ended, invoked] at each
    refine ⟨each.symm, fun whole => ?_⟩
    have once := (sound.tallied.jobs i t job).invoked_of_ended ended whole
    exact each.symm.trans once
  · intro unheld
    have none : (s.jobs.map Job.stage).countP Stage.holdsPermit = 0 := by
      simpa [List.countP_eq_zero] using unheld
    omega

/-- Settings of zero count as one; a panic gives its permit back, and a response that waits keeps
its own. -/
theorem concurrency_restrained_narrowed :
    ∃ s : Session String String Nat String,
      (Session.opened narrowTerms.settings 0 { payload := "hello" }).run narrowTerms narrowed =
        some s ∧
      s.backlog = 1 ∧ s.permits.free = 0 ∧
      Restrained narrowTerms
        ((Session.opened narrowTerms.settings 0
          ({ payload := "hello" } : ConnectArguments String)).log narrowTerms narrowed)
        { taken := [0, 1], returned := [0] } s :=
  ⟨_, rfl, rfl, rfl, concurrency_restrained 0 { payload := "hello" } narrowed rfl⟩

end Dialback.Session
