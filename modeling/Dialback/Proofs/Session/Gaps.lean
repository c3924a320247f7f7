import Dialback.Proofs.Session.Invariant
import Mathlib.Data.List.Basic

/-!
Which requests of a partition may stay without a response while later ones get theirs. A job waits
for no more than the end of the job before it, so a request is lost if its handler panics or its job
is torn down, and later ones are answered all the same. Nothing else leaves a gap, as long as no job
of the partition is torn down before its handler is invoked: the answered requests of a partition
are, in the order of arrival, the first of those that are not lost.
-/
namespace Dialback.Session

variable {α γ θ ρ : Type}

/-- The request that became this job belongs to the partition. -/
def Log.isOf (l : Log γ θ ρ) (terms : Terms θ) (p : PartitionKey) (i : Nat) : Bool :=
  l.requests[i]?.any fun q => decide (terms.partitionOf q = p)

/-- The requests of a partition that have been read, by number. -/
def Log.requestsOf (l : Log γ θ ρ) (terms : Terms θ) (p : PartitionKey) : List Nat :=
  (List.range l.requests.length).filter (l.isOf terms p)

/-- The jobs to which the responses among these messages reply, in order, if the messages are the
first that the sink was handed. -/
def Log.repliedTo (l : Log γ θ ρ) (sent : List (ClientMessage α ρ)) : List Nat :=
  l.placed.take (sent.filterMap ClientMessage.response?).length

/-- The request stays without a response: its handler panicked or its job was torn down. -/
def isLost (s : Session α γ θ ρ) (i : Nat) : Bool :=
  s.hasEndedBy .panicked i || s.hasEndedBy .aborted i

structure GapsAfterLosses (terms : Terms θ) (l : Log γ θ ρ) (s : Session α γ θ ρ) : Prop where
  replies : ∀ sent, sent <+: s.handed →
    List.Forall₂ l.Replies (sent.filterMap ClientMessage.response?) (l.repliedTo sent)
  /-- No request is passed over unless it is lost, or one behind it is skipped. -/
  passedOver : ∀ sent, sent <+: s.handed → ∀ i j, l.SamePartition terms i j → i < j →
    j ∈ l.repliedTo sent → i ∈ l.repliedTo sent ∨ s.isLost i = true ∨ l.Skips terms s i j
  /-- The answered requests of a partition are the first of those that are not lost. -/
  answered : ∀ sent, sent <+: s.handed → ∀ p,
    (∀ k, l.isOf terms p k = true → s.wasSkipped k = false) →
    (l.repliedTo sent).filter (l.isOf terms p) <+:
      (l.requestsOf terms p).filter fun i => !s.isLost i
  /-- No job is torn down while the session is serviced or drains. -/
  spared : s.phase.isAborting = false → s.phase.isClosed = false →
    ∀ i, s.hasEndedBy .aborted i = false
  wire : s.wire.map Prod.snd <+: s.handed

/-- How a job may have ended when the response of a later job of its partition is queued. -/
def Stage.isPassed : Stage → Bool
  | ended .queued | ended .panicked | ended .aborted => true
  | _ => false

structure Gapless (s : Session α γ θ ρ) : Prop where
  refused : ∀ (i : Nat) (t : Job θ), s.jobs[i]? = some t → t.stage = .ended .refused →
    s.outbox.writer.hasEnded = true
  passed : ∀ (i j : Nat) (u t : Job θ), i < j → s.jobs[i]? = some u → s.jobs[j]? = some t →
    u.partition = t.partition → t.stage = .ended .queued →
      u.stage.isPassed = true ∨ s.SkippedBetween t.partition i j

variable {l : Log γ θ ρ} {s s' : Session α γ θ ρ} {terms : Terms θ} {a : Action γ θ ρ}
  {arguments : ConnectArguments α}

/-! What precedes a queued response. -/

theorem Gapless.opened (settings : CallSettings) (openedAt : Nat) (arguments : ConnectArguments α) :
    Gapless (Session.opened settings openedAt arguments : Session α γ θ ρ) where
  refused i t job := by simp [Session.opened] at job
  passed i j u t _ job := by simp [Session.opened] at job

/-- Steps that leave the jobs alone. -/
private theorem Gapless.keep (gapless : Gapless s) (jobs : s'.jobs = s.jobs)
    (writer : s.outbox.writer.hasEnded = true → s'.outbox.writer.hasEnded = true) :
    Gapless s' where
  refused i t job stage := writer (gapless.refused i t (by rwa [← jobs]) stage)
  passed := by
    unfold SkippedBetween
    rw [jobs]
    exact gapless.passed

/-- One job goes on. -/
private theorem Gapless.update (gapless : Gapless s) {i : Nat} {t t' : Job θ}
    (job : s.jobs[i]? = some t) (jobs : s'.jobs = s.jobs.set i t') (advances : t.Advances t')
    (fixed : t.hasEnded = true → t'.stage = t.stage)
    (writer : s.outbox.writer.hasEnded = true → s'.outbox.writer.hasEnded = true)
    (refused : t'.stage = .ended .refused → t.stage = .ended .refused ∨
      s'.outbox.writer.hasEnded = true)
    (queued : t'.stage = .ended .queued → t.stage = .ended .queued ∨
      ∀ (j : Nat) (u : Job θ), j < i → s.jobs[j]? = some u → u.partition = t.partition →
        u.stage.isPassed = true ∨ s.SkippedBetween t.partition j i) : Gapless s' := by
  constructor
  case refused =>
    intro j u' known stage
    rw [jobs] at known
    obtain ⟨u, before, _, ⟨_, rfl, rfl⟩ | ⟨_, rfl⟩⟩ := job_before job advances known
    · exact (refused stage).elim (fun already => writer (gapless.refused j u before already)) id
    · exact writer (gapless.refused j u' before stage)
  case passed =>
    intro j k u' v' less first second partition stage
    rw [jobs] at first second
    obtain ⟨u, early, sameU, whichU⟩ := job_before job advances first
    obtain ⟨v, late, sameV, whichV⟩ := job_before job advances second
    rw [sameU.partition, sameV.partition] at partition
    rw [sameV.partition]
    have passed : u.stage.isPassed = true ∨ s.SkippedBetween v.partition j k := by
      rcases whichV with ⟨rfl, rfl, rfl⟩ | ⟨_, rfl⟩
      · exact (queued stage).elim (gapless.passed j k u v less early late partition)
          fun earlier => earlier j u less early partition
      · exact gapless.passed j k u v' less early late partition stage
    refine passed.imp (fun passed => ?_) fun skipped => skipped.step fun m w here => ?_
    · rcases whichU with ⟨_, rfl, rfl⟩ | ⟨_, rfl⟩
      · have ended : u.hasEnded = true := by
          unfold Stage.isPassed at passed
          split at passed <;> simp_all [Job.hasEnded, Stage.isEnded]
        rwa [fixed ended]
      · exact passed
    · rw [jobs]
      exact job_after job advances here

/-- A new job has passed nothing. -/
private theorem Gapless.added (gapless : Gapless s) {new : Job θ}
    (jobs : s'.jobs = s.jobs ++ [new]) (waits : new.stage = .waiting)
    (writer : s.outbox.writer.hasEnded = true → s'.outbox.writer.hasEnded = true) :
    Gapless s' := by
  constructor
  case refused =>
    intro i t known stage
    rw [jobs] at known
    rcases job_of_append known with before | ⟨_, rfl⟩
    · exact writer (gapless.refused i t before stage)
    · rw [waits] at stage
      cases stage
  case passed =>
    intro i j u t less first second partition stage
    rw [jobs] at first second
    rcases job_of_append second with late | ⟨_, rfl⟩
    · rcases job_of_append first with early | ⟨beyond, _⟩
      · refine (gapless.passed i j u t less early late partition stage).imp_right fun skipped =>
          skipped.step fun k v here => ⟨v, ?_, .refl v⟩
        rw [jobs, List.getElem?_append_left (List.getElem?_eq_some_iff.mp here).1, here]
      · have inside := (List.getElem?_eq_some_iff.mp late).1
        omega
    · rw [waits] at stage
      cases stage

/-- When a response is queued, the earlier jobs of its partition have queued theirs or are lost,
unless one between was skipped. -/
private theorem Gapless.place (gapless : Gapless s) (sound : Sound terms arguments l s) {i : Nat}
    {t : Job θ} (job : s.jobs[i]? = some t) (offering : t.stage = .offering)
    (live : s.outbox.writer.hasEnded = false) (j : Nat) (u : Job θ) (less : j < i)
    (earlier : s.jobs[j]? = some u) (partition : u.partition = t.partition) :
    u.stage.isPassed = true ∨ s.SkippedBetween t.partition j i := by
  have entered : t.isLetIn = true := by simp [Job.isLetIn, offering]
  refine (sound.chained.ordered j i u t less earlier job partition entered).imp_left fun ended => ?_
  cases stage : u.stage with
  | waiting | inLine | running | offering => simp [Job.hasEnded, Stage.isEnded, stage] at ended
  | ended how =>
    cases how with
    | queued | panicked | aborted => rfl
    | refused =>
      have gone := gapless.refused j u earlier stage
      simp [live] at gone

theorem Gapless.step (gapless : Gapless s) (sound : Sound terms arguments l s)
    (effect : Effect terms s a s') : Gapless s' := by
  cases effect with
  | control control => cases control <;> exact gapless.keep rfl fun h => h
  | finish => exact gapless.keep rfl fun _ => Outbox.dropped_hasEnded
  | dismiss => exact gapless.keep rfl fun _ => Outbox.dropped_hasEnded
  | arrive | accept | ignore | hangUp | pingRefused => exact gapless.keep rfl fun h => h
  | ping rest outbox reading taken =>
    obtain ⟨_, rfl⟩ := Outbox.step_pong.mp taken
    exact gapless.keep rfl fun h => h
  | dispatch request rest outbox reading retained =>
    obtain ⟨_, rfl⟩ := Outbox.step_retain.mp retained
    exact gapless.added rfl rfl fun h => h
  | join i t job =>
    exact gapless.update job rfl (.noticed t) (fun _ => rfl) (fun h => h) Or.inl Or.inl
  | joinPanicked i t limit job =>
    exact gapless.update job rfl (.noticed t) (fun _ => rfl) (fun h => h) Or.inl Or.inl
  | flush cause outbox flushes left =>
    obtain ⟨_, rfl⟩ := Outbox.run_owners_leave.mp left
    exact gapless.keep rfl fun h => h
  | ask i t job waiting =>
    have lasts : t.hasEnded = false := Job.hasEnded_of_stage waiting
    refine gapless.update job rfl (.of_live lasts ⟨rfl, rfl, rfl⟩) (by simp [lasts]) (fun h => h)
      (fun stage => ?_) fun stage => ?_
    · cases stage
    · cases stage
  | start i t permits job inLine =>
    have lasts : t.hasEnded = false := Job.hasEnded_of_stage inLine
    refine gapless.update job rfl (.of_live lasts ⟨rfl, rfl, rfl⟩) (by simp [lasts]) (fun h => h)
      (fun stage => ?_) fun stage => ?_
    · cases stage
    · cases stage
  | answer i t response outbox job running offered =>
    rw [← Outbox.step_offer offered]
    have lasts : t.hasEnded = false := Job.hasEnded_of_stage running
    refine gapless.update job rfl (.of_live lasts ⟨rfl, rfl, rfl⟩) (by simp [lasts]) (fun h => h)
      (fun stage => ?_) fun stage => ?_
    · cases stage
    · cases stage
  | place i t placed outbox job offering room left =>
    obtain ⟨live, m, _, rfl⟩ := Outbox.step_place.mp room
    obtain ⟨_, rfl⟩ := Outbox.run_sender_leaves.mp left
    have lasts : t.hasEnded = false := Job.hasEnded_of_stage offering
    refine gapless.update job rfl (.of_live lasts ⟨rfl, rfl, rfl⟩) (by simp [lasts]) (fun h => h)
      (fun stage => ?_) fun _ => Or.inr ?_
    · cases stage
    · exact gapless.place sound job offering live
  | endJob i t how outbox job ends left =>
    obtain ⟨_, rfl⟩ := Outbox.run_sender_leaves.mp left
    have lasts := ends.lasts
    refine gapless.update job rfl (.of_live lasts ⟨rfl, rfl, rfl⟩) (by simp [lasts]) (fun h => h)
      (fun stage => ?_) fun stage => ?_
    · cases ends with
      | refuse offering gone => exact Or.inr gone
      | panic | abort => cases stage
    · cases ends <;> cases stage
  | sink b outbox sunk work =>
    refine gapless.keep rfl fun ended => ?_
    rw [work.unended] at ended
    cases ended

/-! Lists that leave no gap. -/

/-- What is closed under going back in an increasing list is a start of that list. -/
theorem prefix_of_closed {xs ys : List Nat} (sorted : xs.Pairwise (· < ·))
    (increasing : ys.Pairwise (· < ·)) (inside : ∀ x ∈ xs, x ∈ ys)
    (closed : ∀ x ∈ xs, ∀ y ∈ ys, y < x → y ∈ xs) : xs <+: ys := by
  induction ys generalizing xs with
  | nil =>
    have none : xs = [] := List.eq_nil_iff_forall_not_mem.mpr fun x member => by
      simpa using inside x member
    simp [none]
  | cons y ys ih =>
    cases xs with
    | nil => exact List.nil_prefix
    | cons x xs =>
      obtain ⟨above, ascending⟩ := List.pairwise_cons.mp increasing
      obtain ⟨beyond, rising⟩ := List.pairwise_cons.mp sorted
      have same : x = y := by
        rcases List.mem_cons.mp (inside x List.mem_cons_self) with same | later
        · exact same
        · have back := closed x List.mem_cons_self y List.mem_cons_self (above x later)
          rcases List.mem_cons.mp back with same | behind
          · exact same.symm
          · have before := beyond y behind
            have after := above x later
            omega
      subst same
      refine (List.prefix_cons_inj x).mpr (ih rising ascending ?_ ?_)
      · intro z member
        rcases List.mem_cons.mp (inside z (List.mem_cons_of_mem x member)) with rfl | later
        · exact absurd (beyond z member) (Nat.lt_irrefl z)
        · exact later
      · intro z member w later less
        have back := closed z (List.mem_cons_of_mem x member) w (List.mem_cons_of_mem x later) less
        rcases List.mem_cons.mp back with rfl | found
        · exact absurd (above w later) (Nat.lt_irrefl w)
        · exact found

/-! What has been answered. -/

theorem Log.isOf_iff {p : PartitionKey} {i : Nat} :
    l.isOf terms p i = true ↔ ∃ q, l.requests[i]? = some q ∧ terms.partitionOf q = p := by
  cases known : l.requests[i]? <;> simp [Log.isOf, known]

theorem Log.samePartition_of_isOf {p : PartitionKey} {i j : Nat} (first : l.isOf terms p i = true)
    (second : l.isOf terms p j = true) : l.SamePartition terms i j := by
  obtain ⟨q, here, rfl⟩ := Log.isOf_iff.mp first
  obtain ⟨r, there, same⟩ := Log.isOf_iff.mp second
  exact ⟨q, r, here, there, same.symm⟩

theorem Log.mem_requestsOf {p : PartitionKey} {i : Nat} :
    i ∈ l.requestsOf terms p ↔ l.isOf terms p i = true := by
  simp only [Log.requestsOf, List.mem_filter, List.mem_range, and_iff_right_iff_imp]
  intro known
  obtain ⟨q, here, _⟩ := Log.isOf_iff.mp known
  exact (List.getElem?_eq_some_iff.mp here).1

theorem Log.requestsOf_increasing (l : Log γ θ ρ) (terms : Terms θ) (p : PartitionKey) :
    (l.requestsOf terms p).Pairwise (· < ·) :=
  List.Pairwise.filter _ List.pairwise_lt_range

theorem Sound.replies_repliedTo (sound : Sound terms arguments l s)
    {sent : List (ClientMessage α ρ)} (before : sent <+: s.handed) :
    List.Forall₂ l.Replies (sent.filterMap ClientMessage.response?) (l.repliedTo sent) := by
  rcases List.prefix_cons_iff.mp before with rfl | ⟨rest, rfl, inside⟩
  · simp [Log.repliedTo]
  · obtain ⟨order, shorter, answered⟩ := sound.replies inside
    have cut := List.prefix_iff_eq_take.mp shorter
    rw [← answered.length_eq] at cut
    change List.Forall₂ l.Replies (rest.filterMap ClientMessage.response?)
      (l.placed.take (rest.filterMap ClientMessage.response?).length)
    rwa [← cut]

theorem Sound.job_of_placed (sound : Sound terms arguments l s) {i : Nat} (placed : i ∈ l.placed) :
    ∃ t, s.jobs[i]? = some t ∧ t.stage = .ended .queued := by
  have inside := sound.tallied.placed_inside sound.heard placed
  rw [← sound.heard.requests, List.length_map] at inside
  exact ⟨_, List.getElem?_eq_getElem inside,
    sound.tallied.stage_of_placed (List.getElem?_eq_getElem inside) placed⟩

theorem Sound.placed_of_queued (sound : Sound terms arguments l s) {i : Nat} {t : Job θ}
    (job : s.jobs[i]? = some t) (queued : t.stage = .ended .queued) : i ∈ l.placed := by
  have allowed := sound.tallied.jobs i t job
  rw [queued] at allowed
  have counts := congrArg Tally.placed allowed.counts_of_queued
  exact List.count_pos_iff.mp (Nat.lt_of_lt_of_eq Nat.zero_lt_one counts.symm)

/-- A request is answered before those that come after it in its partition, or not at all, unless
one between was skipped. -/
theorem Gapless.passed_over (gapless : Gapless s) (sound : Sound terms arguments l s) {i j : Nat}
    (same : l.SamePartition terms i j) (less : i < j) {sent : List (ClientMessage α ρ)}
    (answered : j ∈ l.repliedTo sent) :
    i ∈ l.repliedTo sent ∨ s.isLost i = true ∨ l.Skips terms s i j := by
  obtain ⟨t, late, queued⟩ := sound.job_of_placed (List.mem_of_mem_take answered)
  obtain ⟨u, v, early, second, partition⟩ := sound.jobs same
  rw [late] at second
  cases second
  rcases gapless.passed i j u t less early late partition queued with passed | skipped
  · unfold Stage.isPassed at passed
    split at passed
    case h_1 stage =>
      have placed := sound.placed_of_queued early stage
      unfold Log.repliedTo at answered ⊢
      rw [← List.take_append_drop (sent.filterMap ClientMessage.response?).length l.placed,
        List.mem_append] at placed
      rcases placed with found | later
      · exact Or.inl found
      · -- queued behind the later request, it would be the later one
        have ordered := sound.inOrder
        rw [← List.take_append_drop (sent.filterMap ClientMessage.response?).length l.placed]
          at ordered
        have reversed := (List.pairwise_append.mp ordered).2.2 j answered i later same.symm
        exact Or.inr (Or.inr (reversed.resolve_left (Nat.lt_asymm less)))
    case h_2 stage => exact Or.inr (Or.inl (by simp [isLost, hasEndedBy, early, stage]))
    case h_3 stage => exact Or.inr (Or.inl (by simp [isLost, hasEndedBy, early, stage]))
    case h_4 => cases passed
  · exact Or.inr (Or.inr (sound.skips early partition skipped))

/-- In a partition of which nothing was skipped, nothing is skipped between two requests. -/
theorem Log.unskipped {p : PartitionKey}
    (none : ∀ k, l.isOf terms p k = true → s.wasSkipped k = false) {i j : Nat}
    (here : l.isOf terms p i = true) : ¬ l.Skips terms s i j := by
  rintro ⟨k, _, _, ⟨q, r, first, second, equal⟩, skipped⟩
  obtain ⟨q', known, partition⟩ := Log.isOf_iff.mp here
  rw [first] at known
  cases known
  rw [none k (Log.isOf_iff.mpr ⟨r, second, equal.symm.trans partition⟩)] at skipped
  cases skipped

theorem Gapless.answered (gapless : Gapless s) (sound : Sound terms arguments l s)
    (sent : List (ClientMessage α ρ)) (p : PartitionKey)
    (none : ∀ k, l.isOf terms p k = true → s.wasSkipped k = false) :
    (l.repliedTo sent).filter (l.isOf terms p) <+:
      (l.requestsOf terms p).filter fun i => !s.isLost i := by
  have ordered : (l.repliedTo sent).Pairwise fun i j =>
      l.SamePartition terms i j → i < j ∨ l.Skips terms s j i :=
    sound.inOrder.sublist (List.take_sublist _ _)
  refine prefix_of_closed ?_ ((l.requestsOf_increasing terms p).filter _) ?_ ?_
  · refine (ordered.filter _).imp_of_mem fun {i j} first second earlier => ?_
    have first := (List.mem_filter.mp first).2
    have second := (List.mem_filter.mp second).2
    exact (earlier (Log.samePartition_of_isOf first second)).resolve_right (Log.unskipped none second)
  · intro i member
    obtain ⟨replied, here⟩ := List.mem_filter.mp member
    obtain ⟨t, job, queued⟩ := sound.job_of_placed (List.mem_of_mem_take replied)
    refine List.mem_filter.mpr ⟨Log.mem_requestsOf.mpr here, ?_⟩
    simp [isLost, hasEndedBy, job, queued]
  · intro j member i known less
    obtain ⟨replied, there⟩ := List.mem_filter.mp member
    obtain ⟨here, kept⟩ := List.mem_filter.mp known
    have here := Log.mem_requestsOf.mp here
    rcases gapless.passed_over sound (Log.samePartition_of_isOf here there) less replied with
      found | lost | skips
    · exact List.mem_filter.mpr ⟨found, here⟩
    · simp [lost] at kept
    · exact absurd skips (Log.unskipped none here)

/-- In every run the only requests passed over are lost ones, unless a job that was torn down while
it waited let in the one behind it. -/
theorem gaps_after_losses {openedAt : Nat} {actions : List (Action γ θ ρ)}
    (ran : (Session.opened terms.settings openedAt arguments).run terms actions = some s) :
    GapsAfterLosses terms ((Session.opened terms.settings openedAt arguments).log terms actions)
      s := by
  have both := log_induction (fun l s => Sound terms arguments l s ∧ Gapless s) (fun _ => True)
    (fun _ _ _ _ _ known effect => ⟨known.1.step effect, known.2.step known.1 effect⟩)
    ⟨.opened terms.settings openedAt arguments, .opened terms.settings openedAt arguments⟩
    (fun _ _ => trivial) ran
  obtain ⟨sound, gapless⟩ := both
  refine ⟨?_, ?_, ?_, ?_, sound.wire_handed⟩
  · exact fun sent before => sound.replies_repliedTo before
  · exact fun sent _ i j same less answered => gapless.passed_over sound same less answered
  · exact fun sent _ p none => gapless.answered sound sent p none
  · exact fun calm isOpen i => sound.spared calm isOpen i

/-- The job of the first request is lost, and the second request of the partition is answered and its
response is written. -/
def exchangeGap (loss : List (Action String Nat String)) : List (Action String Nat String) :=
  exchangeReading ++ loss ++
    [.move (.ask 1), .move (.start 1), .event (.answer 1 { payload := "twenty" }),
      .move (.place 1)] ++ exchangeWrite

/-- The handler of the first request panics. -/
def lossByPanic : List (Action String Nat String) :=
  [.move (.ask 0), .move (.start 0), .event (.panic 0)]

/-- The remote end closes and draining runs out of time; the first job is torn down before the
second one is reached. -/
def lossByAbort : List (Action String Nat String) :=
  [.event (.arrive .eof), .move .read, .move (.ask 0), .move (.start 0),
    .event (.elapse 30_000), .move .drainOver, .move (.abort 0)]

theorem gaps_after_losses_exchange :
    ∃ s : Session String String Nat String,
      (Session.opened exchangeTerms.settings 0 { payload := "hello" }).run exchangeTerms
        (exchangeGap lossByAbort) = some s ∧
      GapsAfterLosses exchangeTerms ((Session.opened exchangeTerms.settings 0
        ({ payload := "hello" } : ConnectArguments String)).log exchangeTerms
          (exchangeGap lossByAbort)) s ∧
      s.hasEndedBy .aborted 0 = true ∧ s.wasSkipped 0 = false :=
  ⟨_, rfl, gaps_after_losses rfl, rfl, rfl⟩

/-- After these actions the answered requests of some partition are not the first of those read. -/
def LeavesGap (terms : Terms Nat) (actions : List (Action String Nat String)) : Prop :=
  ∃ s : Session String String Nat String,
    (Session.opened terms.settings 0 { payload := "hello" }).run terms actions = some s ∧
    ∃ l : Log String Nat String, l = (Session.opened terms.settings 0
      ({ payload := "hello" } : ConnectArguments String)).log terms actions ∧
    ∃ p, ¬ ((l.repliedTo (s.wire.map Prod.snd)).filter (l.isOf terms p) <+: l.requestsOf terms p)

/-- A panic leaves a gap while the session is serviced and when it drains, and so does a job that
is torn down. -/
theorem leavesGap_loss : LeavesGap exchangeTerms (exchangeGap lossByPanic) ∧
    LeavesGap exchangeTerms (exchangeGap ([.event (.arrive .eof), .move .read] ++ lossByPanic)) ∧
    LeavesGap exchangeTerms (exchangeGap lossByAbort) := by
  refine ⟨?_, ?_, ?_⟩
  · exact ⟨_, rfl, _, rfl, .unpartitioned, by decide⟩
  · exact ⟨_, rfl, _, rfl, .unpartitioned, by decide⟩
  · exact ⟨_, rfl, _, rfl, .unpartitioned, by decide⟩

end Dialback.Session
