import Dialback.Proofs.Session.Chain
import Dialback.Proofs.Session.Outbound
import Dialback.Proofs.Session.Tally

/-!
What holds of every session at every moment, however its actions are ordered: the conjunction of the
invariants of its parts, and the order in which the responses of one partition are queued.
-/
namespace Dialback.Session

variable {α γ θ ρ : Type}

/-- The requests of the two jobs have equal partition keys. -/
def Log.SamePartition (l : Log γ θ ρ) (terms : Terms θ) (i j : Nat) : Prop :=
  ∃ q r, l.requests[i]? = some q ∧ l.requests[j]? = some r ∧
    terms.partitionOf q = terms.partitionOf r

def hasEndedBy (s : Session α γ θ ρ) (how : JobEnd) (i : Nat) : Bool :=
  s.jobs[i]?.any fun t => decide (t.stage = .ended how)

/-- The job of the request was torn down before its handler was invoked. -/
def wasSkipped (s : Session α γ θ ρ) (i : Nat) : Bool :=
  s.jobs[i]?.any Job.isSkipped

/-- Between the two requests, one of their partition was skipped. -/
def Log.Skips (l : Log γ θ ρ) (terms : Terms θ) (s : Session α γ θ ρ) (i j : Nat) : Prop :=
  ∃ k, i < k ∧ k < j ∧ l.SamePartition terms i k ∧ s.wasSkipped k = true

/-- Nothing but the arguments is written before anything is read. -/
structure Introduced (arguments : ConnectArguments α) (l : Log γ θ ρ) (s : Session α γ θ ρ) :
    Prop where
  arguments : s.arguments = arguments
  /-- Past the introduction, unless the session has ended. -/
  written : s.phase ≠ .introducing → s.phase.isEnded = false → s.introduced.isSome = true
  read : l.read ≠ [] → s.introduced.isSome = true

structure Sound (terms : Terms θ) (arguments : ConnectArguments α) (l : Log γ θ ρ)
    (s : Session α γ θ ρ) : Prop where
  heard : Heard l s
  tallied : Tallied l s
  tended : Tended s
  conveyed : Conveyed l s
  chained : Chained terms s
  introduced : Introduced arguments l s
  /-- Responses of one partition are queued in the order of their requests, unless one between
  them was skipped. -/
  inOrder : l.placed.Pairwise fun i j => l.SamePartition terms i j → i < j ∨ l.Skips terms s j i

variable {l : Log γ θ ρ} {s s' : Session α γ θ ρ} {terms : Terms θ} {a : Action γ θ ρ}
  {arguments : ConnectArguments α}

theorem Heard.request (heard : Heard l s) {i : Nat} {q : Request θ}
    (known : l.requests[i]? = some q) : ∃ t, s.jobs[i]? = some t ∧ t.request = q := by
  rwa [← heard.requests, List.getElem?_map, Option.map_eq_some_iff] at known

theorem Introduced.opened (settings : CallSettings) (openedAt : Nat)
    (arguments : ConnectArguments α) :
    Introduced arguments {} (Session.opened settings openedAt arguments : Session α γ θ ρ) where
  arguments := rfl
  written past := absurd rfl past
  read some := absurd rfl some

private theorem Introduced.keep {l' : Log γ θ ρ} (introduced : Introduced arguments l s)
    (same : s'.arguments = s.arguments ∧ s'.introduced = s.introduced)
    (phase : s'.phase ≠ .introducing → s'.phase.isEnded = false →
      s.phase ≠ .introducing ∧ s.phase.isEnded = false)
    (read : l'.read = l.read ∨ s.phase ≠ .introducing ∧ s.phase.isEnded = false) :
    Introduced arguments l' s' where
  arguments := same.1.trans introduced.arguments
  written past lasts := by
    rw [same.2]
    exact introduced.written (phase past lasts).1 (phase past lasts).2
  read some := by
    rw [same.2]
    rcases read with unchanged | ⟨past, lasts⟩
    · exact introduced.read (by rwa [← unchanged])
    · exact introduced.written past lasts

theorem Reading.past {x : Inbound γ θ} {rest : List (Inbound γ θ)} (reading : Reading s x rest) :
    s.phase ≠ .introducing ∧ s.phase.isEnded = false := by
  obtain ⟨limit, phase⟩ := reading.serving
  simp [phase, Phase.isEnded]

theorem Introduced.step (introduced : Introduced arguments l s) (effect : Effect terms s a s') :
    Introduced arguments (l.note s a) s' := by
  cases effect with
  | control control =>
    rw [control.note]
    cases control with
    | stop | cancel | elapse =>
      exact introduced.keep ⟨rfl, rfl⟩ (fun past lasts => ⟨past, lasts⟩) (Or.inl rfl)
    | introduced phase => exact ⟨introduced.arguments, fun _ _ => rfl, fun _ => rfl⟩
    | serve payload phase | heedStop limit phase | heedWriter limit phase
    | giveUpServicing limit d phase | overrun limit x rest phase | drainOver cause limit phase =>
      exact introduced.keep ⟨rfl, rfl⟩ (fun _ _ => by simp [phase, Phase.isEnded]) (Or.inl rfl)
  | finish outcome ends =>
    rw [ends.note]
    exact introduced.keep ⟨rfl, rfl⟩ (fun _ lasts => by simp [Phase.isEnded] at lasts) (Or.inl rfl)
  | arrive => exact introduced.keep ⟨rfl, rfl⟩ (fun past lasts => ⟨past, lasts⟩) (Or.inl rfl)
  | accept limit payload rest phase =>
    have past : s.phase ≠ .introducing ∧ s.phase.isEnded = false := by
      simp [phase, Phase.isEnded]
    exact introduced.keep ⟨rfl, rfl⟩ (fun _ _ => past) (Or.inr past)
  | dismiss limit x rest outcome phase =>
    have past : s.phase ≠ .introducing ∧ s.phase.isEnded = false := by
      simp [phase, Phase.isEnded]
    exact introduced.keep ⟨rfl, rfl⟩ (fun _ _ => past) (Or.inr past)
  | ignore x rest reading | hangUp x rest cause reading | ping rest outbox reading
  | pingRefused rest reading | dispatch request rest outbox reading =>
    exact introduced.keep ⟨rfl, rfl⟩ (fun _ _ => reading.past) (Or.inr reading.past)
  | join | ask | start | answer | place =>
    exact introduced.keep ⟨rfl, rfl⟩ (fun past lasts => ⟨past, lasts⟩) (Or.inl rfl)
  | joinPanicked i t limit job unnoticed phase =>
    exact introduced.keep ⟨rfl, rfl⟩ (fun _ _ => by simp [phase, Phase.isEnded]) (Or.inl rfl)
  | flush cause outbox flushes =>
    rw [flushes.note]
    refine introduced.keep ⟨rfl, rfl⟩ (fun _ _ => ?_) (Or.inl rfl)
    cases flushes with
    | drained cause limit phase => simp [phase, Phase.isEnded]
    | aborted cause phase => simp [phase, Phase.isEnded]
  | endJob i t how outbox job ends =>
    rw [ends.note]
    exact introduced.keep ⟨rfl, rfl⟩ (fun past lasts => ⟨past, lasts⟩) (Or.inl rfl)
  | sink b outbox sunk =>
    rw [sunk.note]
    exact introduced.keep ⟨rfl, rfl⟩ (fun past lasts => ⟨past, lasts⟩) (Or.inl rfl)

/-! The order of what is queued. -/

theorem Log.SamePartition.symm {i j : Nat} (same : l.SamePartition terms i j) :
    l.SamePartition terms j i := by
  obtain ⟨q, r, first, second, equal⟩ := same
  exact ⟨r, q, second, first, equal.symm⟩

/-- Jobs of one partition, by their requests. -/
theorem Sound.jobs (sound : Sound terms arguments l s) {i j : Nat}
    (same : l.SamePartition terms i j) :
    ∃ u t, s.jobs[i]? = some u ∧ s.jobs[j]? = some t ∧ u.partition = t.partition := by
  obtain ⟨q, r, first, second, equal⟩ := same
  obtain ⟨u, here, rfl⟩ := sound.heard.request first
  obtain ⟨t, there, rfl⟩ := sound.heard.request second
  refine ⟨u, t, here, there, ?_⟩
  rw [sound.chained.partition i u here, sound.chained.partition j t there, equal]

theorem wasSkipped_iff {i : Nat} :
    s.wasSkipped i = true ↔ ∃ t, s.jobs[i]? = some t ∧ t.isSkipped = true := by
  cases job : s.jobs[i]? <;> simp [wasSkipped, job]

theorem Sound.samePartition (sound : Sound terms arguments l s) {i j : Nat} {u t : Job θ}
    (first : s.jobs[i]? = some u) (second : s.jobs[j]? = some t)
    (partition : u.partition = t.partition) : l.SamePartition terms i j := by
  refine ⟨u.request, t.request, ?_, ?_, ?_⟩
  · rw [← sound.heard.requests, List.getElem?_map, first]
    rfl
  · rw [← sound.heard.requests, List.getElem?_map, second]
    rfl
  · rw [← sound.chained.partition i u first, ← sound.chained.partition j t second, partition]

theorem Sound.skips (sound : Sound terms arguments l s) {i j : Nat} {u t : Job θ}
    (first : s.jobs[i]? = some u) (partition : u.partition = t.partition)
    (skipped : s.SkippedBetween t.partition i j) : l.Skips terms s i j := by
  obtain ⟨k, v, low, high, here, same, torn⟩ := skipped
  exact ⟨k, low, high, sound.samePartition first here (partition.trans same.symm),
    wasSkipped_iff.mpr ⟨v, here, torn⟩⟩

theorem Log.SamePartition.note {i j : Nat} (same : l.SamePartition terms i j) :
    (l.note s a).SamePartition terms i j := by
  obtain ⟨q, r, first, second, equal⟩ := same
  obtain ⟨rest, more⟩ := (served_grows l s a).filterMap Inbound.request?
  have kept : ∀ {k : Nat} {p : Request θ}, l.requests[k]? = some p →
      (l.note s a).requests[k]? = some p := by
    intro k p known
    have inside := (List.getElem?_eq_some_iff.mp known).1
    exact (congrArg (·[k]?) more).symm.trans ((List.getElem?_append_left inside).trans known)
  exact ⟨q, r, kept first, kept second, equal⟩

theorem Log.Skips.step {i j : Nat} (skips : l.Skips terms s i j) (effect : Effect terms s a s') :
    (l.note s a).Skips terms s' i j := by
  obtain ⟨k, low, high, same, skipped⟩ := skips
  obtain ⟨t, job, torn⟩ := wasSkipped_iff.mp skipped
  obtain ⟨t', here, advances⟩ := effect.books.job job
  exact ⟨k, low, high, same.note, wasSkipped_iff.mpr ⟨t', here, advances.skipped torn⟩⟩

/-- What was known to be of one partition is when more has been read. -/
theorem Log.SamePartition.of_note {i j : Nat} (first : i < l.requests.length)
    (second : j < l.requests.length) (same : (l.note s a).SamePartition terms i j) :
    l.SamePartition terms i j := by
  obtain ⟨rest, more⟩ := (served_grows l s a).filterMap Inbound.request?
  change l.requests ++ rest = (l.note s a).requests at more
  obtain ⟨q, r, here, there, equal⟩ := same
  rw [← more, List.getElem?_append_left first] at here
  rw [← more, List.getElem?_append_left second] at there
  exact ⟨q, r, here, there, equal⟩

theorem Sound.inOrder_step (sound : Sound terms arguments l s) (effect : Effect terms s a s') :
    (l.note s a).placed.Pairwise fun i j =>
      (l.note s a).SamePartition terms i j → i < j ∨ (l.note s a).Skips terms s' j i := by
  have known : l.placed.Pairwise fun i j =>
      (l.note s a).SamePartition terms i j → i < j ∨ (l.note s a).Skips terms s' j i := by
    refine sound.inOrder.imp_of_mem fun {i j} first second earlier same => ?_
    have old := same.of_note (sound.tallied.placed_inside sound.heard first)
      (sound.tallied.placed_inside sound.heard second)
    exact (earlier old).imp_right fun skips => skips.step effect
  have queueing : (l.note s a).placed = l.placed ∨
      ∃ i t, a = .move (.place i) ∧ s.jobs[i]? = some t ∧ t.stage = .offering := by
    cases effect with
    | place i t placed outbox job offering => exact Or.inr ⟨i, t, rfl, job, offering⟩
    | control control => rw [control.note]; exact Or.inl rfl
    | finish outcome ends => rw [ends.note]; exact Or.inl rfl
    | flush cause outbox flushes => rw [flushes.note]; exact Or.inl rfl
    | endJob i t how outbox job ends => rw [ends.note]; exact Or.inl rfl
    | sink b outbox sunk => rw [sunk.note]; exact Or.inl rfl
    | _ => exact Or.inl rfl
  rcases queueing with unchanged | ⟨i, t, rfl, job, offering⟩
  · rw [unchanged]
    exact known
  · change (l.placed ++ [i]).Pairwise _
    refine List.pairwise_append.mpr ⟨known, List.pairwise_singleton _ _, ?_⟩
    intro j placed k last same
    rw [List.mem_singleton] at last
    subst last
    obtain ⟨u, v, first, second, partition⟩ := sound.jobs same
    rw [job] at second
    cases second
    have queued := sound.tallied.stage_of_placed first placed
    rcases Nat.lt_trichotomy j k with less | rfl | later
    · exact Or.inl less
    · rw [job] at first
      cases first
      rw [offering] at queued
      cases queued
    · -- the later of the two was let in while the other one is still at work
      right
      have entered : u.isLetIn = true := by simp [Job.isLetIn, queued]
      rcases sound.chained.ordered k j t u later job first partition.symm entered with
        ended | skipped
      · simp [Job.hasEnded, Stage.isEnded, offering] at ended
      · exact (sound.skips job partition.symm skipped).step effect

theorem Sound.step (sound : Sound terms arguments l s) (effect : Effect terms s a s') :
    Sound terms arguments (l.note s a) s' where
  heard := sound.heard.step effect
  tallied := sound.tallied.step effect
  tended := sound.tended.step sound.heard effect
  conveyed := sound.conveyed.step sound.heard sound.tended effect
  chained := sound.chained.step effect
  introduced := sound.introduced.step effect
  inOrder := sound.inOrder_step effect

theorem Sound.opened (settings : CallSettings) (openedAt : Nat) (arguments : ConnectArguments α) :
    Sound terms arguments {} (Session.opened settings openedAt arguments : Session α γ θ ρ) where
  heard := .opened settings openedAt arguments
  tallied := .opened settings openedAt arguments
  tended := .opened settings openedAt arguments
  conveyed := .opened settings openedAt arguments
  chained := .opened settings openedAt arguments
  introduced := .opened settings openedAt arguments
  inOrder := List.Pairwise.nil

/-- Every run from the opening of a session is sound. -/
theorem Sound.of_run {settings : CallSettings} {openedAt : Nat} {arguments : ConnectArguments α}
    {actions : List (Action γ θ ρ)}
    (ran : (Session.opened settings openedAt arguments).run terms actions = some s) :
    Sound terms arguments ((Session.opened settings openedAt arguments).log terms actions) s :=
  log_induction (Sound terms arguments) (fun _ => True)
    (fun _ _ _ _ _ sound effect => sound.step effect) (.opened settings openedAt arguments)
    (fun _ _ => trivial) ran

/-- No job is torn down while the session is serviced or drains. -/
theorem Sound.spared (sound : Sound terms arguments l s) (calm : s.phase.isAborting = false)
    (isOpen : s.phase.isClosed = false) (i : Nat) : s.hasEndedBy .aborted i = false := by
  by_contra torn
  cases job : s.jobs[i]? with
  | none => simp [hasEndedBy, job] at torn
  | some t =>
    have stage : t.stage = .ended .aborted := by simpa [hasEndedBy, job] using torn
    simpa [calm, isOpen] using sound.chained.aborted i t job stage

/-- Nor is a job skipped before. -/
theorem Sound.unskipped (sound : Sound terms arguments l s) (calm : s.phase.isAborting = false)
    (isOpen : s.phase.isClosed = false) (i : Nat) : s.wasSkipped i = false := by
  have spared := sound.spared calm isOpen i
  cases job : s.jobs[i]? <;> simp_all [hasEndedBy, wasSkipped, Job.isSkipped]

/-! What has been written. -/

/-- Whatever the sink has been handed, in order; the last of it may not have reached the wire. -/
def handed (s : Session α γ θ ρ) : List (ClientMessage α ρ) :=
  .arguments s.arguments :: s.outbox.handed

/-- The responses handed to the sink are replies to the jobs that were queued first. -/
theorem Sound.replies (sound : Sound terms arguments l s) {sent : List (ClientMessage α ρ)}
    (before : sent <+: s.outbox.handed) :
    ∃ order, order <+: l.placed ∧
      List.Forall₂ l.Replies (sent.filterMap ClientMessage.response?) order := by
  obtain ⟨order, inOrder, _, answered⟩ := sound.conveyed.order
  have start := (before.trans (List.prefix_append _ s.outbox.queue)).filterMap
    ClientMessage.response?
  obtain ⟨cut, shorter, kept⟩ := forall₂_of_start answered start
  exact ⟨cut, shorter.trans inOrder, kept⟩

theorem Sound.pongs_le (sound : Sound terms arguments l s) {sent : List (ClientMessage α ρ)}
    (before : sent <+: s.outbox.handed) : sent.countP ClientMessage.isPong ≤ l.pings := by
  have inside := (before.trans (List.prefix_append _ s.outbox.pongs)).sublist
  exact Nat.le_trans inside.countP_le sound.conveyed.count

/-- Nothing is written behind the arguments, and no handler is invoked, before something is
served. -/
theorem Sound.unserved (sound : Sound terms arguments l s) (unserved : l.served = []) :
    s.outbox.handed = [] ∧ l.invoked = [] := by
  have requests : l.requests = [] := by rw [Log.requests, unserved]; rfl
  have pings : l.pings = 0 := by rw [Log.pings, unserved]; rfl
  constructor
  · refine List.eq_nil_iff_forall_not_mem.mpr fun m member => ?_
    rcases sound.conveyed.handed m member with rfl | ⟨r, rfl⟩
    · have counts := sound.pongs_le (List.prefix_refl _)
      have positive := List.countP_pos_iff.mpr ⟨_, member, (rfl : ClientMessage.pong.isPong = true)⟩
      omega
    · obtain ⟨order, _, answered⟩ := sound.replies (List.prefix_refl _)
      have response : r ∈ s.outbox.handed.filterMap ClientMessage.response? :=
        List.mem_filterMap.mpr ⟨_, member, rfl⟩
      obtain ⟨n, inside, here⟩ := List.getElem_of_mem response
      have reply := answered.get inside (by rwa [← answered.length_eq])
      obtain ⟨q, _, known, _⟩ := reply
      rw [requests] at known
      cases known
  · refine List.eq_nil_iff_forall_not_mem.mpr fun i member => ?_
    have jobs := sound.heard.requests
    rw [requests, List.map_eq_nil_iff] at jobs
    have none := sound.tallied.others i (by simp [jobs])
    have some := List.count_pos_iff.mpr member
    simp only [Log.tally, Tally.mk.injEq] at none
    omega

/-- Before anything is read, the arguments have been written. -/
theorem Sound.wire_of_read (sound : Sound terms arguments l s) (read : l.read ≠ []) :
    s.wire.map Prod.snd = .arguments arguments :: s.outbox.written.map Prod.snd := by
  obtain ⟨time, introduced⟩ := Option.isSome_iff_exists.mp (sound.introduced.read read)
  simp [wire, introduced, sound.introduced.arguments]

theorem Sound.wire_handed (sound : Sound terms arguments l s) :
    s.wire.map Prod.snd <+: s.handed := by
  by_cases read : l.read = []
  · have nothing := (sound.unserved (by rw [Log.served, read]; rfl)).1
    have written : s.outbox.written.map Prod.snd = [] := (List.append_eq_nil_iff.mp nothing).1
    unfold wire handed
    cases s.introduced <;> simp [written, nothing]
  · rw [sound.wire_of_read read, handed, sound.introduced.arguments]
    exact (List.prefix_cons_inj _).mpr (List.prefix_append _ _)

/-! A short exchange to try statements on: one ping and two requests of one partition. -/

def exchangeTerms : Terms Nat where
  settings := {}
  partitionOf _ := .unpartitioned

/-- Two calls of one application, told apart by their identifiers. -/
def exchangeContext (call : Nat) : CallContext where
  call := Uuid.ofNat call
  execution := .standard Uuid.null

/-- The connection is made and the caller begins to serve. -/
def exchangeStart : List (Action String Nat String) :=
  [.event .introduced, .event (.arrive (.message (.connectResponse (.accepted "welcome")))),
    .move .readFirst, .event .serve]

/-- The writer takes a message and writes it. -/
def exchangeWrite : List (Action String Nat String) :=
  [.move .pick, .event .wrote]

/-- A job runs to its end and its response is written. -/
def exchangeJob (job : Nat) (response : Response String) : List (Action String Nat String) :=
  [.move (.ask job), .move (.start job), .event (.answer job response), .move (.place job)] ++
    exchangeWrite ++ [.move (.join job)]

/-- Both requests are read before the first of them is answered. -/
def exchangeReading : List (Action String Nat String) :=
  exchangeStart ++
    [.event (.arrive (.message (.request ⟨exchangeContext 1, 10⟩))), .move .read,
      .event (.arrive (.message .ping)), .move .read,
      .event (.arrive (.message (.request ⟨exchangeContext 2, 20⟩))), .move .read] ++
    exchangeWrite

def exchange : List (Action String Nat String) :=
  exchangeReading ++ exchangeJob 0 { payload := "ten" } ++ exchangeJob 1 { payload := "twenty" } ++
    [.event (.arrive .eof), .move .read, .move .drained, .move .pick, .event .closed, .move .settle]

end Dialback.Session
