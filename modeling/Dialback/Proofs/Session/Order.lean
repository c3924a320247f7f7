import Dialback.Proofs.Session.Invariant

/-!
Jobs of one partition. Their handlers run one at a time and in the order of their requests, and
their responses reach the wire in that order: handlers may panic, draining may run out of time, jobs
may be torn down. There is one exception. Aborting reaches one job after another, and a job that is
torn down while it waits lets in the one behind it, which may overtake those before it.
-/
namespace Dialback.Session

variable {α γ θ ρ : Type} {l : Log γ θ ρ} {s s' : Session α γ θ ρ} {terms : Terms θ}
  {arguments : ConnectArguments α}

def hasJobEnded (s : Session α γ θ ρ) (i : Nat) : Prop :=
  ∃ t, s.jobs[i]? = some t ∧ t.hasEnded = true

/-- The handler of the job has been invoked, and neither has it returned nor has its job ended. -/
def Log.Handling (l : Log γ θ ρ) (s : Session α γ θ ρ) (i : Nat) : Prop :=
  i ∈ l.invoked ∧ i ∉ l.answered.map Prod.fst ∧ ¬ s.hasJobEnded i

/-- A handler is at work exactly while its job is running. -/
theorem Sound.handling_iff (sound : Sound terms arguments l s) {i : Nat} :
    l.Handling s i ↔ ∃ t, s.jobs[i]? = some t ∧ t.stage = .running := by
  constructor
  · rintro ⟨invoked, unanswered, lasts⟩
    have once := List.count_pos_iff.mpr invoked
    have none := List.count_eq_zero.mpr unanswered
    cases job : s.jobs[i]? with
    | none =>
      have beyond := sound.tallied.others i (List.getElem?_eq_none_iff.mp job)
      simp only [Log.tally, Tally.mk.injEq] at beyond
      omega
    | some t =>
      refine ⟨t, rfl, ?_⟩
      have live : t.hasEnded = false := by
        by_contra ended
        exact lasts ⟨t, job, by simpa using ended⟩
      exact (sound.tallied.jobs i t job).stage_of_invoked live once none
  · rintro ⟨t, job, running⟩
    have allowed := sound.tallied.jobs i t job
    rw [running] at allowed
    obtain ⟨invoked, answered⟩ := allowed.running_counts
    refine ⟨?_, List.count_eq_zero.mp answered, ?_⟩
    · exact List.count_pos_iff.mp (Nat.lt_of_lt_of_eq Nat.zero_lt_one invoked.symm)
    · rintro ⟨u, known, ended⟩
      rw [job] at known
      cases known
      simp [Job.hasEnded, Stage.isEnded, running] at ended

/-- Once a job has been let in, all earlier jobs of its partition have ended, unless one between was
skipped. -/
theorem Sound.earlier_ended (sound : Sound terms arguments l s) {i j : Nat} {t : Job θ}
    (same : l.SamePartition terms i j) (less : i < j) (job : s.jobs[j]? = some t)
    (entered : t.isLetIn = true) : s.hasJobEnded i ∨ l.Skips terms s i j := by
  obtain ⟨u, v, first, second, partition⟩ := sound.jobs same
  rw [job] at second
  cases second
  exact (sound.chained.ordered i j u t less first job partition entered).imp
    (fun ended => ⟨u, first, ended⟩) (sound.skips first partition)

/-- A handler is invoked only when its job stands in line. -/
theorem start_inLine {j : Nat} (started : s.act terms (.move (.start j)) = some s') :
    ∃ t, s.jobs[j]? = some t ∧ t.stage = .inLine := by
  cases Effect.of_act started with
  | start i t permits job inLine => exact ⟨t, job, inLine⟩
  | control control => cases control
  | finish outcome ends => cases ends
  | flush cause outbox flushes => cases flushes
  | endJob i t how outbox job ends => cases ends
  | sink b outbox sunk => cases sunk

/-- What holds for the requests of one partition. Jobs are numbered by their requests, in the order
of reading. -/
structure PartitionsInOrder (terms : Terms θ) (l : Log γ θ ρ) (s : Session α γ θ ρ) : Prop where
  /-- A handler is invoked only after the jobs of all earlier requests have ended. -/
  startsAfter : ∀ i j, l.SamePartition terms i j → i < j →
    ∀ s', s.act terms (.move (.start j)) = some s' → s.hasJobEnded i ∨ l.Skips terms s i j
  exclusive : ∀ i j, l.SamePartition terms i j → i < j → l.Handling s i → l.Handling s j →
    l.Skips terms s i j
  /-- The responses on the wire, the one being written included, reply to jobs in this order. -/
  responses : ∀ sent, sent <+: s.handed → ∃ order, order <+: l.placed ∧
    List.Forall₂ l.Replies (sent.filterMap ClientMessage.response?) order ∧
    order.Pairwise fun i j => l.SamePartition terms i j → i < j ∨ l.Skips terms s j i
  /-- Nothing is skipped while the session is serviced or drains. -/
  spared : s.phase.isAborting = false → s.phase.isClosed = false → ∀ i, s.wasSkipped i = false
  wire : s.wire.map Prod.snd <+: s.handed

/-- In every run the requests of one partition are handled one at a time and in order, and their
responses are written in order, except for those that overtake because a job between was torn down
while it waited. -/
theorem partitions_in_order {openedAt : Nat} {actions : List (Action γ θ ρ)}
    (ran : (Session.opened terms.settings openedAt arguments).run terms actions = some s) :
    PartitionsInOrder terms ((Session.opened terms.settings openedAt arguments).log terms actions)
      s := by
  have sound := Sound.of_run ran
  refine ⟨?_, ?_, ?_, sound.unskipped, sound.wire_handed⟩
  · intro i j same less s' started
    obtain ⟨t, job, inLine⟩ := start_inLine started
    exact sound.earlier_ended same less job (by simp [Job.isLetIn, inLine])
  · intro i j same less first second
    obtain ⟨t, job, running⟩ := sound.handling_iff.mp second
    exact (sound.earlier_ended same less job (by simp [Job.isLetIn, running])).resolve_left first.2.2
  · intro sent before
    rcases List.prefix_cons_iff.mp before with rfl | ⟨rest, rfl, inside⟩
    · exact ⟨[], List.nil_prefix, .nil, .nil⟩
    · obtain ⟨order, shorter, answered⟩ := sound.replies inside
      exact ⟨order, shorter, answered, sound.inOrder.sublist shorter.sublist⟩

theorem partitions_in_order_exchange :
    ∃ s : Session String String Nat String,
      (Session.opened exchangeTerms.settings 0 { payload := "hello" }).run exchangeTerms exchange =
        some s ∧
      PartitionsInOrder exchangeTerms ((Session.opened exchangeTerms.settings 0
        ({ payload := "hello" } : ConnectArguments String)).log exchangeTerms exchange) s ∧
      s.wire.map Prod.snd = [.arguments { payload := "hello" }, .pong,
        .response { context := some (exchangeContext 1), payload := "ten" },
        .response { context := some (exchangeContext 2), payload := "twenty" }] :=
  ⟨_, rfl, partitions_in_order rfl, rfl⟩

/-- Two handlers may run at a time. -/
def twinTerms : Terms Nat where
  settings := { maxConcurrency := 2 }
  partitionOf _ := .unpartitioned

/-- Three requests of one partition are read, and the first is being handled when draining runs out
of time. The second, which waits, is torn down before aborting has reached the third; so the third
is let in. -/
def exchangeOvertaking : List (Action String Nat String) :=
  exchangeStart ++
    [.event (.arrive (.message (.request ⟨exchangeContext 1, 10⟩))), .move .read,
      .event (.arrive (.message (.request ⟨exchangeContext 2, 20⟩))), .move .read,
      .event (.arrive (.message (.request ⟨exchangeContext 3, 30⟩))), .move .read,
      .move (.ask 0), .move (.start 0), .event (.arrive .eof), .move .read,
      .event (.elapse 30_000), .move .drainOver, .move (.abort 1), .move (.ask 2), .move (.start 2)]

/-- The third is answered, and then the first, whose handler returns instead of waiting again. -/
def exchangeReversal : List (Action String Nat String) :=
  [.event (.answer 2 { payload := "thirty" }), .move (.place 2)] ++ exchangeWrite ++
    [.event (.answer 0 { payload := "ten" }), .move (.place 0)] ++ exchangeWrite

/-- A job that is torn down while it waits lets two handlers of its partition run at a time, and the
later request may be answered first. -/
theorem skipped_overtaken :
    (∃ s : Session String String Nat String, ∃ l : Log String Nat String,
      (Session.opened twinTerms.settings 0 { payload := "hello" }).run twinTerms
        exchangeOvertaking = some s ∧
      l = (Session.opened twinTerms.settings 0
        ({ payload := "hello" } : ConnectArguments String)).log twinTerms exchangeOvertaking ∧
      l.SamePartition twinTerms 0 2 ∧ l.Handling s 0 ∧ l.Handling s 2) ∧
    ∃ s : Session String String Nat String,
      (Session.opened twinTerms.settings 0 { payload := "hello" }).run twinTerms
        (exchangeOvertaking ++ exchangeReversal) = some s ∧
      s.wire.map Prod.snd = [.arguments { payload := "hello" },
        .response { context := some (exchangeContext 3), payload := "thirty" },
        .response { context := some (exchangeContext 1), payload := "ten" }] := by
  constructor
  · refine ⟨_, _, rfl, rfl, ⟨_, _, rfl, rfl, rfl⟩, ?_, ?_⟩
    · exact (Sound.of_run rfl).handling_iff.mpr ⟨_, rfl, rfl⟩
    · exact (Sound.of_run rfl).handling_iff.mpr ⟨_, rfl, rfl⟩
  · exact ⟨_, rfl, rfl⟩

end Dialback.Session
