import Dialback.Proofs.Registration.Lawful
import Dialback.Proofs.Session.Invariant

/-!
The law of a registration that is never told to stop: it makes attempts until one of them completes
or the retry policy answers a failure with `none`, and what it asks of its surroundings is
determined by how the attempts come out.
-/
namespace Dialback.Registration

variable {α γ θ ρ : Type}

def Ending.attempts : Ending → UInt32
  | stopped n | completed n => n
  | gaveUp g => g.attempts

theorem verdict_attempts {policy : Retry.Policy} {attempts : List (Attempt γ)} {ending : Ending}
    (decided : verdict? policy attempts = some ending) :
    ending.attempts = attempts.length.toUInt32 := by
  obtain ⟨a, _, decided⟩ := Option.bind_eq_some_iff.mp decided
  split at decided
  · cases decided
    rfl
  · split at decided
    · cases decided
      rfl
    · cases decided

/-- The registration waits for the end of its rest. -/
def Action.isWaiting : Action γ θ ρ → Bool
  | .move .wake | .event (.elapse _) => true
  | _ => false

structure Law (plan : Plan α θ) (l : Log γ) (r : Registration α γ θ ρ) : Prop where
  /-- At most one attempt is under way, none once the registration has ended. -/
  attempts : l.started.length = l.attempts.length + if r.phase.inAttempt then 1 else 0
  /-- Attempts are numbered from one; no number is cut off. -/
  numbers : ∀ n ≤ l.started.length, n.toUInt32.toNat = n
  /-- Attempts go on until one of them completes or its failure is not to be retried. -/
  undecided : ∀ n < l.attempts.length, verdict? plan.policy (l.attempts.take n) = none
  decided : r.ending?.map Prod.fst = verdict? plan.policy l.attempts
  counted : ∀ ending time, r.phase = .ended ending time →
    ending.attempts.toNat = l.attempts.length
  built : r.built = l.started.length
  greetings : r.greetings =
    plan.handshake.elim [] fun client => greetingsOf client r.started l.started
  timeSpent : (r.greetings.map fun g => g.2.timeSpent.nanoseconds).Pairwise (· ≤ ·)
  /-- The observer is told once of each accepted connect, that of the attempt under way included. -/
  welcomes : r.welcomes.map Prod.snd =
    welcomesOf l.attempts ++ (r.phase.told?.map (l.started.length.toUInt32, ·)).toList
  /-- The policy is consulted once for each failure. -/
  consulted : r.consultations.length = l.attempts.countP fun a => a.failure?.isSome
  shown : ∀ (k : Nat) (c : Consultation), r.consultations[k]? = some c →
    c.decision = plan.policy c.history ∧ c.history = historyOf (l.attempts.take (k + 1)) ∧
    ∃ a fault, l.attempts[k]? = some a ∧ a.failure? = some fault ∧ c.history.total = k + 1 ∧
      c.history.last? = some fault ∧
      c.history.sinceConnected = sinceWelcome (l.attempts.take (k + 1))
  /-- An attempt whose session is over comes to its own end. -/
  concludes : ∀ since s outcome time, r.phase = .talking since s → s.phase = .ended outcome time →
    (r.act plan (.move .conclude)).isSome = true
  /-- Between two attempts nothing but time is needed for the next one to begin. -/
  resumes : r.ending? = none → r.phase.inAttempt = false → ∃ waiting r',
    (∀ a ∈ waiting, a.isWaiting = true) ∧ r.run plan (waiting ++ [.move .start]) = some r' ∧
    r'.phase.inAttempt = true ∧ r'.built = r.built + 1

variable {plan : Plan α θ} {l : Log γ} {r : Registration α γ θ ρ}

theorem timeSpent_chronological (client : Handshake.Client) (begun : Nat) {started : List Nat}
    (chronological : started.Pairwise (· ≤ ·)) :
    ((greetingsOf client begun started).map fun g => g.2.timeSpent.nanoseconds).Pairwise
      (· ≤ ·) := by
  have spans : (greetingsOf client begun started).map (fun g => g.2.timeSpent.nanoseconds) =
      started.map fun time => (Duration.ofTicks (time - begun)).nanoseconds := by
    unfold greetingsOf
    rw [List.map_map]
    conv_rhs => rw [← List.zipIdx_map_fst 0 started, List.map_map]
    rfl
  rw [spans]
  refine List.Pairwise.map _ (fun early late ordered => ?_) chronological
  have longer := Nat.mul_le_mul_left Duration.nanosPerMilli (Nat.sub_le_sub_right ordered begun)
  exact Nat.le_min.mpr ⟨Nat.le_trans (Nat.min_le_left _ _) longer, Nat.min_le_right _ _⟩

/-- Everything but the last attempt has failed; the last has if it was put to the policy. -/
theorem Lawful.failed_of_consulted (lawful : Lawful plan l r) {k : Nat}
    (consulted : k < r.consultations.length) :
    k < l.attempts.length ∧ ∀ a ∈ l.attempts.take (k + 1), a.failure? ≠ none := by
  rw [lawful.consulted] at consulted
  have inside := Nat.lt_of_lt_of_le consulted List.countP_le_length
  refine ⟨inside, fun a member => ?_⟩
  by_cases last : k + 1 = l.attempts.length
  · have complete : l.attempts.countP (fun a => a.failure?.isSome) = l.attempts.length := by
      have bound := List.countP_le_length (p := fun a => a.failure?.isSome) (l := l.attempts)
      omega
    exact Option.isSome_iff_ne_none.mp
      (List.countP_eq_length.mp complete a (List.mem_of_mem_take member))
  · obtain ⟨j, bound, rfl⟩ := List.getElem_of_mem member
    rw [List.length_take] at bound
    rw [List.getElem_take]
    exact failed_of_undecided (by omega) (lawful.unsettled (j + 1) (by omega))

theorem Lawful.shown_history (lawful : Lawful plan l r) (few : r.built < 4294967296) {k : Nat}
    {c : Consultation} (known : r.consultations[k]? = some c) :
    ∃ a fault, l.attempts[k]? = some a ∧ a.failure? = some fault ∧ c.history.total = k + 1 ∧
      c.history.last? = some fault ∧
      c.history.sinceConnected = sinceWelcome (l.attempts.take (k + 1)) := by
  obtain ⟨inside, failed⟩ := lawful.failed_of_consulted (List.getElem?_eq_some_iff.mp known).1
  have size : (l.attempts.take (k + 1)).length = k + 1 := List.length_take_of_le inside
  have bound : k + 1 ≤ Retry.countLimit := by
    have count := lawful.count
    have built := lawful.built
    unfold Retry.countLimit
    omega
  obtain ⟨total, since⟩ := historyOf_counts failed (by rwa [size])
  have here : l.attempts[k] ∈ l.attempts.take (k + 1) := by
    rw [List.take_succ_eq_append_getElem inside]
    exact List.mem_append_right _ (List.mem_singleton.mpr rfl)
  obtain ⟨fault, failure⟩ := Option.ne_none_iff_exists'.mp (failed _ here)
  refine ⟨l.attempts[k], fault, List.getElem?_eq_getElem inside, failure, ?_, ?_, ?_⟩
  · rw [(lawful.shown k c known).1, total, size]
  · rw [(lawful.shown k c known).1, List.take_succ_eq_append_getElem inside, historyOf_last failure]
  · rw [(lawful.shown k c known).1, since]

/-- What a registration does between two attempts. -/
theorem begin_of_ready (plan : Plan α θ) (ready : r.phase = .ready) (unstopped : r.stop = none) :
    r.run plan [.move .start] = some (r.startAttempt plan) ∧
      (r.startAttempt plan).phase.inAttempt = true ∧ (r.startAttempt plan).built = r.built + 1 := by
  refine ⟨?_, ?_, ?_⟩
  · simp [run, act, advance, ready, unstopped]
  · unfold startAttempt
    cases plan.handshake <;> rfl
  · unfold startAttempt
    cases plan.handshake <;> rfl

theorem resumes_of_resting {wake : Nat} (resting : r.phase = .resting wake)
    (unstopped : r.stop = none) : ∃ waiting r', (∀ a ∈ waiting, a.isWaiting = true) ∧
      r.run plan (waiting ++ [.move .start]) = some r' ∧ r'.phase.inAttempt = true ∧
      r'.built = r.built + 1 := by
  by_cases late : wake ≤ r.now
  · obtain ⟨started, attempting, built⟩ :=
      begin_of_ready plan (r := { r with phase := .ready }) rfl unstopped
    refine ⟨[.move .wake], _, by simp [Action.isWaiting], ?_, attempting, built⟩
    refine Runs.foldlM_append.mpr ⟨_, ?_, started⟩
    simp [act, advance, resting, unstopped, late]
  · obtain ⟨started, attempting, built⟩ :=
      begin_of_ready plan (r := { r with now := wake, phase := .ready }) rfl unstopped
    refine ⟨[.event (.elapse wake), .move .wake], _, by simp [Action.isWaiting], ?_, attempting,
      built⟩
    refine Runs.foldlM_append.mpr ⟨_, ?_, started⟩
    have later : r.now < wake := by omega
    simp [act, advance, receive, resting, unstopped, later]

/-- Every run in which the stop signal does not fire abides by the law. -/
theorem registration_law {identifiers : Uuid.Source} {begun : Nat} {actions : List (Action γ θ ρ)}
    (ran : ({ identifiers, now := begun, started := begun } : Registration α γ θ ρ).run plan
      actions = some r)
    (unstopped : ∀ a ∈ actions, a.isStop = false) (few : r.built < 4294967296) :
    Law plan (({ identifiers, now := begun, started := begun } :
      Registration α γ θ ρ).log plan actions) r := by
  have lawful := Lawful.of_run ran unstopped
  generalize Registration.log _ plan actions = l at lawful ⊢
  have numbers : ∀ n ≤ l.started.length, n.toUInt32.toNat = n := by
    intro n bound
    rw [← lawful.built] at bound
    exact UInt32.toNat_ofNat_of_lt' (Nat.lt_of_le_of_lt bound few)
  refine ⟨lawful.count, numbers, lawful.unsettled, lawful.settled.symm, ?_, lawful.built,
    lawful.greetings, ?_, lawful.welcomes, lawful.consulted, ?_, ?_, ?_⟩
  · intro ending time phase
    have decided := lawful.settled
    simp only [ending?, phase, Option.map_some] at decided
    rw [verdict_attempts decided]
    exact numbers _ (by rw [lawful.count]; exact Nat.le_add_right _ _)
  · rw [lawful.greetings]
    cases plan.handshake with
    | none => exact .nil
    | some client => exact timeSpent_chronological client r.started lawful.chronological
  · intro k c known
    exact ⟨(lawful.shown k c known).2, (lawful.shown k c known).1, lawful.shown_history few known⟩
  · intro since s outcome time talking finished
    simp [act, advance, talking, Session.outcome?, finished]
  · intro lasts between
    cases phase : r.phase with
    | ready =>
      obtain ⟨started, attempting, built⟩ := begin_of_ready plan phase lawful.stop
      exact ⟨[], _, by simp, started, attempting, built⟩
    | resting wake => exact resumes_of_resting phase lawful.stop
    | greeting | dialing | talking =>
      rw [phase] at between
      cases between
    | ended ending time => simp [ending?, phase] at lasts

/-! Two attempts: the first cannot open its connection, the second is served until the runtime
closes the stream. -/

def twicePlan : Plan String Nat where
  processor := Uuid.null
  execution := .standard Uuid.null
  terms := Session.exchangeTerms
  policy _ := some .zero
  arguments _ _ := { payload := "hello" }

def twice : List (Action String Nat String) :=
  [.move .start, .event (.openingFailed .closed), .move .wake, .move .start, .event .opened,
    .event (.session .introduced),
    .event (.session (.arrive (.message (.connectResponse (.accepted "welcome"))))),
    .move (.session .readFirst), .move .welcome, .event (.session (.arrive .eof)),
    .move (.session .read), .move (.session .drained), .move (.session .pick),
    .event (.session .closed), .move (.session .settle), .move .conclude]

theorem registration_law_twice :
    ∃ r : Registration String String Nat String,
      ({ identifiers := ⟨1⟩ } : Registration String String Nat String).run twicePlan twice =
        some r ∧
      r.phase.inAttempt = false ∧ r.ending? = some (.completed 2, 0) ∧
      r.welcomes = [(0, 2, "welcome")] ∧
      Law twicePlan (({ identifiers := ⟨1⟩ } :
        Registration String String Nat String).log twicePlan twice) r :=
  ⟨_, rfl, rfl, rfl, rfl, registration_law rfl (by decide) (by decide)⟩

end Dialback.Registration
