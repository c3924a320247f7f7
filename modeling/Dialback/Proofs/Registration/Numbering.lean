import Dialback.Proofs.Registration.Gate
import Dialback.Proofs.Registration.Law
import Dialback.Proofs.Retry.History

/-!
The numbers of attempts. They are words of 32 bits that start over behind the last one, while the
count of failures stays at its limit. Up to that many attempts the numbers are those of the
attempts; a registration whose policy always retries goes beyond, and then an attempt is numbered
zero and the count that a registration ends with is less than the failures it has counted.
-/
namespace Dialback.Registration

variable {α γ θ ρ : Type}

/-- What is expected of numbers: they start with one, they never fall, and a registration does not
end with fewer attempts than failures. -/
structure WellNumbered (r : Registration α γ θ ρ) : Prop where
  greeted : ∀ g ∈ r.greetings, 1 ≤ g.2.attempt
  greetedInOrder : (r.greetings.map fun g => g.2.attempt).Pairwise (· ≤ ·)
  welcomed : ∀ w ∈ r.welcomes, 1 ≤ w.2.1
  welcomedInOrder : (r.welcomes.map fun w => w.2.1).Pairwise (· ≤ ·)
  reported : ∀ ending time, r.ending? = some (ending, time) →
    r.history.total ≤ ending.attempts.toNat

/-- The numbers of the first `n` attempts. -/
def numbersOf (n : Nat) : List UInt32 :=
  (List.range' 1 n).map Nat.toUInt32

/-- How the attempts of a registration are numbered. -/
structure Numbering (plan : Plan α θ) (r : Registration α γ θ ρ) : Prop where
  greeted : r.greetings.map (fun g => g.2.attempt) =
    plan.handshake.elim [] fun _ => numbersOf r.built
  /-- The observer is told numbers of attempts in their order. -/
  welcomed : ∃ attempts : List Nat, r.welcomes.map (fun w => w.2.1) = attempts.map Nat.toUInt32 ∧
    attempts.Pairwise (· ≤ ·) ∧ ∀ n ∈ attempts, 1 ≤ n ∧ n ≤ r.built
  reported : ∀ ending time, r.ending? = some (ending, time) →
    ending.attempts.toNat = r.built % UInt32.size
  /-- Every attempt but the last has failed, and is counted as far as failures are. -/
  failed : r.consultations.length ≤ r.built ∧ r.built ≤ r.consultations.length + 1
  counted : r.history.total = min r.consultations.length Retry.countLimit
  few : r.built < UInt32.size → r.WellNumbered
  /-- With one attempt more the numbers start over. -/
  many : plan.handshake.isSome = true → (r.WellNumbered ↔ r.built < UInt32.size)
  fewer : ∀ ending time, r.ending? = some (ending, time) →
    (r.history.total ≤ ending.attempts.toNat ↔
      r.built < UInt32.size ∨ r.built % UInt32.size = Retry.countLimit)

/-- How many attempts have begun, by how many have failed. -/
def Phase.Tallies (begun failed : Nat) : Phase α γ θ ρ → Prop
  | ready | resting _ | ended (.gaveUp _) _ => begun = failed
  | greeting _ _ _ | dialing _ _ | talking _ _ | ended (.completed _) _ => begun = failed + 1
  | ended (.stopped _) _ => begun = failed ∨ begun = failed + 1

/-- What is known of the counters at every moment. -/
structure Counted (plan : Plan α θ) (r : Registration α γ θ ρ) : Prop where
  attempts : r.attempts = r.built.toUInt32
  greeted : r.greetings.map (fun g => g.2.attempt) =
    plan.handshake.elim [] fun _ => numbersOf r.built
  welcomed : ∃ attempts : List Nat, r.welcomes.map (fun w => w.2.1) = attempts.map Nat.toUInt32 ∧
    attempts.Pairwise (· ≤ ·) ∧ ∀ n ∈ attempts, 1 ≤ n ∧ n ≤ r.built
  total : r.history.total = min r.consultations.length Retry.countLimit
  tallies : r.phase.Tallies r.built r.consultations.length
  reported : ∀ ending time, r.phase = .ended ending time → ending.attempts = r.attempts

variable {plan : Plan α θ} {r r' : Registration α γ θ ρ} {a : Action γ θ ρ}

/-! Numbers. -/

theorem numbersOf_succ (n : Nat) : numbersOf (n + 1) = numbersOf n ++ [(n + 1).toUInt32] := by
  rw [numbersOf, List.range'_1_concat, List.map_append, Nat.add_comm 1 n]
  rfl

theorem toNat_toUInt32 {n : Nat} (small : n < UInt32.size) : n.toUInt32.toNat = n :=
  UInt32.toNat_ofNat_of_lt' small

theorem one_le_toUInt32 {n : Nat} (positive : 1 ≤ n) (small : n < UInt32.size) :
    1 ≤ n.toUInt32 := by
  rw [UInt32.le_iff_toNat_le, toNat_toUInt32 small]
  exact positive

theorem toUInt32_le {m n : Nat} (le : m ≤ n) (small : n < UInt32.size) :
    m.toUInt32 ≤ n.toUInt32 := by
  rw [UInt32.le_iff_toNat_le, toNat_toUInt32 small, toNat_toUInt32 (Nat.lt_of_le_of_lt le small)]
  exact le

/-- Numbers below the last one are in order. -/
theorem numbers_in_order {attempts : List Nat} {limit : Nat} (ordered : attempts.Pairwise (· ≤ ·))
    (bounded : ∀ n ∈ attempts, 1 ≤ n ∧ n ≤ limit) (small : limit < UInt32.size) :
    (∀ w ∈ attempts.map Nat.toUInt32, 1 ≤ w) ∧
      (attempts.map Nat.toUInt32).Pairwise (· ≤ ·) := by
  constructor
  · intro w told
    obtain ⟨n, member, rfl⟩ := List.mem_map.mp told
    obtain ⟨positive, below⟩ := bounded n member
    exact one_le_toUInt32 positive (Nat.lt_of_le_of_lt below small)
  · rw [List.pairwise_map]
    refine ordered.imp_of_mem ?_
    intro m n _ member le
    exact toUInt32_le le (Nat.lt_of_le_of_lt (bounded n member).2 small)

theorem zero_mem_numbersOf {n : Nat} (many : UInt32.size ≤ n) : 0 ∈ numbersOf n := by
  refine List.mem_map.mpr ⟨UInt32.size, ?_, rfl⟩
  rw [List.mem_range'_1]
  exact ⟨by decide, by omega⟩

/-! Phases. -/

theorem Phase.tallies_of_inAttempt {phase : Phase α γ θ ρ} {begun failed : Nat}
    (attempting : phase.inAttempt = true) : phase.Tallies begun failed ↔ begun = failed + 1 := by
  cases phase with
  | greeting | dialing | talking => exact Iff.rfl
  | ready | resting | ended => cases attempting

theorem Phase.Tallies.bounds {phase : Phase α γ θ ρ} {begun failed : Nat}
    (tallies : phase.Tallies begun failed) : failed ≤ begun ∧ begun ≤ failed + 1 := by
  unfold Phase.Tallies at tallies
  split at tallies <;> omega

theorem onStop_tallies {begun failed : Nat} (tallies : r.phase.Tallies begun failed) :
    (r.onStop plan).phase.Tallies begun failed := by
  unfold onStop
  cases phase : r.phase with
  | talking since s =>
    rw [phase] at tallies
    exact tallies
  | ready | greeting | dialing | resting | ended =>
    rw [phase] at tallies
    exact tallies

/-! Steps. -/

/-- The registration goes on with the same attempts. -/
private theorem Counted.keep (counted : Counted plan r)
    (same : r'.built = r.built ∧ r'.attempts = r.attempts ∧ r'.greetings = r.greetings ∧
      r'.history = r.history ∧ r'.consultations = r.consultations)
    (welcomes : r'.welcomes = r.welcomes)
    (tallies : r'.phase.Tallies r.built r.consultations.length)
    (reported : ∀ ending time, r'.phase = .ended ending time → ending.attempts = r.attempts) :
    Counted plan r' := by
  obtain ⟨built, attempts, greetings, history, consultations⟩ := same
  constructor
  · rw [attempts, built, counted.attempts]
  · rw [greetings, built, counted.greeted]
  · rw [welcomes, built]
    exact counted.welcomed
  · rw [history, consultations, counted.total]
  · rw [built, consultations]
    exact tallies
  · rw [attempts]
    exact reported

private theorem Counted.begin (counted : Counted plan r) (ready : r.phase = .ready) :
    Counted plan (r.startAttempt plan) := by
  have tallies := counted.tallies
  rw [ready] at tallies
  have number : r.attempts + 1 = (r.built + 1).toUInt32 := by
    rw [toUInt32_succ, counted.attempts]
  have welcomed : ∃ attempts : List Nat,
      r.welcomes.map (fun w => w.2.1) = attempts.map Nat.toUInt32 ∧
      attempts.Pairwise (· ≤ ·) ∧ ∀ n ∈ attempts, 1 ≤ n ∧ n ≤ r.built + 1 := by
    obtain ⟨attempts, told, ordered, bounded⟩ := counted.welcomed
    refine ⟨attempts, told, ordered, fun n member => ?_⟩
    obtain ⟨positive, below⟩ := bounded n member
    exact ⟨positive, Nat.le_succ_of_le below⟩
  have greeted := counted.greeted
  unfold startAttempt
  cases handshake : plan.handshake with
  | none =>
    rw [handshake] at greeted
    refine ⟨number, ?_, welcomed, counted.total, congrArg (· + 1) tallies, ?_⟩
    · rw [handshake]
      exact greeted
    · exact nofun
  | some client =>
    rw [handshake] at greeted
    refine ⟨number, ?_, welcomed, counted.total, congrArg (· + 1) tallies, ?_⟩
    · rw [handshake]
      simp only [List.map_append, greeted, Option.elim, List.map_singleton, numbersOf_succ]
      rw [← number]
      rfl
    · intro ending time phase
      cases phase

private theorem Counted.fail (counted : Counted plan r) (attempting : r.phase.inAttempt = true)
    (fault : AttemptFault) (connected : Bool) (connections : List (Connection α γ θ ρ)) :
    Counted plan ({ r with connections }.failAttempt plan fault connected) := by
  obtain ⟨h, recorded, same⟩ := failAttempt_eq { r with connections } plan fault connected
  have begun := (Phase.tallies_of_inAttempt attempting).mp counted.tallies
  have total : h.total = min (r.consultations.length + 1) Retry.countLimit := by
    rw [← Retry.History.bump_min, ← counted.total, recorded]
    cases connected <;> rfl
  rw [same]
  refine ⟨counted.attempts, counted.greeted, counted.welcomed, ?_, ?_, ?_⟩
  · simpa using total
  · cases decision : plan.policy h <;> simpa [Phase.Tallies, decision] using begun
  · intro ending time phase
    cases decision : plan.policy h with
    | none =>
      simp only [decision] at phase
      cases phase
      rfl
    | some delay => simp [decision] at phase

private theorem Counted.welcome (counted : Counted plan r) {since : Nat}
    {s s' : Session α γ θ ρ} (talking : r.phase = .talking since s) (payload : γ) :
    Counted plan { r with
      phase := .talking since s'
      welcomes := r.welcomes ++ [(r.now, r.attempts, payload)] } := by
  have tallies := counted.tallies
  rw [talking] at tallies
  have begun : r.built = r.consultations.length + 1 := tallies
  obtain ⟨attempts, told, ordered, bounded⟩ := counted.welcomed
  refine ⟨counted.attempts, counted.greeted, ⟨attempts ++ [r.built], ?_, ?_, ?_⟩, counted.total,
    tallies, ?_⟩
  · simp [told, counted.attempts]
  · refine List.pairwise_append.mpr ⟨ordered, List.pairwise_singleton _ _, ?_⟩
    intro n member last here
    rw [List.mem_singleton.mp here]
    exact (bounded n member).2
  · refine List.forall_mem_append.mpr ⟨bounded, List.forall_mem_singleton.mpr ⟨?_, Nat.le_refl _⟩⟩
    omega
  · intro ending time phase
    cases phase

theorem Counted.step (counted : Counted plan r) (effect : Effect plan r a r') :
    Counted plan r' := by
  have tallies := counted.tallies
  cases effect with
  | begin ready => exact counted.begin ready
  | fail fault welcome? connections fails =>
    exact counted.fail fails.inAttempt fault welcome?.isSome connections
  | welcome since s payload talking => exact counted.welcome talking payload
  | dial arguments since limit client answer result greeting =>
    rw [greeting] at tallies
    exact counted.keep ⟨rfl, rfl, rfl, rfl, rfl⟩ rfl tallies nofun
  | connect arguments since dialing =>
    rw [dialing] at tallies
    exact counted.keep ⟨rfl, rfl, rfl, rfl, rfl⟩ rfl tallies nofun
  | session since now s s' x talking =>
    rw [talking] at tallies
    exact counted.keep ⟨rfl, rfl, rfl, rfl, rfl⟩ rfl tallies nofun
  | wake wake resting =>
    rw [resting] at tallies
    exact counted.keep ⟨rfl, rfl, rfl, rfl, rfl⟩ rfl tallies nofun
  | complete since time s connections talking =>
    rw [talking] at tallies
    refine counted.keep ⟨rfl, rfl, rfl, rfl, rfl⟩ rfl tallies ?_
    intro ending time phase
    cases phase
    rfl
  | cancelled since time s connections talking =>
    rw [talking] at tallies
    refine counted.keep ⟨rfl, rfl, rfl, rfl, rfl⟩ rfl (.inr tallies) ?_
    intro ending time phase
    cases phase
    rfl
  | heed connections =>
    refine counted.keep ⟨rfl, rfl, rfl, rfl, rfl⟩ rfl ?_ ?_
    · have bounds := tallies.bounds
      change r.built = _ ∨ r.built = _
      omega
    · intro ending time phase
      cases phase
      rfl
  | elapse time => exact counted.keep ⟨rfl, rfl, rfl, rfl, rfl⟩ rfl tallies counted.reported
  | stop =>
    refine counted.keep ⟨rfl, rfl, rfl, rfl, rfl⟩ rfl (onStop_tallies tallies) ?_
    intro ending time phase
    refine counted.reported ending time ?_
    cases before : r.phase <;> simp [onStop, before] at phase ⊢
    exact phase

theorem Counted.opened (identifiers : Uuid.Source) (begun : Nat) :
    Counted plan ({ identifiers, now := begun, started := begun } : Registration α γ θ ρ) where
  attempts := rfl
  greeted := by cases plan.handshake <;> rfl
  welcomed := ⟨[], rfl, .nil, by simp⟩
  total := rfl
  tallies := rfl
  reported ending time phase := by cases phase

theorem Counted.of_run {identifiers : Uuid.Source} {begun : Nat} {actions : List (Action γ θ ρ)}
    (ran : ({ identifiers, now := begun, started := begun } : Registration α γ θ ρ).run plan
      actions = some r) : Counted plan r :=
  Runs.preserved (fun _ => True) (fun _ _ _ _ counted acted => counted.step (.of_act acted))
    (.opened identifiers begun) (fun _ _ => trivial) ran

/-! What the counters amount to. -/

theorem Counted.reported_toNat (counted : Counted plan r) {ending : Ending} {time : Nat}
    (concluded : r.ending? = some (ending, time)) :
    ending.attempts.toNat = r.built % UInt32.size := by
  unfold ending? at concluded
  split at concluded
  case h_1 phase =>
    cases concluded
    rw [counted.reported ending time phase, counted.attempts]
    exact UInt32.toNat_ofNat'
  case h_2 => cases concluded

/-- The failures are counted up to the last word, and the attempts start over behind it. -/
theorem Counted.total_le_iff (counted : Counted plan r) :
    r.history.total ≤ r.built % UInt32.size ↔
      r.built < UInt32.size ∨ r.built % UInt32.size = Retry.countLimit := by
  have bounds := counted.tallies.bounds
  have total := counted.total
  have word : UInt32.size = Retry.countLimit + 1 := rfl
  rcases Nat.lt_or_ge r.built UInt32.size with few | many
  · rw [Nat.mod_eq_of_lt few]
    omega
  · have last := Nat.mod_lt r.built (show 0 < UInt32.size by decide)
    omega

theorem Counted.wellNumbered (counted : Counted plan r) (few : r.built < UInt32.size) :
    r.WellNumbered := by
  have greeted : (∀ n ∈ r.greetings.map (fun g => g.2.attempt), 1 ≤ n) ∧
      (r.greetings.map fun g => g.2.attempt).Pairwise (· ≤ ·) := by
    rw [counted.greeted]
    cases plan.handshake with
    | none => exact ⟨by simp, .nil⟩
    | some client =>
      refine numbers_in_order (List.pairwise_le_range' _) ?_ few
      intro n member
      rw [List.mem_range'_1] at member
      omega
  have welcomed : (∀ n ∈ r.welcomes.map (fun w => w.2.1), 1 ≤ n) ∧
      (r.welcomes.map fun w => w.2.1).Pairwise (· ≤ ·) := by
    obtain ⟨attempts, told, ordered, bounded⟩ := counted.welcomed
    rw [told]
    exact numbers_in_order ordered bounded few
  refine ⟨?_, greeted.2, ?_, welcomed.2, ?_⟩
  · exact List.forall_mem_map.mp greeted.1
  · exact List.forall_mem_map.mp welcomed.1
  · intro ending time concluded
    rw [counted.reported_toNat concluded]
    exact counted.total_le_iff.mpr (.inl few)

/-- A registration that greets tells the runtime of an attempt numbered zero. -/
theorem Counted.greets_zero (counted : Counted plan r) (greets : plan.handshake.isSome = true)
    (many : UInt32.size ≤ r.built) : ∃ g ∈ r.greetings, g.2.attempt = 0 := by
  obtain ⟨client, handshake⟩ := Option.isSome_iff_exists.mp greets
  have greeted := counted.greeted
  rw [handshake] at greeted
  have zero : 0 ∈ r.greetings.map fun g => g.2.attempt := greeted ▸ zero_mem_numbersOf many
  exact List.mem_map.mp zero

theorem Counted.numbering (counted : Counted plan r) : Numbering plan r where
  greeted := counted.greeted
  welcomed := counted.welcomed
  reported _ _ := counted.reported_toNat
  failed := counted.tallies.bounds
  counted := counted.total
  few := counted.wellNumbered
  many greets := by
    refine ⟨fun well => ?_, counted.wellNumbered⟩
    by_contra many
    obtain ⟨g, member, zero⟩ := counted.greets_zero greets (Nat.not_lt.mp many)
    have positive := well.greeted g member
    rw [zero] at positive
    exact absurd positive (by decide)
  fewer ending time concluded := by
    rw [counted.reported_toNat concluded]
    exact counted.total_le_iff

/-! A policy that always retries. -/

/-- An attempt that fails at once. -/
theorem fails_of_ready (plan : Plan α θ) (retries : ∀ h, plan.policy h ≠ none)
    (ready : r.phase = .ready) (unstopped : r.stop = none) :
    ∃ actions r' wake, r.run plan actions = some r' ∧ r'.phase = .resting wake ∧ r'.stop = none ∧
      r'.built = r.built + 1 := by
  have rests (m : Registration α γ θ ρ) (fault : AttemptFault) :
      ∃ wake, (m.failAttempt plan fault false).phase = .resting wake ∧
        (m.failAttempt plan fault false).stop = m.stop ∧
        (m.failAttempt plan fault false).built = m.built := by
    obtain ⟨h, _, same⟩ := failAttempt_eq m plan fault false
    obtain ⟨delay, decision⟩ := Option.ne_none_iff_exists'.mp (retries h)
    rw [same]
    exact ⟨m.now + delay.ticks, by simp [decision], rfl, rfl⟩
  have begun : r.act plan (.move .start) = some (r.startAttempt plan) := by
    simp [act, advance, ready, unstopped]
  cases handshake : plan.handshake with
  | none =>
    obtain ⟨wake, resting, stop, built⟩ := rests ((r.startAttempt plan).noteConnection
      ⟨r.now, none⟩) (.opening .closed)
    refine ⟨[.move .start, .event (.openingFailed .closed)], _, wake, ?_, resting, ?_, ?_⟩
    · refine Runs.foldlM_cons.mpr ⟨_, begun, ?_⟩
      simp [act, receive, startAttempt, handshake, unstopped]
    · rw [stop]
      simp [noteConnection, startAttempt, handshake, unstopped]
    · rw [built]
      simp [noteConnection, startAttempt, handshake]
  | some client =>
    obtain ⟨wake, resting, stop, built⟩ :=
      rests (r.startAttempt plan) (.handshake (.transport .closed))
    refine ⟨[.move .start, .event (.greeted (.error .closed))], _, wake, ?_, resting, ?_, ?_⟩
    · refine Runs.foldlM_cons.mpr ⟨_, begun, ?_⟩
      simp [act, receive, startAttempt, handshake, unstopped, onGreeted, Handshake.Client.conclude]
    · rw [stop]
      simp [startAttempt, handshake, unstopped]
    · rw [built]
      simp [startAttempt, handshake]

theorem wakes_of_resting {wake : Nat} (plan : Plan α θ) (resting : r.phase = .resting wake)
    (unstopped : r.stop = none) : ∃ actions r', r.run plan actions = some r' ∧
      r'.phase = .ready ∧ r'.stop = none ∧ r'.built = r.built := by
  by_cases late : wake ≤ r.now
  · refine ⟨[.move .wake], { r with phase := .ready }, ?_, rfl, unstopped, rfl⟩
    simp [run, act, advance, resting, unstopped, late]
  · refine ⟨[.event (.elapse wake), .move .wake], { r with now := wake, phase := .ready }, ?_, rfl,
      unstopped, rfl⟩
    simp [run, act, advance, receive, resting, unstopped, Nat.not_le.mp late]

/-- Nothing keeps such a registration from any number of attempts. -/
theorem goes_on (identifiers : Uuid.Source) (begun : Nat) (retries : ∀ h, plan.policy h ≠ none)
    (n : Nat) : ∃ actions r,
      ({ identifiers, now := begun, started := begun } : Registration α γ θ ρ).run plan actions =
        some r ∧ r.phase = .ready ∧ r.stop = none ∧ r.built = n := by
  induction n with
  | zero => exact ⟨[], _, rfl, rfl, rfl, rfl⟩
  | succ n ih =>
    obtain ⟨before, r, ran, ready, unstopped, built⟩ := ih
    obtain ⟨attempt, failed, wake, tried, resting, unstopped, more⟩ :=
      fails_of_ready plan retries ready unstopped
    obtain ⟨waiting, next, woken, ready, unstopped, same⟩ :=
      wakes_of_resting plan resting unstopped
    refine ⟨before ++ (attempt ++ waiting), next, ?_, ready, unstopped, by omega⟩
    exact Runs.foldlM_append.mpr ⟨r, ran, Runs.foldlM_append.mpr ⟨failed, tried, woken⟩⟩

/-- The answer to a greeting does not arrive. -/
def failure : List (Action String Nat String) :=
  [.move .start, .event (.greeted (.error .closed)), .move .wake]

/-- So many failures, and one more attempt during which the registration is stopped. -/
def outage (n : Nat) : List (Action String Nat String) :=
  (List.replicate n failure).flatten ++ [.move .start, .event .stop, .move .heedStop]

/-- In every run, whatever its policy; and one that always retries has runs of every length. -/
theorem numbered_until_full {identifiers : Uuid.Source} {begun : Nat}
    {actions : List (Action γ θ ρ)}
    (ran : ({ identifiers, now := begun, started := begun } : Registration α γ θ ρ).run plan
      actions = some r) :
    Numbering plan r ∧
      ((∀ h, plan.policy h ≠ none) → ∀ n, ∃ (actions : List (Action γ θ ρ)) (r : _),
        ({ identifiers, now := begun, started := begun } : Registration α γ θ ρ).run plan
          actions = some r ∧ r.ending? = none ∧ r.built = n) := by
  refine ⟨(Counted.of_run ran).numbering, fun retries n => ?_⟩
  obtain ⟨actions, r, ran, ready, _, built⟩ := goes_on identifiers begun retries n
  refine ⟨actions, r, ran, ?_, built⟩
  unfold ending?
  rw [ready]

/-- Two attempts fail, the third is under way when the registration is stopped. -/
theorem numbered_until_full_visit :
    ∃ r : Registration String String Nat String,
      ({ identifiers := ⟨1⟩ } : Registration String String Nat String).run visit (outage 2) =
        some r ∧
      r.greetings.map (fun g => g.2.attempt) = [1, 2, 3] ∧ r.ending? = some (.stopped 3, 0) ∧
      r.history.total = 2 ∧ r.WellNumbered ∧ Numbering visit r ∧ (∀ h, visit.policy h ≠ none) ∧
      ∃ (actions : List (Action String Nat String)) (r : Registration String String Nat String),
        ({ identifiers := ⟨1⟩ } : Registration String String Nat String).run visit actions =
          some r ∧ r.ending? = none ∧ r.built = 4_294_967_296 := by
  have ran : ∃ r, ({ identifiers := ⟨1⟩ } : Registration String String Nat String).run visit
      (outage 2) = some r ∧ r.greetings.map (fun g => g.2.attempt) = [1, 2, 3] ∧
      r.ending? = some (.stopped 3, 0) ∧ r.history.total = 2 ∧ r.built < UInt32.size :=
    ⟨_, rfl, rfl, rfl, rfl, by decide⟩
  obtain ⟨r, ran, greeted, concluded, total, few⟩ := ran
  obtain ⟨numbering, unbounded⟩ := numbered_until_full ran
  have retries : ∀ h, visit.policy h ≠ none := fun _ => Option.some_ne_none _
  exact ⟨r, ran, greeted, concluded, total, numbering.few few, numbering, retries,
    unbounded retries _⟩

/-! A runtime that cannot be reached is visited for as long as it takes. -/

theorem run_failures (n : Nat) : ∃ r : Registration String String Nat String,
    ({ identifiers := ⟨1⟩ } : Registration String String Nat String).run visit
      (List.replicate n failure).flatten = some r ∧
    r.phase = .ready ∧ r.now = 0 ∧ r.stop = none ∧ r.built = n := by
  induction n with
  | zero => exact ⟨_, rfl, rfl, rfl, rfl, rfl⟩
  | succ n ih =>
    obtain ⟨r, ran, ready, now, unstopped, built⟩ := ih
    have again : ∃ r', r.run visit failure = some r' ∧ r'.phase = .ready ∧ r'.now = 0 ∧
        r'.stop = none ∧ r'.built = r.built + 1 := by
      obtain ⟨⟩ := r
      cases ready
      cases now
      cases unstopped
      exact ⟨_, rfl, rfl, rfl, rfl, rfl⟩
    obtain ⟨r', failed, ready', now', unstopped', more⟩ := again
    refine ⟨r', ?_, ready', now', unstopped', by omega⟩
    rw [List.replicate_succ', List.flatten_append, List.flatten_singleton]
    exact Runs.foldlM_append.mpr ⟨r, ran, failed⟩

theorem run_outage (n : Nat) : ∃ r : Registration String String Nat String,
    ({ identifiers := ⟨1⟩ } : Registration String String Nat String).run visit (outage n) =
      some r ∧
    r.built = n + 1 ∧ r.consultations.length = n ∧
      r.ending? = some (.stopped (n + 1).toUInt32, 0) := by
  obtain ⟨r, ran, ready, now, unstopped, built⟩ := run_failures n
  have counted := Counted.of_run ran
  have failed : r.built = r.consultations.length := by
    have tallies := counted.tallies
    rw [ready] at tallies
    exact tallies
  have number : r.attempts + 1 = (n + 1).toUInt32 := by
    rw [toUInt32_succ, counted.attempts, built]
  have last : ∃ r', r.run visit [.move .start, .event .stop, .move .heedStop] = some r' ∧
      r'.built = r.built + 1 ∧ r'.consultations = r.consultations ∧
      r'.ending? = some (.stopped (r.attempts + 1), 0) := by
    obtain ⟨⟩ := r
    cases ready
    cases now
    cases unstopped
    exact ⟨_, rfl, rfl, rfl, rfl⟩
  obtain ⟨r', stopped, more, same, concluded⟩ := last
  refine ⟨r', Runs.foldlM_append.mpr ⟨r, ran, stopped⟩, by omega, ?_, ?_⟩
  · rw [same]
    omega
  · rw [concluded, number]

/-- One attempt more than there are numbers. The policy has retried each time, every failure is
counted, and the registration ends with no attempts at all. -/
theorem numbers_start_over :
    ∃ r : Registration String String Nat String,
      ({ identifiers := ⟨1⟩ } : Registration String String Nat String).run visit
        (outage 4_294_967_295) = some r ∧
      (∃ g ∈ r.greetings, g.2.attempt = 0) ∧ r.ending? = some (.stopped 0, 0) ∧
      r.history.total = 4_294_967_295 ∧ ¬ r.WellNumbered := by
  obtain ⟨r, ran, built, failed, concluded⟩ := run_outage 4_294_967_295
  have counted := Counted.of_run ran
  have total : r.history.total = 4_294_967_295 := by
    rw [counted.total, failed]
    rfl
  refine ⟨r, ran, ?_, concluded, total, fun well => ?_⟩
  · exact counted.greets_zero rfl (Nat.le_of_eq built.symm)
  · have few := well.reported _ _ concluded
    rw [total] at few
    exact absurd few (by decide)

end Dialback.Registration
