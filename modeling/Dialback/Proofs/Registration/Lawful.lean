import Dialback.Proofs.Registration.Effect

/-!
What the log of a registration that is never told to stop says about its state, at every moment: the
counters, the history of failures and everything that was asked of the surroundings.
-/
namespace Dialback.Registration

variable {α γ θ ρ : Type}

def Phase.inAttempt : Phase α γ θ ρ → Bool
  | greeting _ _ _ | dialing _ _ | talking _ _ => true
  | _ => false

/-- The connect response of the attempt under way, once the observer has been told of it. -/
def Phase.told? : Phase α γ θ ρ → Option γ
  | talking _ s => s.served?
  | _ => none

/-- What the observer is told of these attempts. -/
def welcomesOf (attempts : List (Attempt γ)) : List (UInt32 × γ) :=
  attempts.zipIdx.filterMap fun (a, i) => a.welcome?.map ((i + 1).toUInt32, ·)

/-- The handshakes of attempts that began at these times. -/
def greetingsOf (client : Handshake.Client) (begun : Nat) (started : List Nat) :
    List (Nat × Handshake.Request) :=
  started.zipIdx.map fun (time, i) =>
    (time, client.request (i + 1).toUInt32 (.ofTicks (time - begun)))

/-- Log and registration agree, the stop signal not having fired. -/
structure Lawful (plan : Plan α θ) (l : Log γ) (r : Registration α γ θ ρ) : Prop where
  stop : r.stop = none
  built : r.built = l.started.length
  attempts : r.attempts = l.started.length.toUInt32
  count : l.started.length = l.attempts.length + if r.phase.inAttempt then 1 else 0
  chronological : l.started.Pairwise (· ≤ ·)
  past : ∀ time ∈ l.started, time ≤ r.now
  greetings : r.greetings =
    plan.handshake.elim [] fun client => greetingsOf client r.started l.started
  history : r.history = historyOf l.attempts
  consulted : r.consultations.length = l.attempts.countP fun a => a.failure?.isSome
  shown : ∀ (k : Nat) (c : Consultation), r.consultations[k]? = some c →
    c.history = historyOf (l.attempts.take (k + 1)) ∧ c.decision = plan.policy c.history
  welcomes : r.welcomes.map Prod.snd =
    welcomesOf l.attempts ++ (r.phase.told?.map (l.started.length.toUInt32, ·)).toList
  session : ∀ since s, r.phase = .talking since s → s.Unstopped
  settled : verdict? plan.policy l.attempts = r.ending?.map Prod.fst
  unsettled : ∀ k < l.attempts.length, verdict? plan.policy (l.attempts.take k) = none

variable {plan : Plan α θ} {l : Log γ} {r r' : Registration α γ θ ρ} {a : Action γ θ ρ}

theorem welcomesOf_concat (attempts : List (Attempt γ)) (a : Attempt γ) :
    welcomesOf (attempts ++ [a]) =
      welcomesOf attempts ++ (a.welcome?.map ((attempts.length + 1).toUInt32, ·)).toList := by
  unfold welcomesOf
  rw [List.zipIdx_append, List.filterMap_append]
  cases welcome : a.welcome? <;> simp [welcome]

theorem greetingsOf_concat (client : Handshake.Client) (begun time : Nat) (started : List Nat) :
    greetingsOf client begun (started ++ [time]) = greetingsOf client begun started ++
      [(time, client.request (started.length + 1).toUInt32 (.ofTicks (time - begun)))] := by
  simp [greetingsOf, List.zipIdx_append]

theorem verdict_concat (policy : Retry.Policy) (attempts : List (Attempt γ)) (a : Attempt γ) :
    verdict? policy (attempts ++ [a]) =
      match a.failure? with
      | none => some (.completed (attempts.length + 1).toUInt32)
      | some fault =>
        if policy (historyOf (attempts ++ [a])) = none then
          some (.gaveUp ⟨(attempts.length + 1).toUInt32, fault⟩)
        else none := by
  cases failure : a.failure? <;> simp [verdict?, failure]

theorem Lawful.opened (identifiers : Uuid.Source) (begun : Nat) :
    Lawful plan {} ({ identifiers, now := begun, started := begun } : Registration α γ θ ρ) where
  stop := rfl
  built := rfl
  attempts := rfl
  count := rfl
  chronological := .nil
  past _ member := by cases member
  greetings := by cases plan.handshake <;> rfl
  history := rfl
  consulted := rfl
  shown k c known := by simp at known
  welcomes := rfl
  session since s phase := by cases phase
  settled := rfl
  unsettled k less := by cases less

/-! Attempts that are not the last one. -/

/-- An attempt that settles nothing has failed. -/
theorem failed_of_undecided {policy : Retry.Policy} {attempts : List (Attempt γ)} {k : Nat}
    (inside : k < attempts.length) (undecided : verdict? policy (attempts.take (k + 1)) = none) :
    attempts[k].failure? ≠ none := by
  intro failure
  rw [List.take_succ_eq_append_getElem inside, verdict_concat, failure] at undecided
  cases undecided

theorem Lawful.undecided (lawful : Lawful plan l r) (lasts : r.ending? = none) :
    ∀ k ≤ l.attempts.length, verdict? plan.policy (l.attempts.take k) = none := by
  intro k bound
  rcases Nat.lt_or_eq_of_le bound with less | rfl
  · exact lawful.unsettled k less
  · rw [List.take_length, lawful.settled, lasts]
    rfl

theorem Lawful.failed (lawful : Lawful plan l r) (lasts : r.ending? = none) :
    ∀ a ∈ l.attempts, a.failure? ≠ none := by
  intro a member
  obtain ⟨k, inside, rfl⟩ := List.getElem_of_mem member
  exact failed_of_undecided inside (lawful.undecided lasts (k + 1) inside)

/-- One more attempt leaves those before it undecided. -/
theorem Lawful.unsettled_concat (lawful : Lawful plan l r) (lasts : r.ending? = none)
    (a : Attempt γ) (k : Nat) (less : k < (l.attempts ++ [a]).length) :
    verdict? plan.policy ((l.attempts ++ [a]).take k) = none := by
  rw [List.length_append, List.length_singleton] at less
  rw [List.take_append_of_le_length (by omega)]
  exact lawful.undecided lasts k (by omega)

theorem countP_of_failed {attempts : List (Attempt γ)}
    (failed : ∀ a ∈ attempts, a.failure? ≠ none) :
    attempts.countP (fun a => a.failure?.isSome) = attempts.length := by
  rw [List.countP_eq_length]
  intro a member
  exact Option.isSome_iff_ne_none.mpr (failed a member)

theorem Phase.not_ended_of_inAttempt (attempting : r.phase.inAttempt = true) :
    r.ending? = none := by
  unfold ending?
  split
  case h_1 ending time phase =>
    rw [phase] at attempting
    cases attempting
  case h_2 => rfl

/-! Steps. -/

/-- The registration goes on with the same attempts. -/
private theorem Lawful.keep (lawful : Lawful plan l r)
    (same : r'.stop = r.stop ∧ r'.built = r.built ∧ r'.attempts = r.attempts ∧
      r'.started = r.started ∧ r'.greetings = r.greetings ∧ r'.history = r.history ∧
      r'.consultations = r.consultations)
    (now : r.now ≤ r'.now) (attempting : r'.phase.inAttempt = r.phase.inAttempt)
    (welcomes : r'.welcomes.map Prod.snd =
      welcomesOf l.attempts ++ (r'.phase.told?.map (l.started.length.toUInt32, ·)).toList)
    (session : ∀ since s, r'.phase = .talking since s → s.Unstopped)
    (ending : r'.ending? = r.ending?) : Lawful plan l r' := by
  obtain ⟨stop, built, attempts, started, greetings, history, consultations⟩ := same
  refine ⟨?_, ?_, ?_, ?_, lawful.chronological, ?_, ?_, ?_, ?_, ?_, welcomes, session, ?_,
    lawful.unsettled⟩
  · rw [stop, lawful.stop]
  · rw [built, lawful.built]
  · rw [attempts, lawful.attempts]
  · rw [attempting, lawful.count]
  · exact fun time member => Nat.le_trans (lawful.past time member) now
  · rw [greetings, started, lawful.greetings]
  · rw [history, lawful.history]
  · rw [consultations, lawful.consulted]
  · rw [consultations]
    exact lawful.shown
  · rw [ending, lawful.settled]

theorem toUInt32_succ (n : Nat) : (n + 1).toUInt32 = n.toUInt32 + 1 := by
  simp

/-- One more attempt begins. -/
private theorem Lawful.begin (lawful : Lawful plan l r) (ready : r.phase = .ready) :
    Lawful plan (l.note plan r (.move .start)) (r.startAttempt plan) := by
  have count := lawful.count
  have greetings := lawful.greetings
  have welcomes := lawful.welcomes
  have settled := lawful.settled
  have attempts : r.attempts + 1 = (l.started.length + 1).toUInt32 := by
    rw [toUInt32_succ, lawful.attempts]
  simp only [ready, Phase.inAttempt, Phase.told?, ending?] at count welcomes settled
  have chronological : (l.started ++ [r.now]).Pairwise (· ≤ ·) := by
    refine List.pairwise_append.mpr ⟨lawful.chronological, List.pairwise_singleton _ _, ?_⟩
    intro time member now last
    rw [List.mem_singleton.mp last]
    exact lawful.past time member
  have past : ∀ time ∈ l.started ++ [r.now], time ≤ r.now := by
    intro time member
    rcases List.mem_append.mp member with before | now
    · exact lawful.past time before
    · exact Nat.le_of_eq (List.mem_singleton.mp now)
  have size : (l.started ++ [r.now]).length = l.started.length + 1 := by simp
  unfold startAttempt
  cases handshake : plan.handshake with
  | none =>
    rw [handshake] at greetings
    refine ⟨lawful.stop, ?_, ?_, ?_, chronological, past, ?_, lawful.history, lawful.consulted,
      lawful.shown, welcomes, ?_, settled, lawful.unsettled⟩
    · exact (congrArg (· + 1) lawful.built).trans size.symm
    · exact attempts.trans (congrArg Nat.toUInt32 size.symm)
    · exact size.trans (congrArg (· + 1) count)
    · rw [handshake]
      exact greetings
    · intro since s phase
      cases phase
  | some client =>
    rw [handshake] at greetings
    refine ⟨lawful.stop, ?_, ?_, ?_, chronological, past, ?_, lawful.history, lawful.consulted,
      lawful.shown, welcomes, ?_, settled, lawful.unsettled⟩
    · exact (congrArg (· + 1) lawful.built).trans size.symm
    · exact attempts.trans (congrArg Nat.toUInt32 size.symm)
    · exact size.trans (congrArg (· + 1) count)
    · rw [handshake]
      refine Eq.trans ?_ (greetingsOf_concat client r.started r.now l.started).symm
      rw [← attempts]
      exact congrArg (· ++ [(r.now, client.request (r.attempts + 1) r.timeSpent)]) greetings
    · intro since s phase
      cases phase

theorem failAttempt_eq (r : Registration α γ θ ρ) (plan : Plan α θ) (fault : AttemptFault)
    (connected : Bool) :
    ∃ h, h = (if connected then r.history.markConnected else r.history).record fault ∧
      r.failAttempt plan fault connected = { r with
        history := h
        consultations := r.consultations ++ [⟨r.now, h, plan.policy h⟩]
        phase := match plan.policy h with
          | none => .ended (.gaveUp ⟨r.attempts, fault⟩) r.now
          | some delay => .resting (r.now + delay.ticks) } := by
  refine ⟨_, rfl, ?_⟩
  unfold failAttempt
  simp only
  split <;> simp [finish, *]

/-- The attempt under way fails. -/
private theorem Lawful.fail (lawful : Lawful plan l r) (attempting : r.phase.inAttempt = true)
    {fault : AttemptFault} {welcome? : Option γ} (told : r.phase.told? = welcome?)
    (connections : List (Connection α γ θ ρ)) :
    Lawful plan (l.record (some fault) welcome?)
      ({ r with connections }.failAttempt plan fault welcome?.isSome) := by
  have lasts := Phase.not_ended_of_inAttempt attempting
  have count := lawful.count
  rw [attempting, if_pos rfl] at count
  obtain ⟨h, recorded, same⟩ := failAttempt_eq { r with connections } plan fault welcome?.isSome
  have history : h = historyOf (l.attempts ++ [⟨some fault, welcome?⟩]) := by
    rw [historyOf_concat, ← lawful.history, recorded]
    rfl
  have size : (l.attempts ++ [(⟨some fault, welcome?⟩ : Attempt γ)]).length =
      l.attempts.length + 1 := by simp
  have consulted : r.consultations.length = l.attempts.length := by
    rw [lawful.consulted, countP_of_failed (lawful.failed lasts)]
  rw [same]
  refine ⟨lawful.stop, lawful.built, lawful.attempts, ?_, lawful.chronological, lawful.past,
    lawful.greetings, history, ?_, ?_, ?_, ?_, ?_, lawful.unsettled_concat lasts _⟩
  · change l.started.length = (l.attempts ++ [_]).length + _
    cases decision : plan.policy h <;> simp [Phase.inAttempt, count]
  · change (r.consultations ++ [_]).length = (l.attempts ++ [_]).countP _
    simp [lawful.consulted]
  · intro k c known
    change (r.consultations ++ [_])[k]? = some c at known
    rw [List.getElem?_append] at known
    change c.history = historyOf ((l.attempts ++ [_]).take (k + 1)) ∧ _
    split at known
    case isTrue before =>
      rw [List.take_append_of_le_length (by omega)]
      exact lawful.shown k c known
    case isFalse new =>
      obtain ⟨last, rfl⟩ := List.getElem?_eq_some_iff.mp known
      simp only [List.length_singleton] at last
      rw [List.take_of_length_le (by omega)]
      simp [history]
  · change r.welcomes.map Prod.snd = welcomesOf (l.attempts ++ [_]) ++ _
    rw [lawful.welcomes, welcomesOf_concat, told, count]
    cases plan.policy h <;> simp [Phase.told?]
  · intro since s phase
    cases decision : plan.policy h <;> simp [decision] at phase
  · change verdict? plan.policy (l.attempts ++ [_]) = _
    rw [verdict_concat, ← history, ← count, ← lawful.attempts]
    cases plan.policy h <;> simp [ending?]

/-- The attempt under way completes. -/
private theorem Lawful.complete (lawful : Lawful plan l r) (attempting : r.phase.inAttempt = true)
    {welcome? : Option γ} (told : r.phase.told? = welcome?)
    (connections : List (Connection α γ θ ρ)) :
    Lawful plan (l.record none welcome?)
      { r with connections, phase := .ended (.completed r.attempts) r.now } := by
  have lasts := Phase.not_ended_of_inAttempt attempting
  have count := lawful.count
  rw [attempting, if_pos rfl] at count
  refine ⟨lawful.stop, lawful.built, lawful.attempts, ?_, lawful.chronological, lawful.past,
    lawful.greetings, ?_, ?_, ?_, ?_, ?_, ?_, lawful.unsettled_concat lasts _⟩
  · change l.started.length = (l.attempts ++ [_]).length + _
    simp [Phase.inAttempt, count]
  · change r.history = historyOf (l.attempts ++ [_])
    rw [historyOf_concat, ← lawful.history]
    rfl
  · change r.consultations.length = (l.attempts ++ [_]).countP _
    simp [lawful.consulted]
  · intro k c known
    have inside : k < l.attempts.length := by
      rw [← countP_of_failed (lawful.failed lasts), ← lawful.consulted]
      exact (List.getElem?_eq_some_iff.mp known).1
    change c.history = historyOf ((l.attempts ++ [_]).take (k + 1)) ∧ _
    rw [List.take_append_of_le_length (by omega)]
    exact lawful.shown k c known
  · change r.welcomes.map Prod.snd = welcomesOf (l.attempts ++ [_]) ++ _
    rw [lawful.welcomes, welcomesOf_concat, told, count]
    simp [Phase.told?]
  · intro since s phase
    cases phase
  · change verdict? plan.policy (l.attempts ++ [_]) = _
    rw [verdict_concat, ← count, ← lawful.attempts]
    rfl

theorem Lifts.unsignalled {x : Session.Action γ θ ρ} {now : Nat} (lifts : Lifts r x a now) :
    x.isSignal = false ∧ x ≠ .event .serve := by
  cases lifts with
  | move m => simp [Session.Action.isSignal]
  | event e allowed => cases e <;> simp [isPrivate, Session.Action.isSignal] at *
  | elapse time => simp [Session.Action.isSignal]

theorem Lifts.later {x : Session.Action γ θ ρ} {now : Nat} (lifts : Lifts r x a now) :
    r.now ≤ now := by
  cases lifts with
  | move | event => exact Nat.le_refl _
  | elapse time later => exact Nat.le_of_lt later

theorem Lifts.note {x : Session.Action γ θ ρ} {now : Nat} (lifts : Lifts r x a now) :
    l.note plan r a = l := by
  cases lifts <;> rfl

theorem Fails.note {fault : AttemptFault} {welcome? : Option γ}
    (fails : Fails plan r a fault welcome?) : l.note plan r a = l.record (some fault) welcome? := by
  cases fails with
  | timeout arguments since limit client greeting handshake => simp [Log.note, handshake]
  | handshake arguments since limit client answer fault greeting handshake unstopped refused =>
    simp [Log.note, handshake, refused]
  | opening => rfl
  | call since time s fault talking finished =>
    simp [Log.note, talking, Session.outcome?, finished, Session.Outcome.fault?]

theorem Fails.inAttempt {fault : AttemptFault} {welcome? : Option γ}
    (fails : Fails plan r a fault welcome?) : r.phase.inAttempt = true := by
  cases fails <;> simp [Phase.inAttempt, *]

/-- What the observer was told is what the failure is recorded with. -/
theorem Fails.told {fault : AttemptFault} {welcome? : Option γ}
    (fails : Fails plan r a fault welcome?) : r.phase.told? = welcome? := by
  cases fails with
  | timeout arguments since limit client greeting => rw [greeting]; rfl
  | handshake arguments since limit client answer fault greeting => rw [greeting]; rfl
  | opening arguments since fault dialing => rw [dialing]; rfl
  | call since time s fault talking finished =>
    rw [talking]
    exact Session.served_eq (by simp [finished])

theorem Lawful.step (lawful : Lawful plan l r) (unstopped : a.isStop = false)
    (effect : Effect plan r a r') : Lawful plan (l.note plan r a) r' := by
  have welcomes := lawful.welcomes
  cases effect with
  | begin ready => exact lawful.begin ready
  | dial arguments since limit client answer result greeting handshake _ agreed =>
    rw [Log.note_agreed handshake agreed]
    refine lawful.keep ⟨rfl, rfl, rfl, rfl, rfl, rfl, rfl⟩ (Nat.le_refl _) ?_ ?_ ?_ ?_
    · rw [greeting]
      rfl
    · rw [greeting] at welcomes
      exact welcomes
    · intro since s phase
      cases phase
    · unfold ending?
      rw [greeting]
  | connect arguments since dialing =>
    refine lawful.keep ⟨rfl, rfl, rfl, rfl, rfl, rfl, rfl⟩ (Nat.le_refl _) ?_ ?_ ?_ ?_
    · rw [dialing]
      rfl
    · rw [dialing] at welcomes
      exact welcomes
    · intro since s phase
      cases phase
      exact .opened ..
    · unfold ending?
      rw [dialing]
      rfl
  | session since now s s' x talking lifts acted =>
    have happened := Session.Effect.of_act acted
    have before := lawful.session since s talking
    obtain ⟨quiet, other⟩ := lifts.unsignalled
    rw [lifts.note]
    rw [talking] at welcomes
    refine lawful.keep ⟨rfl, rfl, rfl, rfl, rfl, rfl, rfl⟩ lifts.later ?_ ?_ ?_ ?_
    · rw [talking]
      rfl
    · refine welcomes.trans ?_
      change _ = welcomesOf l.attempts ++ (s'.served?.map _).toList
      rw [before.served_step other happened]
      rfl
    · intro since' s'' phase
      cases phase
      exact before.step quiet happened
    · unfold ending?
      rw [talking]
  | welcome since s payload talking accepted =>
    have before := lawful.session since s talking
    obtain ⟨untold, told⟩ := before.served_serve plan.terms accepted
    rw [talking] at welcomes
    change r.welcomes.map Prod.snd = welcomesOf l.attempts ++ (s.served?.map _).toList at welcomes
    refine lawful.keep ⟨rfl, rfl, rfl, rfl, rfl, rfl, rfl⟩ (Nat.le_refl _) ?_ ?_ ?_ ?_
    · rw [talking]
      rfl
    · change (r.welcomes ++ [_]).map Prod.snd =
        welcomesOf l.attempts ++ ((s.serve plan.terms).served?.map _).toList
      rw [List.map_append, welcomes, untold, told, lawful.attempts]
      simp
    · intro since' s' phase
      cases phase
      exact before.step rfl (.control (.serve payload accepted))
    · unfold ending?
      rw [talking]
  | fail fault welcome? connections fails =>
    rw [fails.note]
    exact lawful.fail fails.inAttempt fails.told connections
  | complete since time s connections talking finished =>
    have note : l.note plan r (.move .conclude) = l.record none (s.welcome.map Prod.snd) := by
      simp [Log.note, talking, Session.outcome?, finished, Session.Outcome.fault?]
    rw [note]
    refine lawful.complete (by rw [talking]; rfl) ?_ connections
    rw [talking]
    exact Session.served_eq (by simp [finished])
  | cancelled since time s connections talking finished =>
    exact absurd finished ((lawful.session since s talking).uncancelled time)
  | heed connections heeds stopped =>
    rw [lawful.stop] at stopped
    cases stopped
  | wake wake resting =>
    refine lawful.keep ⟨rfl, rfl, rfl, rfl, rfl, rfl, rfl⟩ (Nat.le_refl _) ?_ ?_ ?_ ?_
    · rw [resting]
      rfl
    · rw [resting] at welcomes
      exact welcomes
    · intro since s phase
      cases phase
    · unfold ending?
      rw [resting]
  | elapse time later =>
    exact lawful.keep ⟨rfl, rfl, rfl, rfl, rfl, rfl, rfl⟩ (Nat.le_of_lt later) rfl welcomes
      lawful.session rfl
  | stop => cases unstopped

theorem Lawful.of_run {identifiers : Uuid.Source} {begun : Nat} {actions : List (Action γ θ ρ)}
    (ran : ({ identifiers, now := begun, started := begun } : Registration α γ θ ρ).run plan
      actions = some r)
    (unstopped : ∀ a ∈ actions, a.isStop = false) :
    Lawful plan (({ identifiers, now := begun, started := begun } :
      Registration α γ θ ρ).log plan actions) r :=
  Runs.noted_induction (fun a => a.isStop = false)
    (fun _ _ _ _ quiet lawful acted => lawful.step quiet (.of_act acted))
    (.opened identifiers begun) unstopped ran

end Dialback.Registration
