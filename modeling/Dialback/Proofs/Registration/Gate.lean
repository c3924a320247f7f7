import Dialback.Proofs.Registration.Rounds
import Dialback.Proofs.Session.Invariant

/-!
The handshake is the gate in front of a connection. An attempt has to do with a connection only if
the exchange of that very attempt was answered in time by a runtime that accepts the client and fits
it; otherwise it fails with what the exchange came to, and the failure is counted as one without a
connect.
-/
namespace Dialback.Registration

variable {α γ θ ρ : Type}

/-- One action after another, each as soon as it can be. -/
def runPromptly (r : Registration α γ θ ρ) (plan : Plan α θ) (actions : List (Action γ θ ρ)) :
    Option (Registration α γ θ ρ) :=
  actions.foldlM (fun r a => r.actPromptly plan a) r

/-- What the transport had in store for the handshake of a round, by what was received of it. An
answer that was not received would have come too late, if ever. -/
inductive Round.Reveals (client : Handshake.Client) (e : Round γ θ ρ) : Handshake.Exchange → Prop
  | answer (after : Nat) (answer : Except TransportFault Handshake.Response)
      (heard : e.heard = some (e.since + after, some answer)) :
      Reveals client e ⟨after, some answer⟩
  | silence (time : Nat) (x : Handshake.Exchange) (unheard : e.heard = some (time, none))
      (late : x.answer = none ∨ client.patienceMs.toNat < x.after) : Reveals client e x

structure Gate (plan : Plan α θ) (client : Handshake.Client) (l : List (Round γ θ ρ))
    (r : Registration α γ θ ρ) : Prop where
  /-- Every attempt begins with an exchange of its own. -/
  built : r.built = l.length
  attempts : r.attempts = l.length.toUInt32
  asked : r.greetings.map Prod.fst = l.map Round.since
  admitted : ∀ e ∈ l, e.contact ≠ [] → ∃ time result, e.Admitted client time result
  /-- A connection is asked for whenever a handshake is granted, and at no other time. -/
  dialed : r.dialTimes = l.filterMap (Round.admittedAt? client)
  granted : ∀ e ∈ l, ∀ time, e.admittedAt? client = some time ↔
    ∃ result, e.Admitted client time result
  welcomes : r.welcomes.map (fun w => w.2.1) = welcomed l
  /-- An attempt that was not admitted has failed, unless it still waits for the answer or the
  registration was stopped meanwhile. -/
  otherwise : ∀ (i : Nat) (e : Round γ θ ρ), l[i]? = some e →
    (∀ time result, ¬ e.Admitted client time result) →
    e.TurnedAway plan client r i ∨ i + 1 = l.length ∧ e.Idle ∧
      ((∃ arguments limit, r.phase = .greeting arguments e.since limit) ∨
        ∃ n time, r.phase = .ended (.stopped n) time)
  /-- Any answer is taken while the attempt waits, and it need not wait longer than its limit. -/
  answerable : ∀ arguments since limit, r.phase = .greeting arguments since limit →
    limit = since + client.patienceMs.toNat ∧ (r.stop = none →
      (∀ answer, (r.act plan (.event (.greeted answer))).isSome = true) ∧
      (limit ≤ r.now → (r.act plan (.move .giveUpGreeting)).isSome = true))

/-- What holds besides if everything is done as soon as it can be. -/
structure Timely (client : Handshake.Client) (l : List (Round γ θ ρ))
    (r : Registration α γ θ ρ) : Prop where
  inTime : ∀ e ∈ l, ∀ time answer?, e.heard = some (time, answer?) →
    time ≤ e.since + client.patienceMs.toNat
  waits : ∀ arguments since limit, r.phase = .greeting arguments since limit → r.now ≤ limit
  /-- Every handshake comes out as the client's own procedure has it, and when it has it. -/
  admitted : ∀ e ∈ l, ∀ x, e.Reveals client x → ∀ time result, e.Admitted client time result →
    client.perform x = (time - e.since, .ok result)
  failed : ∀ e ∈ l, ∀ x, e.Reveals client x → ∀ time fault, e.Fails client time fault →
    client.perform x = (time - e.since, .error fault)

/-- What is known of the rounds at every moment. -/
structure Gated (plan : Plan α θ) (client : Handshake.Client) (l : Rounds γ θ ρ)
    (r : Registration α γ θ ρ) : Prop where
  numbered : Numbered l r
  sorted : Sorted plan client l r
  dialed : r.dialTimes = l.all.filterMap (Round.admittedAt? client)
  welcomes : r.welcomes.map (fun w => w.2.1) = welcomed l.all

/-- Besides, no wait for an answer has lasted too long. -/
structure Patient (plan : Plan α θ) (client : Handshake.Client) (l : Rounds γ θ ρ)
    (r : Registration α γ θ ρ) : Prop where
  gated : Gated plan client l r
  heard : ∀ e ∈ l.all, ∀ time answer?, e.heard = some (time, answer?) →
    time ≤ e.since + client.patienceMs.toNat
  waits : ∀ arguments since limit, r.phase = .greeting arguments since limit → r.now ≤ limit

variable {plan : Plan α θ} {client : Handshake.Client} {l : Rounds γ θ ρ} {e : Round γ θ ρ}
  {r r' : Registration α γ θ ρ} {a : Action γ θ ρ}

/-! Steps. -/

theorem Effect.greets {answer : Except TransportFault Handshake.Response}
    (effect : Effect plan r (.event (.greeted answer)) r') :
    ∃ arguments since limit, r.phase = .greeting arguments since limit := by
  cases effect with
  | dial arguments since limit other answer result greeting => exact ⟨_, _, _, greeting⟩
  | fail fault welcome? connections fails =>
    cases fails with
    | handshake arguments since limit other answer fault greeting => exact ⟨_, _, _, greeting⟩
  | session since now s s' x talking lifts => cases lifts
  | heed connections heeds => cases heeds

theorem Effect.givesUp (effect : Effect plan r (.move .giveUpGreeting) r') :
    ∃ arguments since limit, r.phase = .greeting arguments since limit := by
  cases effect with
  | fail fault welcome? connections fails =>
    cases fails with
    | timeout arguments since limit other greeting => exact ⟨_, _, _, greeting⟩
  | session since now s s' x talking lifts => cases lifts
  | heed connections heeds => cases heeds

theorem Effect.serves (effect : Effect plan r a r') (welcome : a.isWelcome = true) :
    r.phase.inAttempt = true := by
  cases effect with
  | welcome since s payload talking => rw [talking]; rfl
  | session since now s s' x talking => rw [talking]; rfl
  | fail fault welcome? connections fails => exact fails.inAttempt
  | heed connections heeds => cases heeds <;> cases welcome
  | begin | dial | connect | complete | cancelled | wake | elapse | stop => cases welcome

/-- A round is noted to be admitted when the registration goes on to a connection. -/
theorem Sorted.dialed_note (sorted : Sorted plan client l r) (effect : Effect plan r a r') :
    (l.note r a).all.filterMap (Round.admittedAt? client) =
      l.all.filterMap (Round.admittedAt? client) ++ (r.admits? client a).toList := by
  unfold Rounds.note
  split
  case h_1 =>
    split
    · simp [Rounds.all_begin, admits?, Round.admittedAt?]
    · simp [admits?]
  case h_2 answer =>
    obtain ⟨arguments, since, limit, greeting⟩ := effect.greets
    obtain ⟨e, here, _, _, _, idle⟩ := sorted.greeting greeting
    rw [Rounds.onCurrent_all_of here, Rounds.all_of_current here]
    have heard : (e.hear r.now (some answer)).admittedAt? client =
        (client.conclude answer).toOption.map fun _ => r.now := rfl
    cases agreed : (client.conclude answer).toOption <;>
      simp [admits?, idle.admittedAt, heard, agreed]
  case h_3 =>
    obtain ⟨arguments, since, limit, greeting⟩ := effect.givesUp
    obtain ⟨e, here, _, _, _, idle⟩ := sorted.greeting greeting
    rw [Rounds.onCurrent_all_of here, Rounds.all_of_current here]
    have heard : (e.hear r.now none).admittedAt? client = none := rfl
    simp [admits?, idle.admittedAt, heard]
  case h_4 start greeted givesUp =>
    have same : (l.onCurrent fun e => e.touch a).all.map (Round.admittedAt? client) =
        l.all.map (Round.admittedAt? client) :=
      Rounds.onCurrent_same fun _ => Round.touch_admittedAt
    have none : r.admits? client a = none := by
      unfold admits?
      split
      · exact absurd rfl (greeted _)
      · rfl
    rw [none, Option.toList_none, List.append_nil]
    simpa [List.filterMap_map] using congrArg (List.filterMap id) same

/-- The welcome of an attempt is noted in its own round. -/
theorem Gated.welcomes_note (gated : Gated plan client l r) (effect : Effect plan r a r') :
    welcomed (l.note r a).all = welcomed l.all ++ if a.isWelcome then [r.attempts] else [] := by
  unfold Rounds.note
  split
  case h_1 =>
    split
    · simp [Rounds.all_begin, welcomed_concat, Action.isWelcome]
    · simp [Action.isWelcome]
  case h_2 | h_3 =>
    cases here : l.current with
    | none => simp [Rounds.all, Rounds.onCurrent, here, Action.isWelcome]
    | some e =>
      rw [Rounds.onCurrent_all_of here, Rounds.all_of_current here, welcomed_concat,
        welcomed_concat]
      simp [Round.hear, Action.isWelcome]
  case h_4 =>
    cases here : l.current with
    | none =>
      have other : a.isWelcome = false := by
        by_contra welcome
        exact gated.sorted.begun (effect.serves (by simpa using welcome)) here
      simp [Rounds.all, Rounds.onCurrent, here, other]
    | some e =>
      have number : r.attempts = (l.past.length + 1).toUInt32 := by
        simp [gated.numbered.attempts, Rounds.all_of_current here]
      rw [Rounds.onCurrent_all_of here, Rounds.all_of_current here, welcomed_concat,
        welcomed_concat, Round.touch_welcomes, number]
      cases a.isWelcome <;> simp

theorem Gated.step (gated : Gated plan client l r) (handshake : plan.handshake = some client)
    (effect : Effect plan r a r') : Gated plan client (l.note r a) r' where
  numbered := gated.numbered.step handshake effect
  sorted := gated.sorted.step handshake effect
  dialed := by rw [effect.dialTimes handshake, gated.sorted.dialed_note effect, gated.dialed]
  welcomes := by rw [effect.welcomes, gated.welcomes_note effect, gated.welcomes]

theorem Gated.opened (identifiers : Uuid.Source) (begun : Nat) :
    Gated plan client {} ({ identifiers, now := begun, started := begun } :
      Registration α γ θ ρ) where
  numbered := ⟨rfl, rfl, rfl⟩
  sorted := by
    refine ⟨?_, ?_, ?_, fun _ => rfl, rfl⟩
    · intro i e known
      cases known
    · intro e known
      cases known
    · intro attempting
      cases attempting
  dialed := rfl
  welcomes := rfl

theorem Gated.of_run {identifiers : Uuid.Source} {begun : Nat} {actions : List (Action γ θ ρ)}
    (handshake : plan.handshake = some client)
    (ran : ({ identifiers, now := begun, started := begun } : Registration α γ θ ρ).run plan
      actions = some r) :
    Gated plan client (({ identifiers, now := begun, started := begun } :
      Registration α γ θ ρ).rounds plan actions) r :=
  Runs.noted_induction (fun _ => True)
    (fun _ _ _ _ _ gated acted => gated.step handshake (.of_act acted))
    (.opened identifiers begun) (fun _ _ => trivial) ran

/-! What the rounds amount to. -/

/-- A round is settled, unless it is the last one and nothing has happened in it. -/
theorem Sorted.fate (sorted : Sorted plan client l r) {i : Nat} (known : l.all[i]? = some e) :
    e.Settled plan client r i ∨ i + 1 = l.all.length ∧ e.Idle ∧
      ((∃ arguments limit, r.phase = .greeting arguments e.since limit) ∨
        ∃ n time, r.phase = .ended (.stopped n) time) := by
  rcases Rounds.of_all known with before | ⟨rfl, here⟩
  · exact .inl (sorted.past i e before)
  · have size : l.past.length + 1 = l.all.length := by simp [Rounds.all_of_current here]
    have stands := sorted.current e here
    unfold Round.Stands at stands
    split at stands
    case h_1 arguments since limit greeting =>
      obtain ⟨rfl, _, _, idle⟩ := stands
      exact .inr ⟨size, idle, .inl ⟨arguments, limit, greeting⟩⟩
    case h_2 | h_3 => exact .inl (.inl stands)
    case h_4 n time stopped =>
      rcases stands with settled | idle
      · exact .inl settled
      · exact .inr ⟨size, idle, .inr ⟨n, time, stopped⟩⟩
    case h_5 => exact .inl stands

/-- No answer comes before the request. -/
theorem Sorted.later (sorted : Sorted plan client l r) {i time : Nat}
    {answer : Except TransportFault Handshake.Response} (known : l.all[i]? = some e)
    (heard : e.heard = some (time, some answer)) : e.since ≤ time := by
  rcases sorted.fate known with (⟨_, _, admitted⟩ | ⟨_, _, _, fails, _⟩) | ⟨_, idle, _⟩
  · cases heard.symm.trans admitted.heard
    exact admitted.later
  · cases fails with
    | timeout unheard => cases heard.symm.trans unheard
    | answered answer' fault heard' later =>
      cases heard.symm.trans heard'
      exact later
  · cases heard.symm.trans idle.heard

theorem Gated.gate (gated : Gated plan client l r) (handshake : plan.handshake = some client) :
    Gate plan client l.all r where
  built := gated.numbered.built
  attempts := gated.numbered.attempts
  asked := gated.numbered.asked
  admitted := by
    intro e member contact
    obtain ⟨i, known⟩ := List.mem_iff_getElem?.mp member
    rcases gated.sorted.fate known with (admitted | turned) | ⟨_, idle, _⟩
    · exact admitted
    · exact absurd turned.contact contact
    · exact absurd idle.contact contact
  dialed := gated.dialed
  granted := by
    intro e member time
    rw [Round.admittedAt_eq_some]
    refine ⟨?_, fun ⟨result, admitted⟩ => ⟨result, admitted.heard, admitted.fits⟩⟩
    rintro ⟨result, heard, fits⟩
    obtain ⟨i, known⟩ := List.mem_iff_getElem?.mp member
    exact ⟨result, heard, gated.sorted.later known heard, fits⟩
  welcomes := gated.welcomes
  otherwise := by
    intro i e known refused
    rcases gated.sorted.fate known with (⟨time, result, admitted⟩ | turned) | waits
    · exact absurd admitted (refused time result)
    · exact .inl turned
    · exact .inr waits
  answerable := by
    intro arguments since limit greeting
    obtain ⟨_, _, _, _, limited, _⟩ := gated.sorted.greeting greeting
    refine ⟨limited, fun unstopped => ⟨fun answer => ?_, fun late => ?_⟩⟩
    · simp [act, receive, greeting, handshake, unstopped]
    · simp [act, advance, greeting, handshake, unstopped, late]

/-! Promptness. -/

theorem act_of_promptly (acted : r.actPromptly plan a = some r') :
    r.act plan a = some r' ∧
      ∀ time, a = .event (.elapse time) → ∀ limit, r.limit? = some limit → time ≤ limit := by
  unfold actPromptly at acted
  split at acted
  case h_1 time =>
    split at acted
    case isTrue waits =>
      simp only [mayWait, Bool.and_eq_true, Option.all_eq_true, decide_eq_true_eq] at waits
      refine ⟨acted, ?_⟩
      rintro _ ⟨⟩
      exact waits.1.2
    case isFalse => cases acted
  case h_2 other => exact ⟨acted, fun time same => absurd same (other time)⟩

/-- An answer and the end of the wait are noted while the registration greets. -/
private theorem Patient.hear (patient : Patient plan client l r) {arguments : ConnectArguments α}
    {since limit : Nat} (greeting : r.phase = .greeting arguments since limit)
    (heard? : Option (Except TransportFault Handshake.Response)) :
    ∀ e ∈ (l.onCurrent fun e => e.hear r.now heard?).all, ∀ time answer?,
      e.heard = some (time, answer?) → time ≤ e.since + client.patienceMs.toNat := by
  obtain ⟨last, here, began, _, limited, _⟩ := patient.gated.sorted.greeting greeting
  have inTime := patient.waits arguments since limit greeting
  intro e member time answer? heard
  rw [Rounds.onCurrent_all_of here] at member
  rcases List.mem_append.mp member with before | now
  · exact patient.heard e (List.mem_append_left _ before) time answer? heard
  · cases List.mem_singleton.mp now
    cases heard
    rw [Round.hear_since]
    omega

/-- An action in which no wait ends leaves what was noted of the others. -/
private theorem Patient.touch (patient : Patient plan client l r) (a : Action γ θ ρ) :
    ∀ e ∈ (l.onCurrent fun e => e.touch a).all, ∀ time answer?,
      e.heard = some (time, answer?) → time ≤ e.since + client.patienceMs.toNat := by
  intro e member time answer? heard
  rcases List.mem_append.mp member with before | now
  · exact patient.heard e (List.mem_append_left _ before) time answer? heard
  · obtain ⟨last, here, rfl⟩ := Option.map_eq_some_iff.mp (Option.mem_toList.mp now)
    rw [Round.touch_heard] at heard
    rw [Round.touch_since]
    have known : last ∈ l.all := by simp [Rounds.all_of_current here]
    exact patient.heard last known time answer? heard

theorem Patient.step (patient : Patient plan client l r)
    (handshake : plan.handshake = some client) (effect : Effect plan r a r')
    (prompt : ∀ time, a = .event (.elapse time) → ∀ limit, r.limit? = some limit → time ≤ limit) :
    Patient plan client (l.note r a) r' where
  gated := patient.gated.step handshake effect
  heard := by
    unfold Rounds.note
    split
    case h_1 =>
      split
      case isTrue =>
        intro e member time answer? heard
        rcases List.mem_append.mp member with before | now
        · exact patient.heard e before time answer? heard
        · cases List.mem_singleton.mp now
          cases heard
      case isFalse => exact patient.heard
    case h_2 answer =>
      obtain ⟨arguments, since, limit, greeting⟩ := effect.greets
      exact patient.hear greeting (some answer)
    case h_3 =>
      obtain ⟨arguments, since, limit, greeting⟩ := effect.givesUp
      exact patient.hear greeting none
    case h_4 => exact patient.touch a
  waits := by
    intro arguments since limit greeting
    cases effect with
    | begin =>
      simp only [startAttempt, handshake, Phase.greeting.injEq] at greeting
      simp [startAttempt, handshake, ← greeting.2.2]
    | elapse time => exact prompt time rfl limit (by simp only [limit?]; rw [greeting])
    | stop =>
      have before : r.phase = .greeting arguments since limit := by
        cases phase : r.phase <;> simp [onStop, phase] at greeting ⊢
        exact greeting
      exact patient.waits arguments since limit before
    | fail fault welcome? connections =>
      obtain ⟨h, _, same⟩ := failAttempt_eq { r with connections } plan fault welcome?.isSome
      rw [same] at greeting
      cases decision : plan.policy h <;> simp [decision] at greeting
    | dial | connect | session | welcome | complete | cancelled | heed | wake => cases greeting

theorem Patient.opened (identifiers : Uuid.Source) (begun : Nat) :
    Patient plan client {} ({ identifiers, now := begun, started := begun } :
      Registration α γ θ ρ) where
  gated := .opened identifiers begun
  heard e member := by cases member
  waits arguments since limit greeting := by cases greeting

theorem Patient.timely (patient : Patient plan client l r) : Timely client l.all r where
  inTime := patient.heard
  waits := patient.waits
  admitted := by
    intro e member x reveals time result admitted
    have inTime := patient.heard e member _ _ admitted.heard
    have agreed := Handshake.Client.conclude_eq_ok.mpr ⟨rfl, admitted.fits⟩
    cases reveals with
    | answer after answer heard =>
      rw [admitted.heard] at heard
      cases heard
      rw [Handshake.Client.perform_of_inTime rfl (by simpa using inTime), agreed]
      simp
    | silence time x unheard =>
      rw [admitted.heard] at unheard
      cases unheard
  failed := by
    intro e member x reveals time fault fails
    cases fails with
    | timeout unheard late =>
      have inTime := patient.heard e member _ _ unheard
      cases reveals with
      | answer after answer heard =>
        rw [unheard] at heard
        cases heard
      | silence time' x unheard' never =>
        have due : time - e.since = client.patienceMs.toNat := by omega
        rw [Handshake.Client.perform_of_late never, due]
    | answered answer fault heard later rejects =>
      have inTime := patient.heard e member _ _ heard
      have refused := Handshake.Client.conclude_eq_error.mpr rejects
      cases reveals with
      | answer after answer' heard' =>
        rw [heard] at heard'
        cases heard'
        rw [Handshake.Client.perform_of_inTime rfl (by simpa using inTime), refused]
        simp
      | silence time' x unheard =>
        rw [heard] at unheard
        cases unheard

theorem Patient.of_promptly {identifiers : Uuid.Source} {begun : Nat}
    {actions : List (Action γ θ ρ)} (handshake : plan.handshake = some client)
    (ran : ({ identifiers, now := begun, started := begun } :
      Registration α γ θ ρ).runPromptly plan actions = some r) :
    Patient plan client (({ identifiers, now := begun, started := begun } :
      Registration α γ θ ρ).rounds plan actions) r := by
  have step : ∀ (l : Rounds γ θ ρ) (m : Registration α γ θ ρ) (a : Action γ θ ρ)
      (m' : Registration α γ θ ρ), Patient plan client l m → m.actPromptly plan a = some m' →
      Patient plan client (l.note m a) m' := by
    intro l m a m' patient acted
    obtain ⟨done, prompt⟩ := act_of_promptly acted
    exact patient.step handshake (.of_act done) prompt
  exact Runs.narrower_induction (fun _ _ _ acted => (act_of_promptly acted).1) step
    (.opened identifiers begun) ran

/-- In every run of a registration that greets, whatever its handshakes are answered. -/
theorem handshake_gate {identifiers : Uuid.Source} {begun : Nat} {actions : List (Action γ θ ρ)}
    (handshake : plan.handshake = some client)
    (ran : ({ identifiers, now := begun, started := begun } : Registration α γ θ ρ).run plan
      actions = some r) :
    Gate plan client (({ identifiers, now := begun, started := begun } :
      Registration α γ θ ρ).rounds plan actions).all r ∧
    (({ identifiers, now := begun, started := begun } : Registration α γ θ ρ).runPromptly plan
      actions = some r →
      Timely client (({ identifiers, now := begun, started := begun } :
        Registration α γ θ ρ).rounds plan actions).all r) :=
  ⟨(Gated.of_run handshake ran).gate handshake,
    fun promptly => (Patient.of_promptly handshake promptly).timely⟩

def visitor : Handshake.Client where
  identity := ⟨"visitor", .release 1 0 0, .release 2 3 1⟩
  patienceMs := 100

def visit : Plan String Nat where
  processor := Uuid.null
  execution := .standard Uuid.null
  terms := Session.exchangeTerms
  handshake := some visitor
  policy _ := some .zero
  arguments _ _ := { payload := "hello" }

/-- The runtime implements this version of the contracts. -/
def implementing (version : Version) : Except TransportFault Handshake.Response :=
  .ok (.accepted ⟨.release 9 0 0, version, Uuid.null, "test"⟩)

/-- Silence, a broken transport, a refusal, an older minor version and a newer major version; then
a runtime that fits the client, though of an older patch. -/
def visits : List (Action String Nat String) :=
  [.move .start, .event (.elapse 100), .move .giveUpGreeting, .move .wake, .move .start,
    .event (.greeted (.error .closed)), .move .wake, .move .start,
    .event (.greeted (.ok (.refused ⟨Uuid.null, "full"⟩))), .move .wake, .move .start,
    .event (.greeted (implementing (.release 2 2 9))), .move .wake, .move .start,
    .event (.greeted (implementing (.release 3 3 1))), .move .wake, .move .start,
    .event (.elapse 200), .event (.greeted (implementing (.release 2 3 0))), .event .opened,
    .event (.session .introduced),
    .event (.session (.arrive (.message (.connectResponse (.accepted "welcome"))))),
    .move (.session .readFirst), .move .welcome]

theorem handshake_gate_visits :
    ∃ r : Registration String String Nat String,
      ({ identifiers := ⟨1⟩ } : Registration String String Nat String).run visit visits =
        some r ∧
      ({ identifiers := ⟨1⟩ } : Registration String String Nat String).runPromptly visit visits =
        some r ∧
      r.dialTimes = [200] ∧ r.welcomes = [(200, 6, "welcome")] ∧
      r.history.recent = [.handshake (.timeout visitor.patience), .handshake (.transport .closed),
        .handshake (.refused ⟨Uuid.null, "full"⟩),
        .handshake (.incompatible (.release 2 3 1) (.release 2 2 9)),
        .handshake (.incompatible (.release 2 3 1) (.release 3 3 1))] ∧
      r.history.sinceConnected = 5 ∧
      Gate visit visitor (({ identifiers := ⟨1⟩ } :
        Registration String String Nat String).rounds visit visits).all r ∧
      Timely visitor (({ identifiers := ⟨1⟩ } :
        Registration String String Nat String).rounds visit visits).all r :=
  ⟨_, rfl, rfl, rfl, rfl, rfl, rfl, (handshake_gate rfl rfl).imp_right fun timely => timely rfl⟩

end Dialback.Registration
