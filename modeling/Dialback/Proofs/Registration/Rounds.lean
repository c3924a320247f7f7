import Dialback.Proofs.Handshake.Verdict
import Dialback.Proofs.Registration.Connections

/-!
The rounds of a registration that greets: attempt by attempt, what its handshake was answered and
what was done about a connection. Whatever the answers are and whether or not the registration is
stopped, a round whose handshake was not granted has nothing to do with any connection; it has
failed, unless it still waits or the registration was stopped while it waited.
-/
namespace Dialback.Registration

variable {α γ θ ρ : Type}

/-- The action is taken on a connection, or is the answer to the request for one. -/
def Action.isContact : Action γ θ ρ → Bool
  | .event .opened | .event (.openingFailed _) | .event (.session _) | .move (.session _)
  | .move .welcome | .move .conclude => true
  | _ => false

def Action.isWelcome : Action γ θ ρ → Bool
  | .move .welcome => true
  | _ => false

/-- One attempt. -/
structure Round (γ θ ρ : Type) where
  since : Nat
  /-- When the wait for an answer to its handshake was over, and the answer if there was one. -/
  heard : Option (Nat × Option (Except TransportFault Handshake.Response)) := none
  /-- What was done about its connection. -/
  contact : List (Action γ θ ρ) := []

namespace Round

def hear (e : Round γ θ ρ) (time : Nat)
    (answer? : Option (Except TransportFault Handshake.Response)) : Round γ θ ρ :=
  { e with heard := some (time, answer?) }

def touch (e : Round γ θ ρ) (a : Action γ θ ρ) : Round γ θ ρ :=
  if a.isContact then { e with contact := e.contact ++ [a] } else e

/-- The handshake of this round was granted with this result at this time. -/
structure Admitted (client : Handshake.Client) (e : Round γ θ ρ) (time : Nat)
    (result : Handshake.Result) : Prop where
  heard : e.heard = some (time, some (.ok (.accepted result)))
  later : e.since ≤ time
  fits : Handshake.Fits client.identity.contractsVersion result.contractsVersion

/-- How the handshake of a round fails, and when that is known. -/
inductive Fails (client : Handshake.Client) (e : Round γ θ ρ) (time : Nat) :
    HandshakeFault → Prop
  | timeout (unheard : e.heard = some (time, none))
      (late : e.since + client.patienceMs.toNat ≤ time) :
      Fails client e time (.timeout client.patience)
  | answered (answer : Except TransportFault Handshake.Response) (fault : HandshakeFault)
      (heard : e.heard = some (time, some answer)) (later : e.since ≤ time)
      (rejects : client.Rejects answer fault) : Fails client e time fault

/-- When the handshake of a round was granted, if it was. -/
def admittedAt? (client : Handshake.Client) (e : Round γ θ ρ) : Option Nat :=
  match e.heard with
  | some (time, some answer) => (client.conclude answer).toOption.map fun _ => time
  | _ => none

/-- Nothing has happened in this round. -/
structure Idle (e : Round γ θ ρ) : Prop where
  heard : e.heard = none
  contact : e.contact = []

end Round

structure Rounds (γ θ ρ : Type) where
  past : List (Round γ θ ρ) := []
  /-- The last one. -/
  current : Option (Round γ θ ρ) := none

namespace Rounds

def all (l : Rounds γ θ ρ) : List (Round γ θ ρ) :=
  l.past ++ l.current.toList

def begin (l : Rounds γ θ ρ) (time : Nat) : Rounds γ θ ρ where
  past := l.all
  current := some { since := time }

def onCurrent (l : Rounds γ θ ρ) (f : Round γ θ ρ → Round γ θ ρ) : Rounds γ θ ρ :=
  { l with current := l.current.map f }

def note (l : Rounds γ θ ρ) (r : Registration α γ θ ρ) : Action γ θ ρ → Rounds γ θ ρ
  | .move .start => if r.stop.isNone then l.begin r.now else l
  | .event (.greeted answer) => l.onCurrent fun e => e.hear r.now (some answer)
  | .move .giveUpGreeting => l.onCurrent fun e => e.hear r.now none
  | a => l.onCurrent fun e => e.touch a

end Rounds

/-- The rounds of a run that begins in `r`. -/
def rounds (r : Registration α γ θ ρ) (plan : Plan α θ) (actions : List (Action γ θ ρ)) :
    Rounds γ θ ρ :=
  Runs.noted (fun r a => r.act plan a) Rounds.note {} r actions

/-- When the connection of the attempt under way was asked for. -/
def Phase.dialedAt? : Phase α γ θ ρ → Option Nat
  | dialing _ since | talking since _ => some since
  | _ => none

/-- When connections were asked for. -/
def dialTimes (r : Registration α γ θ ρ) : List Nat :=
  r.connections.map Connection.time ++ r.phase.dialedAt?.toList

/-- The attempts of whose connect response the observer was told. -/
def welcomed (l : List (Round γ θ ρ)) : List UInt32 :=
  l.zipIdx.flatMap fun (e, i) => (e.contact.filter Action.isWelcome).map fun _ => (i + 1).toUInt32

/-- The history of failures behind the attempts before this one. -/
def historyBefore (r : Registration α γ θ ρ) : Nat → Retry.History
  | 0 => .empty
  | i + 1 => (r.consultations[i]?.map Consultation.history).getD .empty

/-- Attempt `i` was put to the policy as one that failed without a connect. -/
structure Recorded (plan : Plan α θ) (r : Registration α γ θ ρ) (i : Nat) (c : Consultation)
    (fault : AttemptFault) : Prop where
  consulted : r.consultations[i]? = some c
  history : c.history = (r.historyBefore i).record fault
  total : c.history.total = Retry.bump (r.historyBefore i).total
  /-- The failures since the last connect go on being counted. -/
  sinceConnected : c.history.sinceConnected = Retry.bump (r.historyBefore i).sinceConnected
  last : c.history.last? = some fault
  decision : c.decision = plan.policy c.history
  gaveUp : c.decision = none → r.ending? = some (.gaveUp ⟨r.attempts, fault⟩, c.time)

/-- Round `i` has failed with its handshake. -/
structure Round.TurnedAway (plan : Plan α θ) (client : Handshake.Client)
    (r : Registration α γ θ ρ) (i : Nat) (e : Round γ θ ρ) : Prop where
  contact : e.contact = []
  failed : ∃ c fault, e.Fails client c.time fault ∧ Recorded plan r i c (.handshake fault)

def Round.Settled (plan : Plan α θ) (client : Handshake.Client) (r : Registration α γ θ ρ)
    (i : Nat) (e : Round γ θ ρ) : Prop :=
  (∃ time result, e.Admitted client time result) ∨ e.TurnedAway plan client r i

/-- How the last round stands. -/
def Round.Stands (plan : Plan α θ) (client : Handshake.Client) (r : Registration α γ θ ρ)
    (i : Nat) (e : Round γ θ ρ) : Prop :=
  match r.phase with
  | .greeting _ since limit =>
    e.since = since ∧ since ≤ r.now ∧ limit = since + client.patienceMs.toNat ∧ e.Idle
  | .dialing _ _ | .talking _ _ => ∃ time result, e.Admitted client time result
  | .ended (.stopped _) _ => e.Settled plan client r i ∨ e.Idle
  | _ => e.Settled plan client r i

/-- What is counted of the rounds. -/
structure Numbered (l : Rounds γ θ ρ) (r : Registration α γ θ ρ) : Prop where
  built : r.built = l.all.length
  attempts : r.attempts = l.all.length.toUInt32
  asked : r.greetings.map Prod.fst = l.all.map Round.since

/-- What has become of the rounds. -/
structure Sorted (plan : Plan α θ) (client : Handshake.Client) (l : Rounds γ θ ρ)
    (r : Registration α γ θ ρ) : Prop where
  past : ∀ (i : Nat) (e : Round γ θ ρ), l.past[i]? = some e → e.Settled plan client r i
  current : ∀ e, l.current = some e → e.Stands plan client r l.past.length
  begun : r.phase.inAttempt = true → l.current ≠ none
  counted : r.ending? = none → r.consultations.length =
    if r.phase.inAttempt then l.past.length else l.all.length
  history : r.history = r.historyBefore r.consultations.length

variable {plan : Plan α θ} {client : Handshake.Client} {l : Rounds γ θ ρ} {e : Round γ θ ρ}
  {r r' : Registration α γ θ ρ} {a : Action γ θ ρ} {i : Nat}

/-! Rounds. -/

@[simp] theorem Round.hear_since (time : Nat)
    (answer? : Option (Except TransportFault Handshake.Response)) :
    (e.hear time answer?).since = e.since := rfl

@[simp] theorem Round.touch_since : (e.touch a).since = e.since := by
  unfold touch
  split <;> rfl

@[simp] theorem Round.touch_heard : (e.touch a).heard = e.heard := by
  unfold touch
  split <;> rfl

theorem Round.touch_of_not (aloof : a.isContact = false) : e.touch a = e := by
  simp [touch, aloof]

theorem Round.touch_welcomes :
    (e.touch a).contact.filter Action.isWelcome =
      e.contact.filter Action.isWelcome ++ if a.isWelcome then [a] else [] := by
  unfold touch
  cases welcome : a.isWelcome with
  | false => split <;> simp [welcome]
  | true =>
    have contact : a.isContact = true := by
      unfold Action.isWelcome at welcome
      split at welcome
      · rfl
      · cases welcome
    simp [contact, welcome]

@[simp] theorem Round.touch_admittedAt : (e.touch a).admittedAt? client = e.admittedAt? client := by
  simp [admittedAt?]

theorem Round.Idle.admittedAt (idle : e.Idle) : e.admittedAt? client = none := by
  simp [admittedAt?, idle.heard]

theorem Round.Admitted.touch {time : Nat} {result : Handshake.Result}
    (admitted : e.Admitted client time result) : (e.touch a).Admitted client time result := by
  obtain ⟨heard, later, fits⟩ := admitted
  exact ⟨by simpa using heard, by simpa using later, fits⟩

theorem Round.admittedAt_eq_some {time : Nat} : e.admittedAt? client = some time ↔
    ∃ result, e.heard = some (time, some (.ok (.accepted result))) ∧
      Handshake.Fits client.identity.contractsVersion result.contractsVersion := by
  constructor
  · intro known
    unfold admittedAt? at known
    split at known
    case h_1 time' answer heard =>
      cases concluded : client.conclude answer with
      | error fault => simp [concluded, Except.toOption] at known
      | ok result =>
        obtain ⟨rfl, fits⟩ := Handshake.Client.conclude_eq_ok.mp concluded
        simp only [concluded, Except.toOption, Option.map_some, Option.some.injEq] at known
        exact ⟨result, known ▸ heard, fits⟩
    case h_2 => cases known
  · rintro ⟨result, heard, fits⟩
    have agreed := Handshake.Client.conclude_eq_ok.mpr ⟨rfl, fits⟩
    simp [admittedAt?, heard, agreed, Except.toOption]

theorem Rounds.all_begin (time : Nat) : (l.begin time).all = l.all ++ [{ since := time }] := rfl

theorem Rounds.all_of_current (here : l.current = some e) : l.all = l.past ++ [e] := by
  simp [all, here]

theorem Rounds.of_all (known : l.all[i]? = some e) :
    l.past[i]? = some e ∨ i = l.past.length ∧ l.current = some e := by
  rw [all, List.getElem?_append] at known
  split at known
  case isTrue => exact .inl known
  case isFalse beyond =>
    cases here : l.current with
    | none => simp [here] at known
    | some last =>
      rw [here, Option.toList_some, List.getElem?_singleton] at known
      split at known
      · exact .inr ⟨by omega, known⟩
      · cases known

theorem Rounds.onCurrent_all_of (here : l.current = some e) (f : Round γ θ ρ → Round γ θ ρ) :
    (l.onCurrent f).all = l.past ++ [f e] := by
  simp [all, onCurrent, here]

theorem Rounds.onCurrent_length (f : Round γ θ ρ → Round γ θ ρ) :
    (l.onCurrent f).all.length = l.all.length := by
  cases here : l.current <;> simp [all, onCurrent, here]

/-- What is noted of the last round leaves it where it is. -/
theorem Rounds.onCurrent_same {β : Type} {f : Round γ θ ρ → Round γ θ ρ} {g : Round γ θ ρ → β}
    (same : ∀ e, g (f e) = g e) : (l.onCurrent f).all.map g = l.all.map g := by
  cases here : l.current with
  | none => simp [all, onCurrent, here]
  | some e => simp [all, onCurrent, here, same]

theorem Rounds.onCurrent_touch (aloof : a.isContact = false) :
    (l.onCurrent fun e => e.touch a) = l := by
  obtain ⟨past, current⟩ := l
  cases current <;> simp [onCurrent, Round.touch_of_not aloof]

theorem Rounds.note_since (waits : a = .move .start → r.stop.isNone = false) :
    (l.note r a).all.map Round.since = l.all.map Round.since := by
  unfold note
  split
  case h_1 => rw [waits rfl]; rfl
  case h_2 | h_3 => exact onCurrent_same fun _ => rfl
  case h_4 => exact onCurrent_same fun _ => Round.touch_since

theorem welcomed_concat (before : List (Round γ θ ρ)) (e : Round γ θ ρ) :
    welcomed (before ++ [e]) = welcomed before ++
      (e.contact.filter Action.isWelcome).map fun _ => (before.length + 1).toUInt32 := by
  simp [welcomed, List.zipIdx_append]

/-! What an action adds to the accounts of a registration. -/

/-- Only the start of an attempt asks for anything anew. -/
theorem Effect.begins (effect : Effect plan r a r') :
    (a = .move .start ∧ r.phase = .ready ∧ r.stop = none ∧ r' = r.startAttempt plan) ∨
    ((a = .move .start → r.stop.isNone = false) ∧ r'.built = r.built ∧
      r'.attempts = r.attempts ∧ r'.greetings = r.greetings) := by
  cases effect with
  | begin ready unstopped => exact .inl ⟨rfl, ready, unstopped, rfl⟩
  | fail fault welcome? connections fails =>
    obtain ⟨h, _, same⟩ := failAttempt_eq { r with connections } plan fault welcome?.isSome
    rw [same]
    refine .inr ⟨?_, rfl, rfl, rfl⟩
    rintro rfl
    cases fails
  | session since now s s' x talking lifts =>
    refine .inr ⟨?_, rfl, rfl, rfl⟩
    rintro rfl
    cases lifts
  | heed connections heeds stopped =>
    refine .inr ⟨fun _ => ?_, rfl, rfl, rfl⟩
    cases stop : r.stop with
    | none => simp [stop] at stopped
    | some time => rfl
  | dial | connect | welcome | complete | cancelled | wake | elapse | stop =>
    exact .inr ⟨by rintro ⟨⟩, rfl, rfl, rfl⟩

/-- An ending is final. -/
theorem Effect.ending_stays (effect : Effect plan r a r') {x : Ending × Nat}
    (ended : r.ending? = some x) : r'.ending? = some x ∧ r'.attempts = r.attempts := by
  have finished : ∃ ending time, r.phase = .ended ending time := by
    unfold ending? at ended
    split at ended
    case h_1 ending time phase => exact ⟨ending, time, phase⟩
    case h_2 => cases ended
  obtain ⟨ending, time, finished⟩ := finished
  cases effect with
  | begin phase | dial _ _ _ _ _ _ phase | connect _ _ phase | session _ _ _ _ _ phase
  | welcome _ _ _ phase | complete _ _ _ _ phase | cancelled _ _ _ _ phase | wake _ phase =>
    rw [finished] at phase
    cases phase
  | fail fault welcome? connections fails =>
    have attempting := fails.inAttempt
    rw [finished] at attempting
    cases attempting
  | heed connections heeds =>
    cases heeds with
    | start phase | greeting _ _ _ phase | dialing _ _ phase | resting _ phase =>
      rw [finished] at phase
      cases phase
  | elapse time' later alone lasts => exact absurd finished (lasts ending time)
  | stop =>
    refine ⟨?_, rfl⟩
    rw [← ended]
    simp [ending?, onStop, finished]

/-- The policy is asked once for each failure, and what it was shown stays. -/
theorem Effect.consultations (effect : Effect plan r a r') :
    r.consultations <+: r'.consultations := by
  cases effect with
  | begin =>
    unfold startAttempt
    cases plan.handshake <;> exact List.prefix_refl _
  | fail fault welcome? connections =>
    obtain ⟨h, _, same⟩ := failAttempt_eq { r with connections } plan fault welcome?.isSome
    rw [same]
    exact List.prefix_append _ _
  | dial | connect | session | welcome | complete | cancelled | heed | wake | elapse | stop =>
    exact List.prefix_refl _

/-- When a connection is asked for because of an action. -/
def admits? (client : Handshake.Client) (r : Registration α γ θ ρ) : Action γ θ ρ → Option Nat
  | .event (.greeted answer) => (client.conclude answer).toOption.map fun _ => r.now
  | _ => none

theorem failAttempt_dialedAt (r : Registration α γ θ ρ) (plan : Plan α θ) (fault : AttemptFault)
    (connected : Bool) : (r.failAttempt plan fault connected).phase.dialedAt? = none := by
  obtain ⟨h, _, same⟩ := failAttempt_eq r plan fault connected
  rw [same]
  cases plan.policy h <;> rfl

/-- A registration that greets asks for a connection when its handshake is granted, and at no other
time. -/
theorem Effect.dialTimes (handshake : plan.handshake = some client)
    (effect : Effect plan r a r') :
    r'.dialTimes = r.dialTimes ++ (r.admits? client a).toList := by
  have grown := effect.connections
  unfold Registration.dialTimes
  rw [grown]
  cases effect with
  | begin ready => simp [closing?, admits?, startAttempt, handshake, ready, Phase.dialedAt?]
  | dial arguments since limit other answer result greeting greets _ agreed =>
    rw [handshake] at greets
    cases greets
    simp [closing?, admits?, greeting, agreed, Except.toOption, Phase.dialedAt?]
  | connect arguments since dialing =>
    simp [closing?, admits?, openSession, dialing, Phase.dialedAt?]
  | session since now s s' x talking lifts =>
    cases lifts <;> simp [closing?, admits?, talking, Phase.dialedAt?]
  | welcome since s payload talking => simp [closing?, admits?, talking, Phase.dialedAt?]
  | fail fault welcome? connections fails =>
    rw [failAttempt_dialedAt]
    cases fails with
    | timeout arguments since limit client greeting =>
      simp [closing?, admits?, greeting, Phase.dialedAt?]
    | handshake arguments since limit other answer fault greeting greets _ refused =>
      rw [handshake] at greets
      cases greets
      simp [closing?, admits?, greeting, refused, Except.toOption, Phase.dialedAt?]
    | opening arguments since fault dialing => simp [closing?, admits?, dialing, Phase.dialedAt?]
    | call since time s fault talking => simp [closing?, admits?, talking, Phase.dialedAt?]
  | complete since time s connections talking | cancelled since time s connections talking =>
    simp [closing?, admits?, talking, Phase.dialedAt?]
  | heed connections heeds =>
    cases heeds with
    | start phase | greeting _ _ _ phase | dialing _ _ phase | resting _ phase =>
      simp [closing?, admits?, phase, Phase.dialedAt?]
  | wake wake resting => simp [closing?, admits?, resting, Phase.dialedAt?]
  | elapse => simp [closing?, admits?]
  | stop => cases phase : r.phase <;> simp [closing?, admits?, onStop, phase, Phase.dialedAt?]

/-- The observer is told when a connect response is welcomed. -/
theorem Effect.welcomes (effect : Effect plan r a r') :
    r'.welcomes.map (fun w => w.2.1) =
      r.welcomes.map (fun w => w.2.1) ++ if a.isWelcome then [r.attempts] else [] := by
  cases effect with
  | begin =>
    unfold startAttempt
    cases plan.handshake <;> simp [Action.isWelcome]
  | welcome => simp [Action.isWelcome]
  | session since now s s' x talking lifts => cases lifts <;> simp [Action.isWelcome]
  | fail fault welcome? connections fails =>
    obtain ⟨h, _, same⟩ := failAttempt_eq { r with connections } plan fault welcome?.isSome
    rw [same]
    cases fails <;> simp [Action.isWelcome]
  | heed connections heeds => cases heeds <;> simp [Action.isWelcome]
  | dial | connect | complete | cancelled | wake | elapse | stop =>
    simp [Action.isWelcome, openSession, onStop]

/-! Histories. -/

theorem historyBefore_of_consulted (grown : r.consultations <+: r'.consultations)
    (inside : i ≤ r.consultations.length) : r'.historyBefore i = r.historyBefore i := by
  cases i with
  | zero => rfl
  | succ i =>
    obtain ⟨more, grown⟩ := grown
    simp only [historyBefore, ← grown]
    rw [List.getElem?_append_left inside]

theorem Recorded.mono {c : Consultation} {fault : AttemptFault}
    (recorded : Recorded plan r i c fault) (grown : r.consultations <+: r'.consultations)
    (ending : ∀ x, r.ending? = some x → r'.ending? = some x ∧ r'.attempts = r.attempts) :
    Recorded plan r' i c fault := by
  have inside := (List.getElem?_eq_some_iff.mp recorded.consulted).1
  have before := historyBefore_of_consulted grown (Nat.le_of_lt inside)
  obtain ⟨more, grown⟩ := grown
  refine ⟨?_, ?_, ?_, ?_, recorded.last, recorded.decision, fun decided => ?_⟩
  · rw [← grown, List.getElem?_append_left inside]
    exact recorded.consulted
  · rw [before]
    exact recorded.history
  · rw [before]
    exact recorded.total
  · rw [before]
    exact recorded.sinceConnected
  · obtain ⟨ended, attempts⟩ := ending _ (recorded.gaveUp decided)
    rw [ended, attempts]

theorem Round.Settled.mono (settled : e.Settled plan client r i)
    (grown : r.consultations <+: r'.consultations)
    (ending : ∀ x, r.ending? = some x → r'.ending? = some x ∧ r'.attempts = r.attempts) :
    e.Settled plan client r' i := by
  rcases settled with admitted | ⟨contact, c, fault, fails, recorded⟩
  · exact .inl admitted
  · exact .inr ⟨contact, c, fault, fails, recorded.mono grown ending⟩

/-! Steps. -/

theorem Numbered.step (numbered : Numbered l r) (handshake : plan.handshake = some client)
    (effect : Effect plan r a r') : Numbered (l.note r a) r' := by
  obtain ⟨built, attempts, asked⟩ := numbered
  rcases effect.begins with ⟨rfl, ready, unstopped, rfl⟩ | ⟨waits, same⟩
  · have next : l.note r (.move .start) = l.begin r.now := by simp [Rounds.note, unstopped]
    rw [next]
    refine ⟨?_, ?_, ?_⟩
    · simp [startAttempt, handshake, Rounds.all_begin, built]
    · rw [Rounds.all_begin, List.length_append, List.length_singleton, toUInt32_succ, ← attempts]
      simp [startAttempt, handshake]
    · simp [startAttempt, handshake, Rounds.all_begin, asked]
  · have sinces := Rounds.note_since (l := l) waits
    have size : (l.note r a).all.length = l.all.length := by
      simpa using congrArg List.length sinces
    refine ⟨?_, ?_, ?_⟩
    · rw [same.1, size, built]
    · rw [same.2.1, size, attempts]
    · rw [same.2.2, sinces, asked]

/-- Nothing happens in the last round while the registration greets. -/
theorem Sorted.waiting (sorted : Sorted plan client l r) {arguments : ConnectArguments α}
    {since limit : Nat} (greeting : r.phase = .greeting arguments since limit)
    (here : l.current = some e) :
    e.since = since ∧ since ≤ r.now ∧ limit = since + client.patienceMs.toNat ∧ e.Idle := by
  have stands := sorted.current e here
  simpa only [Round.Stands, greeting] using stands

theorem Sorted.greeting (sorted : Sorted plan client l r) {arguments : ConnectArguments α}
    {since limit : Nat} (greeting : r.phase = .greeting arguments since limit) :
    ∃ e, l.current = some e ∧ e.since = since ∧ since ≤ r.now ∧
      limit = since + client.patienceMs.toNat ∧ e.Idle := by
  obtain ⟨e, here⟩ := Option.ne_none_iff_exists'.mp (sorted.begun (by rw [greeting]; rfl))
  exact ⟨e, here, sorted.waiting greeting here⟩

/-- Whoever has asked for a connection was admitted. -/
theorem Sorted.admitted (sorted : Sorted plan client l r) (dialed : r.phase.dialedAt? ≠ none)
    (here : l.current = some e) : ∃ time result, e.Admitted client time result := by
  have stands := sorted.current e here
  cases phase : r.phase with
  | dialing | talking => simpa only [Round.Stands, phase] using stands
  | ready | greeting | resting | ended => simp [phase, Phase.dialedAt?] at dialed

theorem Sorted.admitted_touch (sorted : Sorted plan client l r)
    (dialed : r.phase.dialedAt? ≠ none) (here : l.current = some e) (a : Action γ θ ρ) :
    ∃ time result, (e.touch a).Admitted client time result := by
  obtain ⟨time, result, admitted⟩ := sorted.admitted dialed here
  exact ⟨time, result, admitted.touch⟩

/-- What is known of the last round when none is under way. -/
theorem Sorted.settled (sorted : Sorted plan client l r) (between : r.phase.inAttempt = false)
    (lasts : r.ending? = none) (here : l.current = some e) :
    e.Settled plan client r l.past.length := by
  have stands := sorted.current e here
  cases phase : r.phase with
  | ready | resting => simpa only [Round.Stands, phase] using stands
  | greeting | dialing | talking => simp [phase, Phase.inAttempt] at between
  | ended => simp [phase, ending?] at lasts

/-- The last round goes on, or is left without a further question to the policy. -/
private theorem Sorted.keep (sorted : Sorted plan client l r)
    (ending : ∀ x, r.ending? = some x → r'.ending? = some x ∧ r'.attempts = r.attempts)
    (same : r'.consultations = r.consultations ∧ r'.history = r.history)
    (lasts : r'.ending? = none → r.ending? = none ∧ r'.phase.inAttempt = r.phase.inAttempt)
    (f : Round γ θ ρ → Round γ θ ρ)
    (stands : ∀ e, l.current = some e → (f e).Stands plan client r' l.past.length) :
    Sorted plan client (l.onCurrent f) r' := by
  obtain ⟨consultations, history⟩ := same
  have grown : r.consultations <+: r'.consultations := by rw [consultations]
  refine ⟨?_, ?_, ?_, ?_, ?_⟩
  · exact fun i e known => (sorted.past i e known).mono grown ending
  · intro e' known
    obtain ⟨e, here, same⟩ := Option.map_eq_some_iff.mp known
    rw [← same]
    exact stands e here
  · intro attempting
    rw [(lasts (Phase.not_ended_of_inAttempt attempting)).2] at attempting
    simpa [Rounds.onCurrent] using sorted.begun attempting
  · intro goesOn
    obtain ⟨before, inAttempt⟩ := lasts goesOn
    rw [consultations, inAttempt, Rounds.onCurrent_length]
    exact sorted.counted before
  · rw [history, sorted.history, consultations]
    exact (historyBefore_of_consulted grown (Nat.le_refl _)).symm

/-- One more round begins. -/
private theorem Sorted.begin (sorted : Sorted plan client l r)
    (handshake : plan.handshake = some client) (ready : r.phase = .ready) :
    Sorted plan client (l.begin r.now) (r.startAttempt plan) := by
  have lasts : r.ending? = none := by simp [ending?, ready]
  have ending : ∀ x, r.ending? = some x →
      (r.startAttempt plan).ending? = some x ∧ (r.startAttempt plan).attempts = r.attempts := by
    simp [lasts]
  have consultations : (r.startAttempt plan).consultations = r.consultations := by
    simp [startAttempt, handshake]
  have grown : r.consultations <+: (r.startAttempt plan).consultations := by rw [consultations]
  have between : r.phase.inAttempt = false := by rw [ready]; rfl
  have counted := sorted.counted lasts
  simp only [between, Bool.false_eq_true, if_false] at counted
  refine ⟨?_, ?_, ?_, ?_, ?_⟩
  · intro i e known
    apply Round.Settled.mono _ grown ending
    rcases Rounds.of_all known with before | ⟨rfl, here⟩
    · exact sorted.past i e before
    · exact sorted.settled between lasts here
  · intro e here
    cases here
    simp only [Round.Stands, startAttempt, handshake]
    exact ⟨trivial, Nat.le_refl _, trivial, rfl, rfl⟩
  · exact fun _ => Option.some_ne_none _
  · intro _
    rw [consultations, counted]
    simp [startAttempt, handshake, Phase.inAttempt, Rounds.begin]
  · rw [consultations, historyBefore_of_consulted grown (Nat.le_refl _), ← sorted.history]
    simp [startAttempt, handshake]

/-- The attempt under way fails and is put to the policy. -/
private theorem Sorted.fail (sorted : Sorted plan client l r)
    (attempting : r.phase.inAttempt = true) {fault : AttemptFault} {connected : Bool}
    (connections : List (Connection α γ θ ρ)) (f : Round γ θ ρ → Round γ θ ρ)
    (came : ∀ e, l.current = some e → (∃ time result, (f e).Admitted client time result) ∨
      (f e).contact = [] ∧ connected = false ∧
        ∃ reason, fault = .handshake reason ∧ (f e).Fails client r.now reason) :
    Sorted plan client (l.onCurrent f)
      ({ r with connections }.failAttempt plan fault connected) := by
  obtain ⟨last, here⟩ := Option.ne_none_iff_exists'.mp (sorted.begun attempting)
  have lasts := Phase.not_ended_of_inAttempt attempting
  have count := sorted.counted lasts
  rw [if_pos attempting] at count
  have size : (l.onCurrent f).all.length = l.past.length + 1 := by
    simp [Rounds.onCurrent_all_of here]
  obtain ⟨h, recorded, same⟩ := failAttempt_eq { r with connections } plan fault connected
  generalize failAttempt { r with connections } plan fault connected = r' at same ⊢
  have grown : r.consultations <+: r'.consultations := by
    rw [same]
    exact List.prefix_append _ _
  have ending : ∀ x, r.ending? = some x → r'.ending? = some x ∧ r'.attempts = r.attempts := by
    simp [lasts]
  have asked : r'.consultations[l.past.length]? = some ⟨r.now, h, plan.policy h⟩ := by
    rw [same, ← count]
    simp
  have settled : (f last).Settled plan client r' l.past.length := by
    rcases came last here with admitted | ⟨contact, rfl, reason, rfl, fails⟩
    · exact .inl admitted
    · have history : h = (r'.historyBefore l.past.length).record (.handshake reason) := by
        rw [historyBefore_of_consulted grown (Nat.le_of_eq count.symm), ← count, ← sorted.history]
        exact recorded
      refine .inr ⟨contact, _, reason, fails, asked, history, ?_, ?_, ?_, rfl, ?_⟩
      · exact congrArg Retry.History.total history
      · exact congrArg Retry.History.sinceConnected history
      · rw [history]
        simp [Retry.History.record, Retry.History.last?]
      · intro decided
        change plan.policy h = none at decided
        rw [same]
        simp [ending?, decided]
  refine ⟨?_, ?_, ?_, ?_, ?_⟩
  · exact fun i e known => (sorted.past i e known).mono grown ending
  · intro e known
    simp only [Rounds.onCurrent, here, Option.map_some, Option.some.injEq] at known
    subst known
    change (f last).Stands plan client r' l.past.length
    cases decision : plan.policy h <;> simpa [Round.Stands, same, decision] using settled
  · intro under
    cases decision : plan.policy h <;> simp [same, decision, Phase.inAttempt] at under
  · intro goesOn
    rw [size, same]
    cases decision : plan.policy h <;> simp [Phase.inAttempt, count]
  · rw [same]
    simp [historyBefore]

/-- Where nothing happens in the attempt the last round stands as it stood. -/
theorem Round.Stands.mono (stands : e.Stands plan client r i) (phase : r'.phase = r.phase)
    (later : r.now ≤ r'.now) (grown : r.consultations <+: r'.consultations)
    (ending : ∀ x, r.ending? = some x → r'.ending? = some x ∧ r'.attempts = r.attempts) :
    e.Stands plan client r' i := by
  unfold Round.Stands at stands ⊢
  rw [phase]
  split at stands
  case h_1 arguments since limit _ =>
    obtain ⟨began, past, rest⟩ := stands
    exact ⟨began, Nat.le_trans past later, rest⟩
  case h_2 | h_3 => exact stands
  case h_4 => exact stands.imp_left fun settled => settled.mono grown ending
  case h_5 => exact stands.mono grown ending

/-- The attempt under way fails, with its handshake or after it. -/
private theorem Sorted.fails (sorted : Sorted plan client l r)
    (handshake : plan.handshake = some client) {fault : AttemptFault} {welcome? : Option γ}
    (connections : List (Connection α γ θ ρ)) (fails : Fails plan r a fault welcome?) :
    Sorted plan client (l.note r a)
      ({ r with connections }.failAttempt plan fault welcome?.isSome) := by
  cases fails with
  | timeout arguments since limit other greeting greets _ late =>
    rw [handshake] at greets
    cases greets
    apply sorted.fail (by rw [greeting]; rfl) connections
    intro e here
    obtain ⟨began, _, limited, idle⟩ := sorted.waiting greeting here
    refine .inr ⟨idle.contact, rfl, _, rfl, .timeout rfl ?_⟩
    rwa [Round.hear_since, began, ← limited]
  | handshake arguments since limit other answer fault greeting greets _ refused =>
    rw [handshake] at greets
    cases greets
    apply sorted.fail (by rw [greeting]; rfl) connections
    intro e here
    obtain ⟨began, past, _, idle⟩ := sorted.waiting greeting here
    have rejects := Handshake.Client.conclude_eq_error.mp refused
    refine .inr ⟨idle.contact, rfl, fault, rfl, .answered answer fault rfl ?_ rejects⟩
    rwa [Round.hear_since, began]
  | opening arguments since fault dialing =>
    apply sorted.fail (by rw [dialing]; rfl) connections
    intro e here
    exact .inl (sorted.admitted_touch (by simp [dialing, Phase.dialedAt?]) here _)
  | call since time s fault talking =>
    apply sorted.fail (by rw [talking]; rfl) connections
    intro e here
    exact .inl (sorted.admitted_touch (by simp [talking, Phase.dialedAt?]) here _)

/-- The registration takes notice of the stop signal. -/
private theorem Sorted.heed (sorted : Sorted plan client l r)
    (connections : List (Connection α γ θ ρ)) (heeds : Heeds r a) (stopped : r.stop.isSome = true) :
    Sorted plan client (l.note r a)
      { r with connections, phase := .ended (.stopped r.attempts) r.now } := by
  have lasts : r.ending? = none := by cases heeds <;> simp [ending?, *]
  have aloof : a.isContact = false := by cases heeds <;> rfl
  have note : l.note r a = l.onCurrent fun e => e.touch a := by
    cases heeds with
    | start =>
      rw [Rounds.onCurrent_touch aloof]
      exact if_neg (by simpa [Option.isSome_iff_ne_none] using stopped)
    | greeting | dialing | resting => rfl
  rw [note]
  apply sorted.keep
  · simp [lasts]
  · exact ⟨rfl, rfl⟩
  · simp [ending?]
  · intro e here
    rw [Round.touch_of_not aloof]
    change e.Settled plan client _ l.past.length ∨ e.Idle
    cases heeds with
    | start phase | resting _ phase =>
      have settled := sorted.settled (by simp [phase, Phase.inAttempt]) lasts here
      exact .inl (settled.mono (List.prefix_refl _) (by simp [lasts]))
    | greeting arguments since limit greeting =>
      exact .inr (sorted.waiting greeting here).2.2.2
    | dialing arguments since dialing =>
      exact .inl (.inl (sorted.admitted (by simp [dialing, Phase.dialedAt?]) here))

/-- The signal itself changes nothing but what the session under way is told. -/
private theorem Sorted.stop (sorted : Sorted plan client l r)
    (ending : ∀ x, r.ending? = some x → (r.onStop plan).ending? = some x) :
    Sorted plan client (l.onCurrent fun e => e.touch (.event .stop)) (r.onStop plan) := by
  have final : ∀ x, r.ending? = some x →
      (r.onStop plan).ending? = some x ∧ (r.onStop plan).attempts = r.attempts :=
    fun x ended => ⟨ending x ended, rfl⟩
  cases phase : r.phase with
  | talking since s =>
    have talks : ∃ s', (r.onStop plan).phase = .talking since s' := by simp [onStop, phase]
    obtain ⟨s', talks⟩ := talks
    refine sorted.keep final ⟨rfl, rfl⟩ (by simp [ending?, talks, phase, Phase.inAttempt]) _ ?_
    intro e here
    simp only [Round.Stands, talks]
    exact sorted.admitted_touch (by simp [phase, Phase.dialedAt?]) here _
  | ready | greeting | dialing | resting | ended =>
    have same : (r.onStop plan).phase = r.phase := by simp [onStop, phase]
    refine sorted.keep final ⟨rfl, rfl⟩ ?_ _ ?_
    · intro goesOn
      rw [same]
      exact ⟨by simpa [ending?, same] using goesOn, rfl⟩
    · intro e here
      rw [Round.touch_of_not rfl]
      exact (sorted.current e here).mono same (Nat.le_refl _) (List.prefix_refl _) final

theorem Sorted.step (sorted : Sorted plan client l r) (handshake : plan.handshake = some client)
    (effect : Effect plan r a r') : Sorted plan client (l.note r a) r' := by
  have ending : ∀ x, r.ending? = some x → r'.ending? = some x ∧ r'.attempts = r.attempts :=
    fun x ended => effect.ending_stays ended
  have grown := effect.consultations
  cases effect with
  | begin ready unstopped =>
    have next : l.note r (.move .start) = l.begin r.now := by simp [Rounds.note, unstopped]
    rw [next]
    exact sorted.begin handshake ready
  | dial arguments since limit other answer result greeting greets _ agreed =>
    rw [handshake] at greets
    cases greets
    obtain ⟨rfl, fits⟩ := Handshake.Client.conclude_eq_ok.mp agreed
    refine sorted.keep ending ⟨rfl, rfl⟩ (by simp [ending?, greeting, Phase.inAttempt]) _ ?_
    intro e here
    obtain ⟨began, past, _⟩ := sorted.waiting greeting here
    exact ⟨r.now, result, rfl, by rwa [Round.hear_since, began], fits⟩
  | connect arguments since dialing =>
    refine sorted.keep ending ⟨rfl, rfl⟩
      (by simp [ending?, openSession, dialing, Phase.inAttempt]) _ ?_
    intro e here
    exact sorted.admitted_touch (by simp [dialing, Phase.dialedAt?]) here _
  | session since now s s' x talking lifts =>
    have note : l.note r a = l.onCurrent fun e => e.touch a := by cases lifts <;> rfl
    rw [note]
    refine sorted.keep ending ⟨rfl, rfl⟩ (by simp [ending?, talking, Phase.inAttempt]) _ ?_
    intro e here
    exact sorted.admitted_touch (by simp [talking, Phase.dialedAt?]) here _
  | welcome since s payload talking =>
    refine sorted.keep ending ⟨rfl, rfl⟩ (by simp [ending?, talking, Phase.inAttempt]) _ ?_
    intro e here
    exact sorted.admitted_touch (by simp [talking, Phase.dialedAt?]) here _
  | fail fault welcome? connections fails => exact sorted.fails handshake connections fails
  | complete since time s connections talking =>
    refine sorted.keep ending ⟨rfl, rfl⟩ (by simp [ending?]) _ ?_
    intro e here
    exact .inl (sorted.admitted_touch (by simp [talking, Phase.dialedAt?]) here _)
  | cancelled since time s connections talking =>
    refine sorted.keep ending ⟨rfl, rfl⟩ (by simp [ending?]) _ ?_
    intro e here
    exact .inl (.inl (sorted.admitted_touch (by simp [talking, Phase.dialedAt?]) here _))
  | heed connections heeds stopped => exact sorted.heed connections heeds stopped
  | wake wake resting =>
    refine sorted.keep ending ⟨rfl, rfl⟩ (by simp [ending?, resting, Phase.inAttempt]) _ ?_
    intro e here
    rw [Round.touch_of_not rfl]
    have between : r.phase.inAttempt = false := by rw [resting]; rfl
    exact (sorted.settled between (by simp [resting, ending?]) here).mono grown ending
  | elapse time later alone lasts =>
    refine sorted.keep ending ⟨rfl, rfl⟩ (fun goesOn => ⟨goesOn, rfl⟩) _ ?_
    intro e here
    rw [Round.touch_of_not rfl]
    exact (sorted.current e here).mono rfl (Nat.le_of_lt later) grown ending
  | stop => exact sorted.stop fun x ended => (ending x ended).1

end Dialback.Registration
