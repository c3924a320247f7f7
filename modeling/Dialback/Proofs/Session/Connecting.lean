import Dialback.Proofs.Session.Reception

/-!
Connecting. The arguments are written before anything else is looked at. Then the first of three
decides: cancellation, what arrives first and the limit, preferred in this order by whoever looks.
Only the message that decides is taken; everything behind it is left for the serving loop, which
does not wait while any of it is unread.
-/
namespace Dialback.Session

variable {α γ θ ρ : Type}

/-- Which of the three comes first once the arguments have been written, and when that is noticed.
Of two that happen at one moment either may be found there alone. -/
inductive Decides (start limit : Nat) (cancel : Option Nat) (first : Option (Nat × Inbound γ θ)) :
    Except Outcome γ → Nat → Prop
  | cancelled (time : Nat) (fired : cancel = some time) (early : time ≤ limit)
      (ahead : ∀ t x, first = some (t, x) → time ≤ max t start) :
      Decides start limit cancel first (.error .cancelled) (max time start)
  | answered (time : Nat) (x : Inbound γ θ) (arrived : first = some (time, x))
      (early : time ≤ limit) (ahead : ∀ t, cancel = some t → max time start ≤ t) :
      Decides start limit cancel first x.reception (max time start)
  | timedOut (uncancelled : ∀ t, cancel = some t → limit ≤ t)
      (silent : ∀ t x, first = some (t, x) → limit ≤ t) :
      Decides start limit cancel first (.error (.failed .noConnectResponse)) limit

/-- How a session comes to be connected. -/
structure Connects (terms : Terms θ) (arguments : ConnectArguments α)
    (arrived : List (Nat × Inbound γ θ)) (served : List (Inbound γ θ)) (s : Session α γ θ ρ) :
    Prop where
  /-- Nothing but the end of the first write leads on, and a failure of it is what comes of
  connecting. -/
  introduces : s.phase = .introducing → s.wire = [] ∧ s.reception? = none ∧
    (∀ a s', s.act terms a = some s' → s'.phase = .introducing ∨ a = .event .introduced ∨
      ∃ fault, a = .event (.introductionFailed fault)) ∧
    (∃ s', s.act terms (.event .introduced) = some s' ∧
      s'.phase = .connecting (connectLimit terms s.now) ∧
      s'.wire = [(s.now, .arguments arguments)]) ∧
    ∀ fault, ∃ s', s.act terms (.event (.introductionFailed fault)) = some s' ∧
      s'.reception? = some (.error (.failed (.transport fault)), s.now) ∧ s'.wire = []
  /-- While waiting for the response only the verdict of the moment leads on. -/
  looks : ∀ limit, s.phase = .connecting limit → s.reception? = none ∧
    ∀ a s', s.act terms a = some s' → s'.phase = .connecting limit ∨
      ∃ result, s.verdict? limit = some result ∧ s'.reception? = some (result, s.now)
  /-- Whenever there is a verdict, it can be acted on. -/
  concludes : ∀ limit result, s.phase = .connecting limit → s.verdict? limit = some result →
    ∃ m s', s.act terms (.move m) = some s' ∧ s'.reception? = some (result, s.now)
  /-- Otherwise the limit is waited for, and then there is one. -/
  givesUp : ∀ limit, s.phase = .connecting limit → s.verdict? limit = none → ∃ s',
    s.runPromptly terms [.event (.elapse limit), .move .giveUpConnecting] = some s' ∧
      s'.reception? = some (.error (.failed .noConnectResponse), limit)
  /-- Behind the response that was accepted nothing has been lost. -/
  delivers : ∀ payload time, s.welcome = some (time, payload) → arrived.map Prod.snd =
    .message (.connectResponse (.accepted payload)) :: (served ++ s.inbox)
  /-- Nothing behind it has been taken before servicing begins. -/
  leaves : ∀ payload, s.phase = .accepted payload → served = []
  /-- The serving loop takes all of it. -/
  serves : s.phase.isServicing = true → s.isQuiet terms = true → s.inbox = []

/-- When it is decided what comes of connecting. -/
def DecidedInTime (terms : Terms θ) (arguments : ConnectArguments α)
    (arrived : List (Nat × Inbound γ θ)) (s : Session α γ θ ρ) : Prop :=
  ∀ result time, s.reception? = some (result, time) →
    (s.wire = [] ∧ ∃ fault, result = .error (.failed (.transport fault))) ∨
    ∃ start, s.wire.head? = some (start, .arguments arguments) ∧
      Decides start (connectLimit terms start) s.cancel arrived.head? result time

variable {s s' : Session α γ θ ρ} {terms : Terms θ} {a : Action γ θ ρ}
  {arguments : ConnectArguments α} {arrived : List (Nat × Inbound γ θ)}

/-! In time. -/

/-- The limit of the phase holds time back. -/
theorem mayWait_of_promptly {time : Nat}
    (acted : s.actPromptly terms (.event (.elapse time)) = some s') :
    s.isQuiet terms = true ∧ ∀ limit, s.phase.limit? = some limit → time ≤ limit := by
  change (if s.mayWait terms time then s.act terms (.event (.elapse time)) else none) = _ at acted
  split at acted
  case isTrue waits =>
    simp only [mayWait, Bool.and_eq_true] at waits
    exact ⟨waits.1, fun limit limited => by simpa [limited] using waits.2⟩
  case isFalse => cases acted

theorem Effect.elapsed {time : Nat} (effect : Effect terms s (.event (.elapse time)) s') :
    s.now < time ∧ s'.now = time := by
  cases effect with
  | control control =>
    cases control with
    | elapse _ later => exact ⟨later, rfl⟩
  | finish outcome other | flush cause outbox other | endJob i t how outbox job other
  | sink b outbox other => cases other

theorem Effect.now_le (effect : Effect terms s a s') : s.now ≤ s'.now := by
  by_cases instant : ∀ time, a ≠ .event (.elapse time)
  · exact Nat.le_of_eq (effect.now_eq instant).symm
  · simp only [not_forall, not_not] at instant
    obtain ⟨time, rfl⟩ := instant
    obtain ⟨later, reached⟩ := effect.elapsed
    exact reached ▸ Nat.le_of_lt later

/-- Connecting is cancelled once. -/
theorem Effect.cancel_cases (effect : Effect terms s a s') :
    s'.cancel = s.cancel ∨ s.cancel = none ∧ s'.cancel = some s.now := by
  cases effect with
  | control control =>
    cases control with
    | cancel unset => exact Or.inr ⟨unset, rfl⟩
    | _ => exact Or.inl rfl
  | _ => exact Or.inl rfl

theorem noteArrival_head (arrived : List (Nat × Inbound γ θ)) (s : Session α γ θ ρ)
    (a : Action γ θ ρ) : (noteArrival arrived s a).head? = arrived.head? ∨
      arrived = [] ∧ ∃ x, (noteArrival arrived s a).head? = some (s.now, x) := by
  unfold noteArrival
  cases a.arrival? with
  | none => exact Or.inl (by simp)
  | some x =>
    cases arrived with
    | nil => exact Or.inr ⟨rfl, x, rfl⟩
    | cons => exact Or.inl rfl

/-- What happens later makes no difference. -/
theorem Decides.later {start limit now time : Nat} {cancel cancel' : Option Nat}
    {first first' : Option (Nat × Inbound γ θ)} {result : Except Outcome γ}
    (decides : Decides start limit cancel first result time) (past : time ≤ now)
    (cancels : cancel' = cancel ∨ cancel = none ∧ cancel' = some now)
    (arrives : first' = first ∨ first = none ∧ ∃ x, first' = some (now, x)) :
    Decides start limit cancel' first' result time := by
  have fired : ∀ t, cancel' = some t → cancel = some t ∨ t = now := by
    intro t known
    rcases cancels with same | ⟨_, new⟩
    · exact Or.inl (same ▸ known)
    · rw [new] at known
      exact Or.inr (Option.some.inj known).symm
  have arrived : ∀ t x, first' = some (t, x) → first = some (t, x) ∨ t = now := by
    intro t x known
    rcases arrives with same | ⟨_, y, new⟩
    · exact Or.inl (same ▸ known)
    · rw [new] at known
      cases known
      exact Or.inr rfl
  cases decides with
  | cancelled moment fires early ahead =>
    have fires' : cancel' = some moment := by
      rcases cancels with same | ⟨unset, _⟩
      · rw [same, fires]
      · rw [unset] at fires
        cases fires
    refine .cancelled moment fires' early fun t x known => ?_
    rcases arrived t x known with before | rfl
    · exact ahead t x before
    · omega
  | answered t x here early ahead =>
    have here' : first' = some (t, x) := by
      rcases arrives with same | ⟨unset, _⟩
      · rw [same, here]
      · rw [unset] at here
        cases here
    refine .answered t x here' early fun moment known => ?_
    rcases fired moment known with before | rfl
    · exact ahead moment before
    · exact past
  | timedOut uncancelled silent =>
    refine .timedOut (fun t known => ?_) (fun t x known => ?_)
    · rcases fired t known with before | rfl
      · exact uncancelled t before
      · exact past
    · rcases arrived t x known with before | rfl
      · exact silent t x before
      · exact past

/-- Nothing that decides has happened before this moment. -/
structure Waits (arrived : List (Nat × Inbound γ θ)) (s : Session α γ θ ρ) (limit start : Nat) :
    Prop where
  started : start ≤ s.now
  inTime : s.now ≤ limit
  atCancel : ∀ t, s.cancel = some t → s.now = max t start
  atFirst : ∀ t x, arrived.head? = some (t, x) → s.now = max t start

/-- Whoever looks finds what came first. -/
theorem Waits.decides {limit start : Nat} (waits : Waits arrived s limit start)
    {result : Except Outcome γ} (unread : arrived.map Prod.snd = s.inbox)
    (verdict : s.verdict? limit = some result) :
    Decides start limit s.cancel arrived.head? result s.now := by
  have inTime := waits.inTime
  unfold verdict? at verdict
  split at verdict
  case isTrue fired =>
    obtain ⟨moment, fired⟩ := Option.isSome_iff_exists.mp fired
    cases verdict
    have now := waits.atCancel moment fired
    rw [now]
    refine .cancelled moment fired (by omega) fun t x first => ?_
    have same := waits.atFirst t x first
    omega
  case isFalse unfired =>
    have uncancelled : s.cancel = none := by simpa using unfired
    split at verdict
    case h_1 x rest inbox =>
      cases verdict
      rw [inbox] at unread
      obtain ⟨⟨t, y⟩, later, rfl, same, _⟩ := List.map_eq_cons_iff.mp unread
      cases same
      have now := waits.atFirst t y rfl
      rw [now]
      exact .answered t y rfl (by omega) fun moment fired => by simp [uncancelled] at fired
    case h_2 inbox =>
      split at verdict
      case isTrue late =>
        cases verdict
        have nothing : arrived = [] := by simpa [inbox] using unread
        have now : s.now = limit := by omega
        rw [now]
        exact .timedOut (fun t fired => by simp [uncancelled] at fired)
          (fun t x first => by simp [nothing] at first)
      case isFalse => cases verdict

/-- Time does not pass while there is a verdict. -/
theorem Waits.step {limit start : Nat} (waits : Waits arrived s limit start)
    (unread : arrived.map Prod.snd = s.inbox) (welcome : s.welcome = none)
    (phase : s.phase = .connecting limit) (acted : s.actPromptly terms a = some s')
    (opening : Opening terms s a s') (phase' : s'.phase = .connecting limit) :
    Waits (noteArrival arrived s a) s' limit start := by
  have here : ∀ t, t = s.now → s.now = max t start := by
    rintro t rfl
    exact (Nat.max_eq_left waits.started).symm
  have first : ∀ t x, (noteArrival arrived s a).head? = some (t, x) → s.now = max t start := by
    intro t x first
    rcases noteArrival_head arrived s a with same | ⟨_, y, new⟩
    · exact waits.atFirst t x (same ▸ first)
    · rw [new] at first
      cases first
      exact here s.now rfl
  cases opening with
  | stop | arrive => exact ⟨waits.started, waits.inTime, waits.atCancel, first⟩
  | cancel unset =>
    refine ⟨waits.started, waits.inTime, fun t fired => here t ?_, first⟩
    exact (Option.some.inj fired).symm
  | elapse time later =>
    obtain ⟨quiet, limited⟩ := mayWait_of_promptly acted
    obtain ⟨uncancelled, inbox, _⟩ := verdict_eq_none.mp (calm_of_quiet welcome phase quiet)
    rw [inbox, List.map_eq_nil_iff] at unread
    subst unread
    refine ⟨Nat.le_trans waits.started (Nat.le_of_lt later), limited limit (by rw [phase]; rfl),
      fun t fired => ?_, fun t x first => by cases first⟩
    rw [uncancelled] at fired
    cases fired
  | introduced before => simp [phase] at before
  | introductionFailed | accept | dismiss => cases phase'

/-- Connecting goes on until the moment at which it is decided. -/
structure Timely (terms : Terms θ) (arrived : List (Nat × Inbound γ θ)) (s : Session α γ θ ρ) :
    Prop where
  cancelled : ∀ t, s.cancel = some t → t ≤ s.now
  heard : ∀ t x, arrived.head? = some (t, x) → t ≤ s.now
  waiting : ∀ limit start, s.phase = .connecting limit → s.introduced = some start →
    Waits arrived s limit start
  decided : ∀ result time start, s.introduced = some start →
    s.reception? = some (result, time) → time ≤ s.now ∧
      Decides start (connectLimit terms start) s.cancel arrived.head? result time

theorem Timely.opened (openedAt : Nat) (arguments : ConnectArguments α) :
    Timely terms [] (Session.opened terms.settings openedAt arguments : Session α γ θ ρ) where
  cancelled t fired := by cases fired
  heard t x first := by cases first
  waiting limit start phase := by cases phase
  decided result time start written := by cases written

theorem Timely.waiting_step (timely : Timely terms arrived s) (met : Met terms arrived s)
    (acted : s.actPromptly terms a = some s') {limit start : Nat}
    (phase' : s'.phase = .connecting limit) (written' : s'.introduced = some start) :
    Waits (noteArrival arrived s a) s' limit start := by
  have effect := Effect.of_act (act_of_promptly acted).1
  cases early : s.phase.isEarly with
  | false =>
    have late := (effect.bygone early).late
    simp [phase', Phase.isEarly] at late
  | true =>
    have opening := effect.opening early (met.fresh early)
    cases phase : s.phase with
    | connecting limit' =>
      have goesOn : s.phase = s'.phase ∧ s.introduced = s'.introduced := by
        cases opening with
        | stop | cancel | elapse | arrive => exact ⟨rfl, rfl⟩
        | introduced before => simp [phase] at before
        | introductionFailed | accept | dismiss => cases phase'
      rw [← goesOn.1] at phase'
      rw [← goesOn.2] at written'
      exact (timely.waiting limit start phase' written').step (met.unread early)
        (met.fresh early).welcome phase' acted opening (goesOn.1 ▸ phase')
    | introducing =>
      cases opening with
      | stop | cancel | elapse | arrive => simp [phase] at phase'
      | introductionFailed | accept | dismiss => cases phase'
      | introduced =>
        cases phase'
        cases written'
        refine ⟨Nat.le_refl _, Nat.le_add_right _ _, fun t fired => ?_, fun t x first => ?_⟩
        · exact (Nat.max_eq_right (timely.cancelled t fired)).symm
        · simp only [noteArrival, Action.arrival?, Option.map_none, Option.toList_none,
            List.append_nil] at first
          exact (Nat.max_eq_right (timely.heard t x first)).symm
    | _ => simp [phase, Phase.isEarly] at early

theorem Timely.decided_step (timely : Timely terms arrived s) (met : Met terms arrived s)
    (acted : s.actPromptly terms a = some s') {start time : Nat} {result : Except Outcome γ}
    (written' : s'.introduced = some start) (received' : s'.reception? = some (result, time)) :
    time ≤ s'.now ∧ Decides start (connectLimit terms start) s'.cancel
      (noteArrival arrived s a).head? result time := by
  have effect := Effect.of_act (act_of_promptly acted).1
  have arrives : (noteArrival arrived s a).head? = arrived.head? ∨ arrived.head? = none ∧
      ∃ x, (noteArrival arrived s a).head? = some (s.now, x) :=
    (noteArrival_head arrived s a).imp_right fun new => ⟨by rw [new.1]; rfl, new.2⟩
  cases early : s.phase.isEarly with
  | false =>
    have bygone := effect.bygone early
    rw [bygone.introduced] at written'
    rw [bygone.reception met early] at received'
    obtain ⟨past, decides⟩ := timely.decided result time start written' received'
    exact ⟨Nat.le_trans past effect.now_le, decides.later past effect.cancel_cases arrives⟩
  | true =>
    have fresh := met.fresh early
    have looked : ∀ limit result, s.phase = .connecting limit → s.introduced = some start →
        s.verdict? limit = some result →
        Decides start (connectLimit terms start) s.cancel arrived.head? result s.now := by
      intro limit result phase written verdict
      obtain ⟨start', written'', rfl⟩ := met.connecting limit phase
      cases written.symm.trans written''
      exact (timely.waiting _ start phase written).decides (met.unread early) verdict
    cases effect.opening early fresh with
    | stop | cancel | elapse | arrive =>
      have undecided : s.reception? = none := reception_of_early early fresh.welcome
      exact absurd (undecided.symm.trans received') (by simp)
    | introduced => simp [reception?, outcome?, fresh.welcome] at received'
    | introductionFailed fault phase => simp [met.introducing phase] at written'
    | accept limit payload rest m phase inbox verdict =>
      cases received'
      simpa [noteArrival, Action.arrival?] using looked limit _ phase written' verdict
    | dismiss limit outcome inbox m phase verdict =>
      simp only [reception?, outcome?, fresh.welcome, Option.map_some, Option.some.injEq,
        Prod.mk.injEq] at received'
      obtain ⟨rfl, rfl⟩ := received'
      simpa [noteArrival, Action.arrival?] using looked limit _ phase written' verdict

theorem Timely.step (timely : Timely terms arrived s) (met : Met terms arrived s)
    (acted : s.actPromptly terms a = some s') :
    Timely terms (noteArrival arrived s a) s' where
  cancelled t fired := by
    have effect := Effect.of_act (act_of_promptly acted).1
    rcases effect.cancel_cases with same | ⟨_, new⟩
    · exact Nat.le_trans (timely.cancelled t (same ▸ fired)) effect.now_le
    · rw [new] at fired
      exact Option.some.inj fired ▸ effect.now_le
  heard t x first := by
    have effect := Effect.of_act (act_of_promptly acted).1
    rcases noteArrival_head arrived s a with same | ⟨_, y, new⟩
    · exact Nat.le_trans (timely.heard t x (same ▸ first)) effect.now_le
    · rw [new] at first
      cases first
      exact effect.now_le
  waiting _ _ := timely.waiting_step met acted
  decided _ _ _ := timely.decided_step met acted

theorem Timely.of_run {openedAt : Nat} {actions : List (Action γ θ ρ)}
    (ran : (Session.opened terms.settings openedAt arguments).runPromptly terms actions = some s) :
    Timely terms ((Session.opened terms.settings openedAt arguments).arrivals terms actions) s := by
  have start : Met terms [] (Session.opened terms.settings openedAt arguments : Session α γ θ ρ) ∧
      Timely terms [] (Session.opened terms.settings openedAt arguments : Session α γ θ ρ) :=
    ⟨.opened openedAt arguments, .opened openedAt arguments⟩
  have both := @Runs.narrower_induction (Session α γ θ ρ) (Action γ θ ρ) _
    (fun s a => s.act terms a) noteArrival
    (fun arrived s => Met terms arrived s ∧ Timely terms arrived s)
    (fun s a => s.actPromptly terms a) (fun _ _ _ acted => (act_of_promptly acted).1)
    (fun arrived m a m' known acted =>
      ⟨known.1.step (act_of_promptly acted).1, known.2.step known.1 acted⟩) [] _ s actions start ran
  exact both.2

/-! Whatever happens. -/

/-- The limit is reached while waiting, and nothing else. -/
theorem Fresh.givesUp (fresh : Fresh terms s) {limit : Nat} (phase : s.phase = .connecting limit)
    (undecided : s.verdict? limit = none) : ∃ s',
      s.runPromptly terms [.event (.elapse limit), .move .giveUpConnecting] = some s' ∧
        s'.reception? = some (.error (.failed .noConnectResponse), limit) := by
  obtain ⟨uncancelled, inbox, early⟩ := verdict_eq_none.mp undecided
  have waited : s.actPromptly terms (.event (.elapse limit)) = some { s with now := limit } := by
    simp [actPromptly, mayWait, fresh.quiet phase undecided, phase, Phase.limit?, act, receive,
      early]
  have gaveUp : ({ s with now := limit } : Session α γ θ ρ).actPromptly terms
      (.move .giveUpConnecting) =
        some (({ s with now := limit } : Session α γ θ ρ).fail .noConnectResponse) := by
    simp [actPromptly, act, advance, phase, inbox, uncancelled]
  exact ⟨_, Runs.foldlM_cons.mpr ⟨_, waited, Runs.foldlM_cons.mpr ⟨_, gaveUp, rfl⟩⟩,
    reception_of_ended fresh.welcome rfl⟩

theorem Sound.wire_eq_nil {l : Log γ θ ρ} (sound : Sound terms arguments l s)
    (unwritten : s.introduced = none) : s.wire = [] := by
  have read : l.read = [] := by
    by_contra some
    simpa [unwritten] using sound.introduced.read some
  have handed := (sound.unserved (by rw [Log.served, read]; rfl)).1
  have written : s.outbox.written.map Prod.snd = [] := (List.append_eq_nil_iff.mp handed).1
  simp [wire, unwritten, List.map_eq_nil_iff.mp written]

theorem Met.introduces {l : Log γ θ ρ} (met : Met terms arrived s)
    (sound : Sound terms arguments l s) (phase : s.phase = .introducing) :
    s.wire = [] ∧ s.reception? = none ∧
      (∀ a s', s.act terms a = some s' → s'.phase = .introducing ∨ a = .event .introduced ∨
        ∃ fault, a = .event (.introductionFailed fault)) ∧
      (∃ s', s.act terms (.event .introduced) = some s' ∧
        s'.phase = .connecting (connectLimit terms s.now) ∧
        s'.wire = [(s.now, .arguments arguments)]) ∧
      ∀ fault, ∃ s', s.act terms (.event (.introductionFailed fault)) = some s' ∧
        s'.reception? = some (.error (.failed (.transport fault)), s.now) ∧ s'.wire = [] := by
  have early : s.phase.isEarly = true := by
    rw [phase]
    rfl
  have fresh := met.fresh early
  have unwritten := met.introducing phase
  refine ⟨sound.wire_eq_nil unwritten, reception_of_early early fresh.welcome, ?_, ?_, ?_⟩
  · intro a s' acted
    cases (Effect.of_act acted).opening early fresh with
    | stop | cancel | elapse | arrive => exact Or.inl phase
    | introduced => exact Or.inr (Or.inl rfl)
    | introductionFailed fault => exact Or.inr (Or.inr ⟨fault, rfl⟩)
    | accept limit payload rest m before | dismiss limit outcome inbox m before =>
      simp [phase] at before
  · refine ⟨{ s with introduced := some s.now, phase := .connecting (connectLimit terms s.now) },
      by simp only [act, receive, phase, connectLimit], rfl, ?_⟩
    simp [wire, fresh.outbox, sound.introduced.arguments]
  · intro fault
    have failed : s.act terms (.event (.introductionFailed fault)) =
        some (s.fail (.transport fault)) := by simp only [act, receive, phase]
    refine ⟨_, failed, reception_of_ended fresh.welcome rfl, ?_⟩
    exact (sound.step (.of_act failed)).wire_eq_nil unwritten

theorem Met.looks (met : Met terms arrived s) {limit : Nat} (phase : s.phase = .connecting limit)
    (acted : s.act terms a = some s') : s'.phase = .connecting limit ∨
      ∃ result, s.verdict? limit = some result ∧ s'.reception? = some (result, s.now) := by
  have early : s.phase.isEarly = true := by
    rw [phase]
    rfl
  have fresh := met.fresh early
  cases (Effect.of_act acted).opening early fresh with
  | stop | cancel | elapse | arrive => exact Or.inl phase
  | introduced before | introductionFailed fault before => simp [phase] at before
  | accept limit' payload rest m before inbox verdict =>
    cases phase.symm.trans before
    exact Or.inr ⟨_, verdict, rfl⟩
  | dismiss limit' outcome inbox m before verdict =>
    cases phase.symm.trans before
    exact Or.inr ⟨_, verdict, reception_of_ended fresh.welcome rfl⟩

/-- What was accepted is what arrived first, and it was read first. -/
theorem Met.delivers {l : Log γ θ ρ} (met : Met terms arrived s)
    (sound : Sound terms arguments l s) (same : arrived.map Prod.snd = l.arrived) {time : Nat}
    {payload : γ} (welcome : s.welcome = some (time, payload)) : arrived.map Prod.snd =
      .message (.connectResponse (.accepted payload)) :: (l.served ++ s.inbox) := by
  obtain ⟨rest, first⟩ := met.welcomed time payload welcome
  obtain ⟨payload', behind, read⟩ := sound.heard.welcomed (by rw [welcome]; rfl)
  have all := sound.heard.arrived
  rw [← same, first, read, List.cons_append, List.cons.injEq] at all
  rw [first, all.2, Log.served, read]
  rfl

/-- The loop does not wait while something is left to be read. -/
theorem Steady.unread (steady : Steady terms s) (serving : s.phase.isServicing = true)
    (quiet : s.isQuiet terms = true) : s.inbox = [] := by
  by_contra some
  obtain ⟨m, member, _, able⟩ := steady.ready serving (Or.inr some)
  exact not_quiet member able quiet

/-- The first of cancellation, first message and limit decides whether a session gets connected. -/
theorem connecting_decided (openedAt : Nat) (arguments : ConnectArguments α)
    (actions : List (Action γ θ ρ))
    (ran : (Session.opened terms.settings openedAt arguments).run terms actions = some s) :
    Connects terms arguments
        ((Session.opened terms.settings openedAt arguments).arrivals terms actions)
        ((Session.opened terms.settings openedAt arguments).log terms actions).served s ∧
      ((Session.opened terms.settings openedAt arguments).runPromptly terms actions = some s →
        DecidedInTime terms arguments
          ((Session.opened terms.settings openedAt arguments).arrivals terms actions) s) := by
  have met := Met.of_run ran
  have sound : Sound terms arguments _ s := Sound.of_run ran
  have steady : Steady terms s := Steady.of_run ran
  have earlier : ∀ limit, s.phase = .connecting limit → Fresh terms s := by
    intro limit phase
    exact met.fresh (by rw [phase]; rfl)
  refine ⟨⟨met.introduces sound, ?_, ?_, ?_, ?_, ?_, steady.unread⟩, ?_⟩
  · intro limit phase
    refine ⟨reception_of_early (by rw [phase]; rfl) (earlier limit phase).welcome, ?_⟩
    exact fun a s' acted => met.looks phase acted
  · intro limit result phase verdict
    obtain ⟨m, _, s', acted, received⟩ := act_of_verdict (earlier limit phase).welcome phase verdict
    exact ⟨m, s', acted, received⟩
  · exact fun limit phase undecided => (earlier limit phase).givesUp phase undecided
  · exact fun payload time welcome => met.delivers sound arrivals_snd welcome
  · intro payload phase
    have kept := met.accepted (by rw [phase]; rfl)
    rcases met.past (by rw [phase]; rfl) with welcomed | ended
    · obtain ⟨⟨time, payload⟩, welcome⟩ := Option.isSome_iff_exists.mp welcomed
      rw [met.delivers sound arrivals_snd welcome, List.tail_cons] at kept
      simpa using kept
    · simp [phase, Phase.isEnded] at ended
  · intro prompt result time received
    have timely := Timely.of_run prompt
    cases written : s.introduced with
    | none =>
      have late : s.phase.isEarly = false := by
        by_contra early
        have early : s.phase.isEarly = true := by simpa using early
        rw [reception_of_early early (met.fresh early).welcome] at received
        cases received
      obtain ⟨fault, time', known⟩ := met.failed late written
      cases received.symm.trans known
      exact Or.inl ⟨sound.wire_eq_nil written, fault, rfl⟩
    | some start =>
      refine Or.inr ⟨start, ?_, (timely.decided result time start written received).2⟩
      simp [wire, written, sound.introduced.arguments]

/-- The arguments are written at three. At five the response arrives with two messages behind it,
and connecting is cancelled only after the response has been read. -/
def exchangeBuffered : List (Action String Nat String) :=
  [.event (.elapse 3), .event .introduced, .event (.elapse 5),
    .event (.arrive (.message (.connectResponse (.accepted "welcome")))),
    .event (.arrive (.message .ping)),
    .event (.arrive (.message (.request ⟨exchangeContext 1, 10⟩))),
    .move .readFirst, .event .cancel]

theorem connecting_decided_buffered :
    ∃ s : Session String String Nat String,
      (Session.opened exchangeTerms.settings 0 { payload := "hello" }).run exchangeTerms
        exchangeBuffered = some s ∧
      (Session.opened exchangeTerms.settings 0 { payload := "hello" }).runPromptly exchangeTerms
        exchangeBuffered = some s ∧
      s.reception? = some (.ok "welcome", 5) ∧ s.cancel = some 5 ∧
      s.inbox = [.message .ping, .message (.request ⟨exchangeContext 1, 10⟩)] ∧
      Connects exchangeTerms { payload := "hello" }
        ((Session.opened exchangeTerms.settings 0 { payload := "hello" }).arrivals exchangeTerms
          exchangeBuffered)
        [] s ∧
      DecidedInTime exchangeTerms { payload := "hello" }
        ((Session.opened exchangeTerms.settings 0 { payload := "hello" }).arrivals exchangeTerms
          exchangeBuffered) s :=
  ⟨_, rfl, rfl, rfl, rfl, rfl,
    (connecting_decided 0 { payload := "hello" } exchangeBuffered rfl).1,
    (connecting_decided 0 { payload := "hello" } exchangeBuffered rfl).2 rfl⟩

end Dialback.Session
