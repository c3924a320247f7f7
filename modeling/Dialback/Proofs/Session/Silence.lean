import Dialback.Proofs.Session.Listening

/-!
Silence, in time. A session that does everything as soon as it can leaves for silence at its limit,
neither before nor after, and it ends at that moment. If nothing else ends it first and nothing more
arrives, it gets there by itself, and on its way it cannot be kept busy without end. The clock of the
machine has to last for as long.
-/
namespace Dialback.Session

variable {α γ θ ρ : Type}

/-- What needs nobody: the moves of the session and the passing of time. -/
def Action.isSpontaneous : Action γ θ ρ → Bool
  | .move _ | .event (.elapse _) => true
  | _ => false

/-- The steps that are left, at most, what is unread included. -/
def upcoming (s : Session α γ θ ρ) : Nat :=
  s.remaining + 8 * s.inbox.length

/-- The session has been left for a silence that began at `start`, just at its limit. -/
structure Silenced (terms : Terms θ) (w : Watch γ θ) (s : Session α γ θ ρ) (d : Duration)
    (start : Nat) : Prop where
  silence : terms.settings.pingTimeout? = some d
  since : w.since = some start
  phase : (s.phase = .aborting (.fault (.silent d)) ∧ s.now = silenceLimit terms start) ∨
    (s.phase = .ended (.failed (.silent d)) (silenceLimit terms start) ∧
      silenceLimit terms start ≤ s.now)
  /-- In the meantime nothing has arrived. -/
  apart : ∀ m ∈ w.arrived, m.1 ≤ start ∨ silenceLimit terms start ≤ m.1

/-- When silence ends the session if nothing else happens. -/
inductive Due (terms : Terms θ) (d : Duration) (s : Session α γ θ ρ) : Nat → Prop
  /-- What is unread is read at once. -/
  | reading (limit : Nat) (phase : s.phase = .servicing limit) (unread : s.inbox ≠ [])
      (timely : deadline? terms s.now ≠ none) : Due terms d s (silenceLimit terms s.now)
  | listening (limit : Nat) (phase : s.phase = .servicing limit) (inbox : s.inbox = [])
      (early : s.now ≤ limit) : Due terms d s limit
  | aborting (phase : s.phase = .aborting (.fault (.silent d))) : Due terms d s s.now
  | ended (time : Nat) (phase : s.phase = .ended (.failed (.silent d)) time) : Due terms d s time

/-- Something asks for a limit that the clock does not show. -/
structure OutOfTime (terms : Terms θ) (s : Session α γ θ ρ) : Prop where
  late : deadline? terms s.now = none
  phase : s.phase = .unserviceable ∨ (s.phase.isServicing = true ∧ s.inbox ≠ [])

/-- How silence ends a session that does everything as soon as it can. -/
structure TimesOut (terms : Terms θ) (w : Watch γ θ) (s : Session α γ θ ρ) : Prop where
  /-- Time does not pass beyond the limit. -/
  waits : ∀ limit, s.phase = .servicing limit → s.now ≤ limit
  /-- Whoever is left for silence has been left at the limit, and ends then. -/
  onTime : ∀ d, s.outlook? = some (.failed (.silent d)) → ∃ start, Silenced terms w s d start
  /-- Without interruption servicing goes on up to the limit, or has ended for silence. -/
  watches : w.interrupted = false → ∀ start d, w.since = some start →
    terms.settings.pingTimeout? = some d →
    s.phase = .servicing (silenceLimit terms start) ∨ Silenced terms w s d start ∨
      (s.phase = .unserviceable ∧ deadline? terms s.now = none)
  /-- Then its end is due, and it comes to that end by itself. -/
  returns : w.interrupted = false → ¬ OutOfTime terms s → ∀ start d, w.since = some start →
    terms.settings.pingTimeout? = some d → ∃ time, Due terms d s time ∧
      ∃ rest s', (∀ a ∈ rest, a.isSpontaneous = true) ∧ s.runPromptly terms rest = some s' ∧
        s'.phase = .ended (.failed (.silent d)) time
  /-- Only arrivals can keep it busy, and time does not stand still without them. -/
  bounded : ∀ rest s', (∀ a ∈ rest, a.arrival? = none) → s.run terms rest = some s' →
    rest.countP (fun a => !a.isIdle) ≤ s.upcoming

variable {s s' : Session α γ θ ρ} {terms : Terms θ} {a : Action γ θ ρ} {w : Watch γ θ}
  {d : Duration} {limit start time : Nat}

/-! At the limit. -/

theorem now_le_of_promptly (limited : s.phase.limit? = some limit) (early : s.now ≤ limit)
    (acted : s.actPromptly terms a = some s') : s'.now ≤ limit := by
  have effect := Effect.of_act (act_of_promptly acted).1
  by_cases instant : ∀ time, a ≠ .event (.elapse time)
  · exact effect.now_eq instant ▸ early
  · simp only [not_forall, not_not] at instant
    obtain ⟨time, rfl⟩ := instant
    exact effect.elapsed.2 ▸ (mayWait_of_promptly acted).2 limit limited

/-- Whoever is torn down for a fault ends with it. -/
theorem Effect.torn (effect : Effect terms s a s') {reason : CallFault}
    (phase : s.phase = .aborting (.fault reason)) :
    s'.phase = s.phase ∨ s'.phase = .ended (.failed reason) s.now := by
  cases effect with
  | control control =>
    cases control with
    | stop | cancel | elapse => exact Or.inl rfl
    | introduced before | serve payload before | heedStop limit before | heedWriter limit before
    | giveUpServicing limit d before | overrun limit x rest before | drainOver cause limit before =>
      simp [phase] at before
  | finish outcome ends =>
    cases ends with
    | introductionFailed fault before | cancelConnect limit before
    | giveUpConnecting limit before | settle cause how before => simp [phase] at before
    | aborted fault before =>
      have same : reason = fault := by simpa [phase] using before
      exact Or.inr (by rw [same])
  | accept limit payload rest before | dismiss limit x rest outcome before =>
    simp [phase] at before
  | ignore x rest reading | hangUp x rest cause reading | ping rest outbox reading
  | pingRefused rest reading | dispatch request rest outbox reading =>
    obtain ⟨limit, before⟩ := reading.serving
    simp [phase] at before
  | joinPanicked i t limit job unnoticed before => simp [phase] at before
  | flush cause outbox flushes =>
    cases flushes with
    | drained cause limit before => simp [phase] at before
    | aborted cause before reported =>
      have same : .fault reason = cause := by simpa [phase] using before
      exact absurd same.symm (reported reason)
  | arrive | join | ask | start | answer | place | endJob | sink => exact Or.inl rfl

theorem Turn.quiet (turn : Turn terms s a s') (unserved : s.phase.isServicing = false)
    (begun : s.phase.isAccepted = false) : a.restarts = false := by
  cases turn with
  | stays quiet | beside quiet => exact quiet
  | restarts restarts able => simp [unserved, begun] at able
  | givesUp limit d same => exact same ▸ rfl
  | overruns same serving | leaves cause serving => simp [unserved] at serving

/-- Tearing down takes no time. -/
theorem Steady.aborts_at_once (steady : Steady terms s) {cause : Cause}
    (phase : s.phase = .aborting cause) (acted : s.actPromptly terms a = some s') :
    s'.now = s.now := by
  refine (Effect.of_act (act_of_promptly acted).1).now_eq fun time same => ?_
  exact (steady.aborts phase).not_quiet ((act_of_promptly acted).2 time same)

theorem Silenced.step (silenced : Silenced terms w s d start) (steady : Steady terms s)
    (acted : s.actPromptly terms a = some s') : Silenced terms (w.note s a) s' d start := by
  have effect := Effect.of_act (act_of_promptly acted).1
  have past : silenceLimit terms start ≤ s.now := by
    rcases silenced.phase with ⟨_, now⟩ | ⟨_, late⟩
    · exact Nat.le_of_eq now.symm
    · exact late
  have quiet : a.restarts = false := by
    rcases silenced.phase with ⟨phase, _⟩ | ⟨phase, _⟩
    · exact effect.turn.quiet (by rw [phase]; rfl) (by rw [phase]; rfl)
    · exact effect.turn.quiet (by rw [phase]; rfl) (by rw [phase]; rfl)
  refine ⟨silenced.silence, by simp [Watch.note, quiet, silenced.since], ?_, ?_⟩
  · rcases silenced.phase with ⟨phase, now⟩ | ⟨phase, late⟩
    · have now' := steady.aborts_at_once phase acted
      rcases effect.torn phase with same | ended
      · exact Or.inl ⟨same.trans phase, now'.trans now⟩
      · exact Or.inr ⟨now ▸ ended, Nat.le_of_eq (now'.trans now).symm⟩
    · have same := (effect.bygone (by rw [phase]; rfl)).ended (by rw [phase]; rfl)
      exact Or.inr ⟨same.trans phase, Nat.le_trans late effect.now_le⟩
  · intro m member
    rcases mem_noteArrival member with before | ⟨now, _⟩
    · exact silenced.apart m before
    · exact Or.inr (now ▸ past)

/-- What is known besides if everything is done as soon as it can be. -/
structure InTime (terms : Terms θ) (w : Watch γ θ) (s : Session α γ θ ρ) : Prop where
  watched : Watched terms w s
  waits : ∀ limit, s.phase = .servicing limit → s.now ≤ limit
  onTime : ∀ d, s.outlook? = some (.failed (.silent d)) → ∃ start, Silenced terms w s d start

theorem InTime.opened (settings : CallSettings) (openedAt : Nat)
    (arguments : ConnectArguments α) :
    InTime terms {} (Session.opened settings openedAt arguments : Session α γ θ ρ) where
  watched := .opened settings openedAt arguments
  waits limit phase := by cases phase
  onTime d silent := by cases silent

/-- Whoever gives up does so at the limit. -/
theorem InTime.silenced (inTime : InTime terms w s) (turn : Turn terms s a s')
    (now : s'.now = s.now) (unsettled : s.outlook? = none)
    (silent : s'.outlook? = some (.failed (.silent d))) :
    ∃ start, Silenced terms (w.note s a) s' d start := by
  obtain ⟨rfl, silence, inbox, phase', limit, phase, late⟩ := turn.silenced unsettled silent
  obtain ⟨start, since, rfl⟩ := inTime.watched.limit limit phase
  have reached : s.now = silenceLimit terms start :=
    Nat.le_antisymm (inTime.waits _ phase) late
  refine ⟨start, silence, since, Or.inl ⟨phase', now.trans reached⟩, fun m member => Or.inl ?_⟩
  rcases mem_noteArrival member with before | ⟨_, arrival⟩
  · exact inTime.watched.heard (by rw [phase]; rfl) inbox start since m before
  · cases arrival

theorem InTime.step (inTime : InTime terms w s) (acted : s.actPromptly terms a = some s') :
    InTime terms (w.note s a) s' := by
  have effect := Effect.of_act (act_of_promptly acted).1
  refine ⟨inTime.watched.step (act_of_promptly acted).1, fun limit phase' => ?_, fun d silent => ?_⟩
  · rcases effect.turn.serving phase' with ⟨restarts, rfl⟩ | ⟨_, phase, _⟩
    · have instant : ∀ time, a ≠ .event (.elapse time) := by
        rintro time rfl
        cases restarts
      rw [effect.now_eq instant]
      exact Nat.le_add_right _ _
    · exact now_le_of_promptly (by rw [phase]; rfl) (inTime.waits limit phase) acted
  · cases known : s.outlook? with
    | none =>
      refine inTime.silenced effect.turn (effect.now_eq ?_) known silent
      rintro time rfl
      obtain ⟨same, _⟩ := effect.turn.silenced known silent
      cases same
    | some outcome =>
      have same : outcome = .failed (.silent d) :=
        Option.some.inj ((effect.outlook known).symm.trans silent)
      obtain ⟨start, silenced⟩ := inTime.onTime d (same ▸ known)
      exact ⟨start, silenced.step inTime.watched.steady acted⟩

theorem InTime.of_run {openedAt : Nat} {arguments : ConnectArguments α}
    {actions : List (Action γ θ ρ)}
    (ran : (Session.opened terms.settings openedAt arguments).runPromptly terms actions = some s) :
    InTime terms ((Session.opened terms.settings openedAt arguments).watch terms actions) s :=
  Runs.narrower_induction (fun _ _ _ acted => (act_of_promptly acted).1)
    (fun _ _ _ _ inTime acted => inTime.step acted) (.opened terms.settings openedAt arguments) ran

/-! Less and less to do. -/

theorem workOf_append (jobs : List (Job θ)) (t : Job θ) :
    workOf (jobs ++ [t]) = workOf jobs + t.remaining := by
  induction jobs with
  | nil => simp [workOf]
  | cons u rest ih =>
    rw [List.cons_append, workOf, workOf, ih]
    omega

/-- Reading makes less work than there is in what was unread. -/
private theorem read_upcoming {x : Inbound γ θ} {rest : List (Inbound γ θ)}
    (reading : Reading s x rest) (inbox : s'.inbox = rest) (phase : s'.phase.remaining ≤ 4)
    (work : workOf s'.jobs + s'.outbox.remaining ≤
      workOf s.jobs + s.outbox.remaining + 7) : s'.upcoming < s.upcoming := by
  obtain ⟨limit, serving⟩ := reading.serving
  have before : s.phase.remaining = 4 := by
    rw [serving]
    rfl
  simp only [upcoming, remaining, inbox, reading.inbox, before, List.length_cons]
  omega

theorem Effect.upcoming_of_read (effect : Effect terms s (.move .read) s') :
    s'.upcoming < s.upcoming := by
  have serving := servingPhase_remaining (γ := γ) s.now terms
  have leaving := leavingPhase_remaining (γ := γ) s.now terms
  cases effect with
  | ignore x rest reading => exact read_upcoming reading rfl serving (Nat.le_add_right _ _)
  | hangUp x rest cause reading =>
    exact read_upcoming reading rfl (Nat.le_succ_of_le (leaving cause)) (Nat.le_add_right _ _)
  | ping rest outbox reading taken =>
    obtain ⟨_, rfl⟩ := Outbox.step_pong.mp taken
    refine read_upcoming reading rfl serving ?_
    simp only [Outbox.remaining, List.length_append, List.length_singleton]
    omega
  | pingRefused rest reading =>
    exact read_upcoming reading rfl (Nat.le_succ_of_le (leaving .writerEnded))
      (Nat.le_add_right _ _)
  | dispatch request rest outbox reading retained =>
    obtain ⟨_, rfl⟩ := Outbox.step_retain.mp retained
    refine read_upcoming reading rfl serving ?_
    simp only [workOf_append, Job.remaining, Outbox.remaining]
    omega
  | control other | finish outcome other | flush cause outbox other
  | endJob i t how outbox job other | sink b outbox other => cases other

/-- Only arrivals add to what is unread. -/
theorem Effect.inbox_le (effect : Effect terms s a s') (alone : a.arrival? = none) :
    s'.inbox.length ≤ s.inbox.length := by
  cases effect with
  | arrive => cases alone
  | accept limit payload rest phase inbox | dismiss limit x rest outcome phase inbox =>
    simp [inbox]
  | ignore x rest reading | hangUp x rest cause reading | ping rest outbox reading
  | pingRefused rest reading | dispatch request rest outbox reading => simp [reading.inbox]
  | control control => cases control <;> exact Nat.le_refl _
  | finish | join | joinPanicked | flush | ask | start | answer | place | endJob | sink =>
    exact Nat.le_refl _

theorem Effect.upcoming_le (effect : Effect terms s a s') (alone : a.arrival? = none) :
    (!a.isIdle).toNat + s'.upcoming ≤ s.upcoming := by
  have unread := effect.inbox_le alone
  cases idle : a.isIdle with
  | true =>
    simp only [upcoming, effect.remaining_idle idle, Bool.not_true, Bool.toNat_false]
    omega
  | false =>
    rw [Bool.not_false, Bool.toNat_true, Nat.add_comm]
    by_cases reads : a = .move .read
    · subst reads
      exact effect.upcoming_of_read
    · have less := effect.remaining_lt idle reads
      unfold upcoming
      omega

theorem run_upcoming {actions : List (Action γ θ ρ)} (ran : s.run terms actions = some s')
    (alone : ∀ a ∈ actions, a.arrival? = none) :
    actions.countP (fun a => !a.isIdle) + s'.upcoming ≤ s.upcoming :=
  Runs.countP_le upcoming (fun a => !a.isIdle) (·.arrival? = none)
    (fun _ _ _ alone acted => (Effect.of_act acted).upcoming_le alone) alone ran

/-! Left to itself. -/

theorem arrival_of_spontaneous (spontaneous : a.isSpontaneous = true) :
    a.arrival? = none ∧ a.interrupts = false := by
  unfold Action.isSpontaneous at spontaneous
  split at spontaneous
  · exact ⟨rfl, rfl⟩
  · exact ⟨rfl, rfl⟩
  · cases spontaneous

theorem silent_eq_some (silent : s.silent? terms time = some d) :
    s.inbox = [] ∧ ∃ limit, s.phase = .servicing limit ∧ limit ≤ time := by
  unfold silent? at silent
  split at silent
  case h_1 limit phase inbox =>
    split at silent
    case isTrue late => exact ⟨inbox, limit, phase, late⟩
    case isFalse => cases silent
  case h_2 => cases silent

/-- What is unread is read before time passes. -/
private theorem Calm.due_of_unread (calm : Calm s) (steady : Steady terms s)
    (phase : s.phase = .servicing limit) (unread : s.inbox ≠ [])
    (timely : deadline? terms s.now ≠ none) (spontaneous : a.isSpontaneous = true)
    (acted : s.actPromptly terms a = some s') : Due terms d s' (silenceLimit terms s.now) := by
  have effect := Effect.of_act (act_of_promptly acted).1
  have serving : s.phase.isServicing = true := by
    rw [phase]
    rfl
  have now := effect.now_eq fun time same =>
    unread (steady.unread serving ((act_of_promptly acted).2 time same))
  rw [← now]
  rcases calm.leaves steady serving effect with serving' | ⟨late, _⟩ | ⟨d', silent, _⟩
  · obtain ⟨limit', phase'⟩ := Phase.servicing_of_isServicing serving'
    rcases effect.turn.serving phase' with ⟨_, rfl⟩ | ⟨_, _, inbox⟩
    · by_cases read : s'.inbox = []
      · rw [← now] at phase'
        exact .listening _ phase' read (Nat.le_add_right _ _)
      · exact .reading _ phase' read (now ▸ timely)
    · refine .reading limit' phase' ?_ (now ▸ timely)
      rw [inbox, (arrival_of_spontaneous spontaneous).1]
      simpa using unread
  · exact absurd late timely
  · exact absurd (silent_eq_some silent).1 unread

/-- Servicing fails only for something that is unread. -/
theorem unread_of_overrun (acted : s.act terms a = some s') (phase : s.phase = .servicing limit)
    (stuck : s'.phase = .unserviceable) : s.inbox ≠ [] := by
  cases (Effect.of_act acted).turn with
  | stays quiet same => simp [same, phase] at stuck
  | restarts restarts able begun =>
    rcases Action.restarts_cases restarts with rfl | rfl
    · simp [act, receive, phase] at acted
    · obtain ⟨x, rest, reading⟩ := (Effect.of_act acted).reading
      simp [reading.inbox]
  | givesUp limit d same before late inbox silence left => simp [left] at stuck
  | overruns same serving unread => exact unread
  | leaves cause serving other left =>
    rcases leavingPhase_cases (γ := γ) s.now terms cause with ⟨_, limit, same⟩ | ⟨_, same⟩ <;>
      simp [left, same] at stuck
  | beside quiet before after => exact absurd stuck after.2

/-- As long as nothing arrives the limit stays, and is where listening ends. -/
private theorem Calm.due_of_read (calm : Calm s) (steady : Steady terms s)
    (silence : terms.settings.pingTimeout? = some d) (phase : s.phase = .servicing limit)
    (inbox : s.inbox = []) (early : s.now ≤ limit) (spontaneous : a.isSpontaneous = true)
    (acted : s.actPromptly terms a = some s') : Due terms d s' limit := by
  have effect := Effect.of_act (act_of_promptly acted).1
  have turn := effect.turn
  rcases calm.leaves steady (by rw [phase]; rfl) effect with serving' | overrun | ⟨d', _, left⟩
  · obtain ⟨limit', phase'⟩ := Phase.servicing_of_isServicing serving'
    rcases turn.serving phase' with ⟨restarts, _⟩ | ⟨_, before, inbox'⟩
    · rcases Action.restarts_cases restarts with rfl | rfl
      · cases spontaneous
      · obtain ⟨x, rest, reading⟩ := effect.reading
        cases inbox.symm.trans reading.inbox
    · cases phase.symm.trans before
      refine .listening limit phase' ?_ (now_le_of_promptly (by rw [phase]; rfl) early acted)
      rw [inbox', inbox, (arrival_of_spontaneous spontaneous).1]
      rfl
  · exact absurd inbox (unread_of_overrun (act_of_promptly acted).1 phase overrun.2)
  · obtain ⟨same, silence', _, phase', limit', before, late⟩ :=
      turn.silenced (by simp [outlook?, phase]) left
    cases phase.symm.trans before
    cases silence.symm.trans silence'
    have now := effect.now_eq (by simp [same])
    rw [← now.trans (Nat.le_antisymm early late)]
    exact .aborting phase'

/-- What is due stays due. -/
theorem Due.step (due : Due terms d s time) (steady : Steady terms s)
    (calm : s.outlook? = none → Calm s) (silence : terms.settings.pingTimeout? = some d)
    (spontaneous : a.isSpontaneous = true) (acted : s.actPromptly terms a = some s') :
    Due terms d s' time := by
  have effect := Effect.of_act (act_of_promptly acted).1
  cases due with
  | reading limit phase unread timely =>
    exact (calm (by simp [outlook?, phase])).due_of_unread steady phase unread timely spontaneous
      acted
  | listening _ phase inbox early =>
    exact (calm (by simp [outlook?, phase])).due_of_read steady silence phase inbox early
      spontaneous acted
  | aborting phase =>
    have now := steady.aborts_at_once phase acted
    rcases effect.torn phase with same | ended
    · rw [← now]
      exact .aborting (same.trans phase)
    · exact .ended s.now ended
  | ended _ phase =>
    have stays := (effect.bygone (by rw [phase]; rfl)).ended (by rw [phase]; rfl)
    exact .ended time (stays.trans phase)

/-- Every move leaves less to do. -/
private theorem upcoming_onward {m : Move} (able : (s.act terms (.move m)).isSome = true) :
    ∃ actions s', (∀ a ∈ actions, a.isSpontaneous = true) ∧
      s.runPromptly terms actions = some s' ∧ s'.upcoming < s.upcoming := by
  obtain ⟨next, acted⟩ := Option.isSome_iff_exists.mp able
  have less := (Effect.of_act acted).upcoming_le rfl
  refine ⟨[.move m], next, by simp [Action.isSpontaneous], ?_, ?_⟩
  · exact Runs.foldlM_cons.mpr ⟨next, acted, rfl⟩
  · simp only [Action.isIdle, Bool.not_false, Bool.toNat_true] at less
    omega

/-- At the limit the loop has something to do. -/
private theorem Steady.ready_at_limit (steady : Steady terms s)
    (silence : terms.settings.pingTimeout? = some d) (phase : s.phase = .servicing limit)
    (inbox : s.inbox = []) (late : limit ≤ s.now) :
    ∃ m ∈ s.moves, (s.act terms (.move m)).isSome = true := by
  have pends : s.pending terms ≠ [] := by
    simp [pending, outcomesOf, silent?, phase, inbox, late, silence]
  obtain ⟨m, member, _, able⟩ := steady.ready (by rw [phase]; rfl) (Or.inl pends)
  exact ⟨m, member, able⟩

/-- Until the session is over it can go on by itself. -/
theorem Due.goes_on (due : Due terms d s time) (steady : Steady terms s)
    (silence : terms.settings.pingTimeout? = some d) :
    s.phase = .ended (.failed (.silent d)) time ∨ ∃ actions s',
      (∀ a ∈ actions, a.isSpontaneous = true) ∧ s.runPromptly terms actions = some s' ∧
        s'.upcoming < s.upcoming := by
  cases due with
  | reading limit phase unread =>
    obtain ⟨m, _, _, able⟩ := steady.ready (by rw [phase]; rfl) (Or.inr unread)
    exact Or.inr (upcoming_onward able)
  | listening _ phase inbox early =>
    right
    cases quiet : s.isQuiet terms with
    | false =>
      obtain ⟨m, _, able⟩ := List.all_eq_false.mp quiet
      exact upcoming_onward (by simpa [act, Option.isSome_iff_ne_none] using able)
    | true =>
      -- nothing is left but to listen until the limit
      have later : s.now < time := by
        by_contra late
        obtain ⟨m, member, able⟩ :=
          steady.ready_at_limit silence phase inbox (Nat.le_of_not_lt late)
        exact not_quiet member able quiet
      have waited : s.actPromptly terms (.event (.elapse time)) = some { s with now := time } := by
        simp [actPromptly, mayWait, quiet, phase, Phase.limit?, act, receive, later]
      have steady' := steady.step (Effect.of_act (act_of_promptly waited).1)
      obtain ⟨m, _, able⟩ := steady'.ready_at_limit silence phase inbox (Nat.le_refl _)
      obtain ⟨actions, s', spontaneous, ran, less⟩ := upcoming_onward able
      exact ⟨.event (.elapse time) :: actions, s', List.forall_mem_cons.mpr ⟨rfl, spontaneous⟩,
        Runs.foldlM_cons.mpr ⟨_, waited, ran⟩, less⟩
  | aborting phase =>
    obtain ⟨m, _, _, able⟩ := steady.aborts phase
    exact Or.inr (upcoming_onward able)
  | ended _ phase => exact Or.inl phase

/-- A session that nothing interrupts, and when it ends. -/
structure Waiting (terms : Terms θ) (d : Duration) (time : Nat) (s : Session α γ θ ρ) : Prop where
  steady : Steady terms s
  calm : s.outlook? = none → Calm s
  due : Due terms d s time

theorem Waiting.step (waiting : Waiting terms d time s)
    (silence : terms.settings.pingTimeout? = some d) (spontaneous : a.isSpontaneous = true)
    (acted : s.actPromptly terms a = some s') : Waiting terms d time s' := by
  have effect := Effect.of_act (act_of_promptly acted).1
  refine ⟨waiting.steady.step effect, fun unsettled' => ?_,
    waiting.due.step waiting.steady waiting.calm silence spontaneous acted⟩
  have unsettled := effect.unsettled unsettled'
  exact (waiting.calm unsettled).step waiting.steady unsettled'
    (arrival_of_spontaneous spontaneous).2 effect

theorem Waiting.returns (waiting : Waiting terms d time s)
    (silence : terms.settings.pingTimeout? = some d) : ∃ rest s',
      (∀ a ∈ rest, a.isSpontaneous = true) ∧ s.runPromptly terms rest = some s' ∧
        s'.phase = .ended (.failed (.silent d)) time := by
  have kept : ∀ (s : Session α γ θ ρ) (actions : List (Action γ θ ρ)) s',
      Waiting terms d time s → (∀ a ∈ actions, a.isSpontaneous = true) →
      s.runPromptly terms actions = some s' → Waiting terms d time s' := by
    intro s actions s' waiting spontaneous ran
    exact Runs.preserved (fun a => a.isSpontaneous = true)
      (fun _ _ _ spontaneous waiting acted => waiting.step silence spontaneous acted) waiting
      spontaneous ran
  exact Runs.reaches upcoming (fun a : Action γ θ ρ => a.isSpontaneous = true) kept
    (fun s waiting => waiting.due.goes_on waiting.steady silence) waiting

/-- While nothing interrupts, a session listens or has been left for silence. -/
theorem InTime.listens (inTime : InTime terms w s) (uninterrupted : w.interrupted = false)
    (since : w.since = some start) (silence : terms.settings.pingTimeout? = some d) :
    s.phase = .servicing (silenceLimit terms start) ∨ Silenced terms w s d start ∨
      (s.phase = .unserviceable ∧ deadline? terms s.now = none) := by
  have watched := inTime.watched
  rcases watched.attended uninterrupted (by rw [since]; rfl) with serving | stuck | ⟨d', silent⟩
  · obtain ⟨limit, phase⟩ := Phase.servicing_of_isServicing serving
    obtain ⟨start', since', rfl⟩ := watched.limit limit phase
    cases since.symm.trans since'
    exact Or.inl phase
  · exact Or.inr (Or.inr ⟨stuck, watched.refused stuck⟩)
  · obtain ⟨start', silenced⟩ := inTime.onTime d' silent
    cases since.symm.trans silenced.since
    cases silence.symm.trans silenced.silence
    exact Or.inr (Or.inl silenced)

theorem InTime.due (inTime : InTime terms w s) (uninterrupted : w.interrupted = false)
    (since : w.since = some start) (silence : terms.settings.pingTimeout? = some d)
    (able : ¬ OutOfTime terms s) : ∃ time, Due terms d s time := by
  rcases inTime.listens uninterrupted since silence with phase | silenced | ⟨stuck, late⟩
  · by_cases inbox : s.inbox = []
    · exact ⟨_, .listening _ phase inbox (inTime.waits _ phase)⟩
    · exact ⟨_, .reading _ phase inbox fun late => able ⟨late, Or.inr ⟨by rw [phase]; rfl, inbox⟩⟩⟩
  · rcases silenced.phase with ⟨phase, _⟩ | ⟨phase, _⟩
    · exact ⟨s.now, .aborting phase⟩
    · exact ⟨_, .ended _ phase⟩
  · exact absurd ⟨late, Or.inl stuck⟩ able

/-- Silence ends a session when it has lasted for as long as the settings allow, whatever else the
session does meanwhile. -/
theorem silence_watched (openedAt : Nat) (arguments : ConnectArguments α)
    (actions : List (Action γ θ ρ))
    (ran : (Session.opened terms.settings openedAt arguments).run terms actions = some s) :
    (∀ d, terms.settings.pingTimeout? = some d → d.nanoseconds =
        terms.settings.pingInterval.nanoseconds *
          max terms.settings.pingTimeoutMultiplier.toNat 1 ∧
      d.ticks = terms.settings.pingTimeoutMs) ∧
    Listening terms
      ((Session.opened terms.settings openedAt arguments).watch terms actions) s ∧
    ((Session.opened terms.settings openedAt arguments).runPromptly terms actions = some s →
      TimesOut terms
        ((Session.opened terms.settings openedAt arguments).watch terms actions) s) := by
  have watched := Watched.of_run ran
  refine ⟨fun d => silence_eq, watched.listening, fun prompt => ?_⟩
  have inTime := InTime.of_run prompt
  refine ⟨inTime.waits, inTime.onTime, ?_, ?_, ?_⟩
  · intro uninterrupted start d since silence
    exact inTime.listens uninterrupted since silence
  · intro uninterrupted able start d since silence
    obtain ⟨time, due⟩ := inTime.due uninterrupted since silence able
    have waiting : Waiting terms d time s :=
      ⟨watched.steady, watched.calm uninterrupted, due⟩
    exact ⟨time, due, waiting.returns silence⟩
  · intro rest s' alone ran'
    have bound := run_upcoming ran' alone
    omega

/-- A request is read at fifty. Its response is written at nine thousand, and nothing more is heard.
The pings are five seconds apart, and may be missed for three times as long. -/
def exchangeSilent : List (Action String Nat String) :=
  exchangeStart ++
    [.event (.elapse 50), .event (.arrive (.message (.request ⟨exchangeContext 1, 10⟩))),
      .move .read, .move (.ask 0), .move (.start 0), .event (.elapse 9000),
      .event (.answer 0 { payload := "ten" }), .move (.place 0), .move (.join 0), .move .pick,
      .event .wrote, .event (.elapse 15050), .move .giveUpServicing, .move .aborted]

theorem silence_watched_exchange :
    ∃ (s : Session String String Nat String) (w : Watch String Nat),
      (Session.opened exchangeTerms.settings 0 { payload := "hello" }).run exchangeTerms
        exchangeSilent = some s ∧
      (Session.opened exchangeTerms.settings 0 { payload := "hello" }).runPromptly exchangeTerms
        exchangeSilent = some s ∧
      (Session.opened exchangeTerms.settings 0 { payload := "hello" }).watch exchangeTerms
        exchangeSilent = w ∧
      w.since = some 50 ∧ w.interrupted = false ∧
      s.phase = .ended (.failed (.silent ⟨15_000_000_000, by decide⟩)) 15050 ∧
      Listening exchangeTerms w s ∧ TimesOut exchangeTerms w s :=
  ⟨_, _, rfl, rfl, rfl, rfl, rfl, rfl,
    (silence_watched 0 { payload := "hello" } exchangeSilent rfl).2.1,
    (silence_watched 0 { payload := "hello" } exchangeSilent rfl).2.2 rfl⟩

end Dialback.Session
