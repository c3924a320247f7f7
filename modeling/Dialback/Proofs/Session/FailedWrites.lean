import Dialback.Proofs.Session.Pending

/-!
Failed writes. While a session is serviced both lanes of its outbox are kept open, so its writer
ends only by a write that does not succeed. However the loop finds out, by the writer's report or by
a pong that is refused, the session ends with the fault of that write.
-/
namespace Dialback.Session

variable {α γ θ ρ : Type}

/-- How a write that does not succeed ends the writer. -/
def Action.brokenEnd? : Action γ θ ρ → Option WriterEnd
  | .event (.introductionFailed fault) | .event (.writeFailed fault) => some (.writeFailed fault)
  | .event .writerCrashed => some .crashed
  | _ => none

/-- The fault of a failed write. A crash tells of none, and counts as a closed connection. -/
def WriterEnd.fault? : WriterEnd → Option TransportFault
  | writeFailed fault => some fault
  | crashed => some .closed
  | _ => none

/-- The first write of the run that did not succeed. -/
def firstFailure (actions : List (Action γ θ ρ)) : Option WriterEnd :=
  actions.findSome? Action.brokenEnd?

/-- The loop has been left because of this failed write. -/
def Blames (terms : Terms θ) (failure : Option WriterEnd) (s : Session α γ θ ρ) : Prop :=
  ∃ how fault, failure = some how ∧ how.fault? = some fault ∧
    Settles terms s (.failed (.transport fault))

/-- The session after a ping whose pong was refused. -/
def afterRefusal (s : Session α γ θ ρ) (terms : Terms θ) (rest : List (Inbound γ θ)) :
    Session α γ θ ρ :=
  { s with inbox := rest, pings := s.pings + 1 }.leave terms .writerEnded

/-- How a session answers for its writer, if this was the first failed write. -/
structure Attributed (terms : Terms θ) (failure : Option WriterEnd) (s : Session α γ θ ρ) :
    Prop where
  /-- While servicing both lanes are open. -/
  kept : s.phase.isServicing = true →
    s.outbox.pongsOpen = true ∧ ownHandles ≤ s.outbox.handles ∧ s.outbox.writer.isShutting = false
  /-- The writer has ended just if a write has failed, and in the way of that write. -/
  broken : s.phase.isServicing = true → s.outbox.writer.ending? = failure
  /-- Whoever leaves because of the writer blames that write. -/
  left : s.phase.isServicing = true → ∀ a s', s.act terms a = some s' →
    s'.phase.cause? = some .writerEnded → Blames terms failure s'
  /-- So does whoever leaves because a pong is refused, even if the loop has not looked at the
  writer since it failed. -/
  refused : s.phase.isServicing = true → ∀ rest, s.inbox = .message .ping :: rest →
    s.outbox.step (.pong .pong) = none → Blames terms failure (s.afterRefusal terms rest)
  /-- A ping that is read has its pong queued, or else the session is left. -/
  reported : s.phase.isServicing = true → ∀ rest s', s.inbox = .message .ping :: rest →
    s.act terms (.move .read) = some s' →
    (s'.outbox.pongs = s.outbox.pongs ++ [.pong] ∧ s'.phase.isServicing = true) ∨
      (s.outbox.step (.pong .pong) = none ∧ Blames terms failure s')
  /-- No run ends with a writer that has merely stopped. -/
  unstopped : ∀ time, s.phase ≠ .ended (.failed .writerStopped) time

/-- The outbox has not been given up, or was given up because of the writer. -/
def Phase.minds (phase : Phase γ) : Prop :=
  phase.isClosed = false ∨ phase.cause? = some .writerEnded

/-- What the attribution relies on, at every moment. -/
structure Blamed (failure : Option WriterEnd) (s : Session α γ θ ρ) : Prop where
  known : ∀ how, failure = some how → how.fault?.isSome = true
  writer : s.phase.minds → s.outbox.writer.ending? = failure
  fault : ∀ reason, s.phase.cause? = some (.fault reason) → reason ≠ .writerStopped
  outcome : ∀ time, s.phase ≠ .ended (.failed .writerStopped) time

variable {s s' : Session α γ θ ρ} {terms : Terms θ} {a : Action γ θ ρ} {failure : Option WriterEnd}

/-! Actions at which no write fails. -/

theorem Control.brokenEnd (control : Control terms s a s') : a.brokenEnd? = none := by
  cases control <;> rfl

theorem Flushes.brokenEnd {cause : Cause} (flushes : Flushes s a cause) : a.brokenEnd? = none := by
  cases flushes <;> rfl

theorem JobEnds.brokenEnd {i : Nat} {t : Job θ} {how : JobEnd} (ends : JobEnds s i t a how) :
    a.brokenEnd? = none := by
  cases ends <;> rfl

theorem Action.fault_of_brokenEnd {how : WriterEnd} (broken : a.brokenEnd? = some how) :
    how.fault?.isSome = true := by
  unfold brokenEnd? at broken
  split at broken <;> cases broken <;> rfl

/-! Outcomes. -/

theorem outcomeOf_broken {how : WriterEnd} {fault : TransportFault}
    (broken : how.fault? = some fault) :
    outcomeOf .writerEnded how = .failed (.transport fault) := by
  unfold WriterEnd.fault? at broken
  split at broken <;> cases broken <;> rfl

/-- Nobody hears of a writer that merely stopped. -/
private theorem Blamed.outcomeOf_ne (blamed : Blamed failure s) {cause : Cause} {how : WriterEnd}
    (phase : s.phase = .flushing cause) (ended : s.outbox.writer.ending? = some how) :
    outcomeOf cause how ≠ .failed .writerStopped := by
  cases cause with
  | stopped | closed => simp [outcomeOf]
  | fault reason =>
    have other := blamed.fault reason (by rw [phase]; rfl)
    simpa [outcomeOf] using other
  | writerEnded =>
    have same := blamed.writer (Or.inr (by rw [phase]; rfl))
    obtain ⟨fault, known⟩ := Option.isSome_iff_exists.mp (blamed.known how (same.symm.trans ended))
    simp [outcomeOf_broken known]

/-! Steps. -/

theorem Blamed.opened (settings : CallSettings) (openedAt : Nat) (arguments : ConnectArguments α) :
    Blamed none (Session.opened settings openedAt arguments : Session α γ θ ρ) where
  known how none := by cases none
  writer _ := rfl
  fault reason phase := by simp [Session.opened, Phase.cause?] at phase
  outcome time phase := by simp [Session.opened] at phase

/-- No write fails and the writer stays as it is. -/
private theorem Blamed.keep (blamed : Blamed failure s) (quiet : a.brokenEnd? = none)
    (writer : s'.outbox.writer = s.outbox.writer) (minds : s'.phase.minds → s.phase.minds)
    (fault : ∀ reason, s'.phase.cause? = some (.fault reason) → reason ≠ .writerStopped)
    (lasts : s'.phase.isEnded = false) : Blamed (failure.or a.brokenEnd?) s' := by
  rw [quiet, Option.or_none]
  refine ⟨blamed.known, fun mindful => ?_, fault, fun time phase => ?_⟩
  · rw [writer]
    exact blamed.writer (minds mindful)
  · simp [phase, Phase.isEnded] at lasts

/-- The phase stays as it is, too. -/
private theorem Blamed.stay (blamed : Blamed failure s) (quiet : a.brokenEnd? = none)
    (writer : s'.outbox.writer = s.outbox.writer) (phase : s'.phase = s.phase) :
    Blamed (failure.or a.brokenEnd?) s' := by
  rw [quiet, Option.or_none]
  refine ⟨blamed.known, ?_, ?_, ?_⟩
  · rw [writer, phase]
    exact blamed.writer
  · rw [phase]
    exact blamed.fault
  · rw [phase]
    exact blamed.outcome

/-- The loop goes on. -/
private theorem Blamed.serve (blamed : Blamed failure s) (quiet : a.brokenEnd? = none)
    (writer : s'.outbox.writer = s.outbox.writer) (isOpen : s.phase.isClosed = false) {now : Nat}
    (phase : s'.phase = servingPhase now terms) : Blamed (failure.or a.brokenEnd?) s' := by
  refine blamed.keep quiet writer (fun _ => Or.inl isOpen) (fun reason because => ?_) ?_
  · rw [phase] at because
    rcases servingPhase_cases (γ := γ) now terms with ⟨limit, same⟩ | same <;>
      simp [same, Phase.cause?] at because
  · rcases servingPhase_cases (γ := γ) now terms with ⟨limit, same⟩ | same <;>
      simp [phase, same, Phase.isEnded]

/-- The loop is left. -/
private theorem Blamed.leave (blamed : Blamed failure s) (quiet : a.brokenEnd? = none)
    (writer : s'.outbox.writer = s.outbox.writer) (isOpen : s.phase.isClosed = false)
    (terms : Terms θ) (now : Nat) (cause : Cause) (phase : s'.phase = leavingPhase now terms cause)
    (other : cause ≠ .fault .writerStopped) : Blamed (failure.or a.brokenEnd?) s' := by
  refine blamed.keep quiet writer (fun _ => Or.inl isOpen) (fun reason because => ?_) ?_
  · rw [phase, leavingPhase_cause] at because
    rintro rfl
    exact other (Option.some.inj because)
  · rcases leavingPhase_cases (γ := γ) now terms cause with ⟨_, limit, same⟩ | ⟨_, same⟩ <;>
      simp [phase, same, Phase.isEnded]

/-- The session is over, with whatever outcome but one. -/
private theorem Blamed.finish (blamed : Blamed failure s) {outcome : Outcome} {time : Nat}
    (phase : s'.phase = .ended outcome time) (other : outcome ≠ .failed .writerStopped) :
    Blamed (failure.or a.brokenEnd?) s' := by
  refine ⟨fun how same => ?_, fun mindful => ?_, fun reason because => ?_, fun t ended => ?_⟩
  · rcases Option.or_eq_some_iff.mp same with before | ⟨_, now⟩
    · exact blamed.known how before
    · exact Action.fault_of_brokenEnd now
  · simp [phase, Phase.minds, Phase.isClosed, Phase.cause?] at mindful
  · simp [phase, Phase.cause?] at because
  · rw [phase] at ended
    cases ended
    exact other rfl

private theorem Blamed.control (blamed : Blamed failure s) (control : Control terms s a s') :
    Blamed (failure.or a.brokenEnd?) s' := by
  have quiet := control.brokenEnd
  cases control with
  | stop | cancel | elapse => exact blamed.stay quiet rfl rfl
  | introduced phase =>
    exact blamed.keep quiet rfl (fun _ => Or.inl (by rw [phase]; rfl)) (by simp [Phase.cause?]) rfl
  | serve payload phase => exact blamed.serve quiet rfl (by rw [phase]; rfl) rfl
  | heedStop limit phase =>
    exact blamed.leave quiet rfl (by rw [phase]; rfl) terms s.now .stopped rfl (by simp)
  | heedWriter limit phase =>
    exact blamed.leave quiet rfl (by rw [phase]; rfl) terms s.now .writerEnded rfl (by simp)
  | giveUpServicing limit d phase =>
    exact blamed.leave quiet rfl (by rw [phase]; rfl) terms s.now (.fault (.silent d)) rfl (by simp)
  | overrun limit x rest phase =>
    exact blamed.keep quiet rfl (fun _ => Or.inl (by rw [phase]; rfl)) (by simp [Phase.cause?]) rfl
  | drainOver cause limit phase =>
    refine blamed.keep quiet rfl (fun _ => Or.inl (by rw [phase]; rfl)) ?_ rfl
    intro reason because
    exact blamed.fault reason (by rw [phase]; exact because)

/-- What the writer does is a write that fails, or leaves the writer at work, or closes an outbox
that has been given up. -/
private theorem Blamed.sink (blamed : Blamed failure s) (steady : Steady terms s)
    {b : Outbox.Action (ClientMessage α ρ)} {outbox : Outbox (ClientMessage α ρ)}
    (sunk : Sinks s.now a b) (work : s.outbox.Work b outbox) :
    Blamed (failure.or a.brokenEnd?) { s with outbox } := by
  have lasts : s.outbox.writer.ending? = none := by
    simpa [Writer.hasEnded] using work.unended
  have kept : a.brokenEnd? = none → outbox.writer.ending? = none →
      Blamed (failure.or a.brokenEnd?) { s with outbox } := by
    intro quiet still
    rw [quiet, Option.or_none]
    exact ⟨blamed.known, fun mindful => still.trans (lasts.symm.trans (blamed.writer mindful)),
      blamed.fault, blamed.outcome⟩
  cases work with
  | pickPong | pickMessage | shut | wrote =>
    cases sunk
    exact kept rfl rfl
  | broke _ how m since writing broken =>
    have brought : a.brokenEnd? = some how := by cases broken <;> cases sunk <;> rfl
    refine ⟨fun last same => ?_, fun mindful => ?_, blamed.fault, blamed.outcome⟩
    · rcases Option.or_eq_some_iff.mp same with before | ⟨_, now⟩
      · exact blamed.known last before
      · exact Action.fault_of_brokenEnd now
    · have first : failure = none := (blamed.writer mindful).symm.trans lasts
      rw [first, brought]
      rfl
  | closed _ how closing closes =>
    have closed := steady.tended.shutting (by simp [closing, Writer.isShutting])
    have quiet : a.brokenEnd? = none := by cases closes <;> cases sunk <;> rfl
    rw [quiet, Option.or_none]
    refine ⟨blamed.known, fun mindful => ?_, blamed.fault, blamed.outcome⟩
    -- a session that was left because of its writer has none to close the sink
    rcases mindful with isOpen | because
    · exact absurd (closed.symm.trans isOpen) (by simp)
    · have gone := steady.gone because
      simp [Writer.hasEnded, lasts] at gone

theorem Blamed.step (blamed : Blamed failure s) (steady : Steady terms s)
    (effect : Effect terms s a s') : Blamed (failure.or a.brokenEnd?) s' := by
  cases effect with
  | control control => exact blamed.control control
  | finish outcome ends =>
    refine blamed.finish rfl ?_
    cases ends with
    | introductionFailed | cancelConnect | giveUpConnecting => simp
    | aborted fault phase =>
      have other := blamed.fault fault (by rw [phase]; rfl)
      simpa using other
    | settle cause how phase ended => exact blamed.outcomeOf_ne phase ended
  | arrive => exact blamed.stay rfl rfl rfl
  | accept limit payload rest phase =>
    exact blamed.keep rfl rfl (fun _ => Or.inl (by rw [phase]; rfl)) (by simp [Phase.cause?]) rfl
  | dismiss limit x rest outcome phase inbox uncancelled dismissal =>
    refine blamed.finish rfl ?_
    rintro rfl
    unfold dismissal? at dismissal
    split at dismissal <;> cases dismissal
  | ignore x rest reading => exact blamed.serve rfl rfl reading.isOpen rfl
  | ping rest outbox reading taken =>
    obtain ⟨_, rfl⟩ := Outbox.step_pong.mp taken
    exact blamed.serve rfl rfl reading.isOpen rfl
  | dispatch request rest outbox reading retained =>
    obtain ⟨_, rfl⟩ := Outbox.step_retain.mp retained
    exact blamed.serve rfl rfl reading.isOpen rfl
  | hangUp x rest cause reading ends =>
    refine blamed.leave rfl rfl reading.isOpen terms s.now cause rfl ?_
    rintro rfl
    cases x <;> simp [Inbound.cause?] at ends
  | pingRefused rest reading =>
    exact blamed.leave rfl rfl reading.isOpen terms s.now .writerEnded rfl (by simp)
  | join | ask | start => exact blamed.stay rfl rfl rfl
  | joinPanicked i t limit job unnoticed phase =>
    exact blamed.leave rfl rfl (by rw [phase]; rfl) terms s.now (.fault .handlerPanicked) rfl
      (by simp)
  | flush cause outbox flushes left =>
    obtain ⟨_, rfl⟩ := Outbox.run_owners_leave.mp left
    have before : s.phase.isClosed = false ∧ s.phase.cause? = some cause := by
      cases flushes with
      | drained cause limit phase => simp [phase, Phase.isClosed, Phase.cause?]
      | aborted cause phase => simp [phase, Phase.isClosed, Phase.cause?]
    refine blamed.keep flushes.brokenEnd rfl (fun _ => Or.inl before.1) ?_ rfl
    intro reason because
    exact blamed.fault reason (before.2.trans because)
  | answer i t response outbox job running offered =>
    rw [← Outbox.step_offer offered]
    exact blamed.stay rfl rfl rfl
  | place i t placed outbox job offering room left =>
    obtain ⟨_, m, _, rfl⟩ := Outbox.step_place.mp room
    obtain ⟨_, rfl⟩ := Outbox.run_sender_leaves.mp left
    exact blamed.stay rfl rfl rfl
  | endJob i t how outbox job ends left =>
    obtain ⟨_, rfl⟩ := Outbox.run_sender_leaves.mp left
    exact blamed.stay ends.brokenEnd rfl rfl
  | sink b outbox sunk work => exact blamed.sink steady sunk work

/-- Along a run the first failed write stays the one to blame. -/
theorem Blamed.run (blamed : Blamed failure s) (steady : Steady terms s)
    {actions : List (Action γ θ ρ)} (ran : s.run terms actions = some s') :
    Blamed (failure.or (firstFailure actions)) s' := by
  induction actions generalizing s failure with
  | nil =>
    cases ran
    rwa [firstFailure, List.findSome?_nil, Option.or_none]
  | cons a rest ih =>
    obtain ⟨next, acted, ran⟩ := Runs.foldlM_cons.mp ran
    have effect := Effect.of_act acted
    have later := ih (blamed.step steady effect) (steady.step effect) ran
    rw [Option.or_assoc] at later
    have first : firstFailure (a :: rest) = a.brokenEnd?.or (firstFailure rest) := by
      rw [firstFailure, List.findSome?_cons]
      cases a.brokenEnd? <;> rfl
    rwa [first]

/-! Leaving because of the writer. -/

/-- Whenever the loop is left because of a writer that has ended, the failed write is reported. -/
theorem Blamed.blames (blamed : Blamed failure s') (steady : Steady terms s')
    (because : s'.phase.cause? = some .writerEnded) : Blames terms failure s' := by
  obtain ⟨how, ended⟩ := Option.isSome_iff_exists.mp (steady.gone because)
  have same : failure = some how := (blamed.writer (Or.inr because)).symm.trans ended
  obtain ⟨fault, known⟩ := Option.isSome_iff_exists.mp (blamed.known how same)
  refine ⟨how, fault, same, known, steady.settles ?_⟩
  rw [outlook_of_cause because, Cause.writerEnded.outcome_of_ending ended, outcomeOf_broken known]

/-- A write that fails does not end servicing by itself. -/
theorem Effect.phase_of_broken (broken : a.brokenEnd?.isSome = true)
    (effect : Effect terms s a s') : s.phase = .introducing ∨ s'.phase = s.phase := by
  cases effect with
  | control control => simp [control.brokenEnd] at broken
  | finish outcome ends =>
    cases ends with
    | introductionFailed fault phase => exact Or.inl phase
    | cancelConnect | giveUpConnecting | aborted | settle => cases broken
  | flush cause outbox flushes => simp [flushes.brokenEnd] at broken
  | endJob i t how outbox job ends => exact Or.inr rfl
  | sink => exact Or.inr rfl
  | _ => cases broken

theorem Blamed.left (blamed : Blamed failure s) (steady : Steady terms s)
    (serving : s.phase.isServicing = true) (effect : Effect terms s a s')
    (because : s'.phase.cause? = some .writerEnded) : Blames terms failure s' := by
  obtain ⟨limit, phase⟩ := Phase.servicing_of_isServicing serving
  have quiet : a.brokenEnd? = none := by
    by_contra broken
    rcases effect.phase_of_broken (Option.isSome_iff_ne_none.mpr broken) with early | same
    · simp [phase] at early
    · simp [same, phase, Phase.cause?] at because
  have after := blamed.step steady effect
  rw [quiet, Option.or_none] at after
  exact after.blames (steady.step effect) because

theorem Heard.afterRefusal {l : Log γ θ ρ} (heard : Heard l s)
    (serving : s.phase.isServicing = true) {rest : List (Inbound γ θ)}
    (inbox : s.inbox = .message .ping :: rest) :
    Heard { l with read := l.read ++ [.message .ping] } (s.afterRefusal terms rest) := by
  obtain ⟨limit, phase⟩ := Phase.servicing_of_isServicing serving
  have connected : l.IsConnected :=
    heard.connected (by rw [phase]; rfl) (by rw [phase]; rfl)
  have served : ({ l with read := l.read ++ [.message .ping] } : Log γ θ ρ).served =
      l.served ++ [.message .ping] := Log.served_append connected
  refine ⟨?_, ?_, ?_, ?_, fun _ _ => connected.append, fun _ => connected.append⟩
  · change l.arrived = l.read ++ [.message .ping] ++ rest
    rw [heard.arrived, inbox, List.append_assoc]
    rfl
  · change s.jobs.map Job.request = Log.requests _
    rw [Log.requests, served, List.filterMap_append, heard.requests]
    exact (List.append_nil _).symm
  · change s.pings + 1 = Log.pings _
    rw [Log.pings, served, List.countP_append, heard.pings]
    rfl
  · intro early
    simp [Session.afterRefusal, leave] at early

theorem Steady.afterRefusal (steady : Steady terms s) (serving : s.phase.isServicing = true)
    (gone : s.outbox.writer.hasEnded = true) {rest : List (Inbound γ θ)}
    (inbox : s.inbox = .message .ping :: rest) : Steady terms (s.afterRefusal terms rest) := by
  obtain ⟨limit, phase⟩ := Phase.servicing_of_isServicing serving
  obtain ⟨l, heard⟩ := steady.heard
  have isOpen : s.phase.isClosed = false := by
    rw [phase]
    rfl
  have tended := steady.tended
  refine ⟨⟨_, heard.afterRefusal serving inbox⟩, ⟨?_, ?_, ?_, tended.joined, ?_⟩, ?_, ?_, ?_⟩
  · exact fun _ => tended.held isOpen
  · intro closed
    cases closed
  · intro shutting
    exact absurd (tended.shutting shutting) (by simp [isOpen])
  · intro ended
    cases ended
  · intro limit aborting
    cases aborting
  · intro cause aborting
    cases aborting
  · exact fun _ => gone

theorem Blamed.refused (blamed : Blamed failure s) (steady : Steady terms s)
    (serving : s.phase.isServicing = true) {rest : List (Inbound γ θ)}
    (inbox : s.inbox = .message .ping :: rest) (refused : s.outbox.step (.pong .pong) = none) :
    Blames terms failure (s.afterRefusal terms rest) := by
  obtain ⟨limit, phase⟩ := Phase.servicing_of_isServicing serving
  have isOpen : s.phase.isClosed = false := by
    rw [phase]
    rfl
  have gone := steady.tended.refused isOpen refused
  have left : Blamed (failure.or (Action.move .read : Action γ θ ρ).brokenEnd?)
      (s.afterRefusal terms rest) :=
    blamed.leave rfl rfl isOpen terms s.now .writerEnded rfl (by simp)
  rw [show (Action.move .read : Action γ θ ρ).brokenEnd? = none from rfl, Option.or_none] at left
  exact left.blames (steady.afterRefusal serving gone inbox) rfl

/-- What comes of reading a ping. -/
theorem Effect.pinged (effect : Effect terms s (.move .read) s') {rest : List (Inbound γ θ)}
    (inbox : s.inbox = .message .ping :: rest) :
    (∃ outbox, s.outbox.step (.pong .pong) = some outbox ∧ s'.outbox = outbox ∧
      s'.phase.isServicing = true) ∨
    (s.outbox.step (.pong .pong) = none ∧ s'.phase.cause? = some .writerEnded) := by
  have first : ∀ {x behind}, Reading s x behind → x = .message .ping := by
    intro x behind reading
    exact (List.cons.inj (reading.inbox.symm.trans inbox)).1
  cases effect with
  | ping behind outbox reading taken timely =>
    exact Or.inl ⟨outbox, taken, rfl, servingPhase_isServicing timely⟩
  | pingRefused behind reading refused =>
    exact Or.inr ⟨refused, leavingPhase_cause s.now terms .writerEnded⟩
  | ignore x behind reading idle =>
    rw [first reading] at idle
    cases idle
  | hangUp x behind cause reading ends =>
    rw [first reading] at ends
    cases ends
  | dispatch request behind outbox reading => cases first reading
  | control other | finish outcome other | flush cause outbox other
  | endJob i t how outbox job other | sink b outbox other => cases other

/-- Whichever way servicing ends for the sake of the writer, the first failed write is reported. -/
theorem failed_writes_attributed (openedAt : Nat) (arguments : ConnectArguments α)
    (actions : List (Action γ θ ρ))
    (ran : (Session.opened terms.settings openedAt arguments).run terms actions = some s) :
    Attributed terms (firstFailure actions) s := by
  have steady : Steady terms s := .of_run ran
  have blamed : Blamed (firstFailure actions) s :=
    (Blamed.opened terms.settings openedAt arguments).run
      (.opened terms.settings openedAt arguments) ran
  have isOpen : s.phase.isServicing = true → s.phase.isClosed = false := by
    intro serving
    obtain ⟨limit, phase⟩ := Phase.servicing_of_isServicing serving
    rw [phase]
    rfl
  refine ⟨?_, fun serving => blamed.writer (Or.inl (isOpen serving)), ?_, ?_, ?_, blamed.outcome⟩
  · intro serving
    obtain ⟨pongs, handles⟩ := steady.tended.held (isOpen serving)
    refine ⟨pongs, handles ▸ Nat.le_add_right _ _, ?_⟩
    by_contra shutting
    have closed := steady.tended.shutting (by simpa using shutting)
    rw [isOpen serving] at closed
    cases closed
  · intro serving a s' acted because
    exact blamed.left steady serving (.of_act acted) because
  · intro serving rest inbox refused
    exact blamed.refused steady serving inbox refused
  · intro serving rest s' inbox acted
    have effect := Effect.of_act acted
    rcases effect.pinged inbox with ⟨outbox, taken, same, serving'⟩ | ⟨refused, because⟩
    · obtain ⟨_, rfl⟩ := Outbox.step_pong.mp taken
      exact Or.inl ⟨by rw [same], serving'⟩
    · exact Or.inr ⟨refused, blamed.left steady serving effect because⟩

/-- The first pong cannot be written, and a second ping arrives before the loop looks. -/
def exchangeBroken : List (Action String Nat String) :=
  exchangeStart ++
    [.event (.arrive (.message .ping)), .move .read, .move .pick,
      .event (.writeFailed (.io "broken pipe")), .event (.arrive (.message .ping))]

theorem failed_writes_attributed_broken :
    ∃ s : Session String String Nat String,
      (Session.opened exchangeTerms.settings 0 { payload := "hello" }).run exchangeTerms
        exchangeBroken = some s ∧
      s.phase.isServicing = true ∧ s.outbox.step (.pong .pong) = none ∧
      s.inbox = [.message .ping] ∧
      firstFailure exchangeBroken = some (.writeFailed (.io "broken pipe")) ∧
      Attributed exchangeTerms (some (.writeFailed (.io "broken pipe"))) s :=
  ⟨_, rfl, rfl, rfl, rfl, rfl, failed_writes_attributed 0 { payload := "hello" } exchangeBroken rfl⟩

end Dialback.Session
