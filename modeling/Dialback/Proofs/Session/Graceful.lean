import Dialback.Proofs.Session.Gaps
import Dialback.Proofs.Session.Winding

/-!
The graceful end of a session. From the moment at which a stop or the end of the stream is heeded
nothing is read, but the handlers of whatever has been read may return until the drain runs out.
Their responses are written, then the sink is closed, and the session is over with the last handler
or at the limit, whichever comes first.
-/
namespace Dialback.Session

variable {α γ θ ρ : Type}

/-- When a drain that begins at this time runs out. -/
def drainLimit (terms : Terms θ) (start : Nat) : Nat :=
  start + terms.settings.drainTimeoutMs.toNat

/-- What has become of the requests, and of the pings, when the outbound side is closed. -/
structure AllWritten (limit : Nat) (l : Log γ θ ρ) (ends : List (Nat × Nat))
    (s : Session α γ θ ρ) : Prop where
  pongs : (s.wire.map Prod.snd).countP ClientMessage.isPong = l.pings
  /-- Whoever returned before the limit has its response written. -/
  responses : ∀ i response time, (i, response) ∈ l.answered → (i, time) ∈ ends → time < limit →
    i ∈ l.repliedTo (s.wire.map Prod.snd)
  /-- Handlers that neither returned in time nor panicked are aborted. -/
  fates : ∀ i < l.requests.length, i ∈ l.repliedTo (s.wire.map Prod.snd) ∨
    s.hasEndedBy .panicked i = true ∨
      (s.hasEndedBy .aborted i = true ∧ ∀ time, (i, time) ∈ ends → limit ≤ time)

/-- The graceful end of a session that was left at `start`, when `l` had been logged. -/
structure GracefulEnd (terms : Terms θ) (outcome : Outcome) (start : Nat) (l l' : Log γ θ ρ)
    (ends : List (Nat × Nat)) (s : Session α γ θ ρ) : Prop where
  /-- Nothing more is read, and no handler is invoked for what has not been. -/
  unread : l'.read = l.read
  invoked : ∀ i ∈ l'.invoked, i < l.requests.length
  replies : List.Forall₂ l'.Replies ((s.wire.map Prod.snd).filterMap ClientMessage.response?)
    (l'.repliedTo (s.wire.map Prod.snd))
  /-- A response is written only if its handler returned before the drain was over. -/
  inTime : ∀ i ∈ l'.repliedTo (s.wire.map Prod.snd), ∃ response time,
    (i, response) ∈ l'.answered ∧ (i, time) ∈ ends ∧ time ≤ drainLimit terms start
  closing : s.outbox.writer.isShutting = true → AllWritten (drainLimit terms start) l' ends s
  waits : s.phase.isEnded = false → s.now ≤ drainLimit terms start
  /-- It is over at the time of the last handler, or when the drain runs out. -/
  finished : ∀ o time, s.phase = .ended o time → o = outcome ∧
    s.outbox.writer.isShutting = true ∧ Concluded start (drainLimit terms start) ends s time
  /-- Whatever the handlers do it can come to its end, and it cannot go on for ever. -/
  returns : ∃ rest s' time, (∀ b ∈ rest, b.isOwn = true) ∧ s.runSwiftly terms rest = some s' ∧
    s'.phase = .ended outcome time
  bounded : ∀ actions s', s.runSwiftly terms actions = some s' →
    actions.countP (fun b => !b.isIdle) ≤ s.remaining

variable {l : Log γ θ ρ} {s s' : Session α γ θ ρ} {terms : Terms θ} {a : Action γ θ ρ}
  {ends : List (Nat × Nat)} {cause : Cause} {start limit : Nat} {arguments : ConnectArguments α}

/-! What has been written. -/

/-- When the outbound side is being closed, all that was queued is on the wire. -/
theorem Sound.all_written (sound : Sound terms arguments l s) (read : l.read ≠ [])
    (shutting : s.outbox.writer.isShutting = true) :
    (s.wire.map Prod.snd).countP ClientMessage.isPong = l.pings ∧
      l.repliedTo (s.wire.map Prod.snd) = l.placed := by
  obtain ⟨pongs, queue⟩ := sound.conveyed.shut shutting
  have kept : s.outbox.writer.isLost = false ∧ s.outbox.underway = [] := by
    unfold Outbox.underway
    cases writer : s.outbox.writer with
    | idle | writing => simp [writer, Writer.isShutting] at shutting
    | closing => exact ⟨rfl, rfl⟩
    | ended how => cases how <;> simp_all [Writer.isShutting, Writer.isLost]
  have handed : s.outbox.handed = s.outbox.written.map Prod.snd := by
    rw [Outbox.handed, kept.2, List.append_nil]
  rw [sound.wire_of_read read, ← handed]
  constructor
  · have complete := sound.conveyed.complete kept.1
    rw [pongs, List.append_nil] at complete
    exact complete
  · obtain ⟨order, _, all, answered⟩ := sound.conveyed.order
    rw [queue, List.append_nil, all kept.1] at answered
    change l.placed.take (s.outbox.handed.filterMap ClientMessage.response?).length = l.placed
    rw [answered.length_eq, List.take_length]

/-- What becomes of a job that was not finished when the session began to drain. -/
theorem Parting.fate (parting : Parting terms cause start limit ends s) {i : Nat} {t : Job θ}
    (job : s.jobs[i]? = some t) (ended : t.hasEnded = true) :
    t.stage = .ended .queued ∨ t.stage = .ended .panicked ∨
      (t.stage = .ended .aborted ∧ ∀ time, (i, time) ∈ ends → limit ≤ time) := by
  have torn := parting.torn t (List.mem_of_getElem? job)
  have told := parting.punctual.timed.told i t job
  unfold Job.hasEnded at ended
  generalize t.stage = stage at *
  generalize t.answered = answered at *
  cases told with
  | unfinished _ early => rcases early with rfl | rfl | rfl <;> cases ended
  | returned _ time late once =>
    rcases late with rfl | rfl | rfl
    · cases ended
    · exact Or.inl rfl
    · refine Or.inr (Or.inr ⟨rfl, fun u noted => ?_⟩)
      rw [(once u).mp noted]
      exact torn rfl time rfl
  | panicked => exact Or.inr (Or.inl rfl)
  | aborted never => exact Or.inr (Or.inr ⟨rfl, fun time noted => absurd noted (never time)⟩)

theorem Tallied.job_of_answered (tallied : Tallied l s) {i : Nat} {response : Response ρ}
    (answered : (i, response) ∈ l.answered) :
    ∃ t, s.jobs[i]? = some t ∧ t.stage ≠ .ended .panicked := by
  have member : i ∈ l.answered.map Prod.fst := List.mem_map.mpr ⟨_, answered, rfl⟩
  have some := List.count_pos_iff.mpr member
  change 0 < (l.tally i).answered at some
  cases job : s.jobs[i]? with
  | none =>
    rw [tallied.others i (List.getElem?_eq_none_iff.mp job)] at some
    cases some
  | some t =>
    refine ⟨t, rfl, fun panicked => ?_⟩
    have allowed := tallied.jobs i t job
    rw [panicked] at allowed
    cases counts : l.tally i
    rw [counts] at allowed some
    cases allowed
    cases some

theorem Parting.allWritten (parting : Parting terms cause start limit ends s)
    (sound : Sound terms arguments l s) (read : l.read ≠ [])
    (shutting : s.outbox.writer.isShutting = true) : AllWritten limit l ends s := by
  obtain ⟨pongs, replied⟩ := sound.all_written read shutting
  have settled := live_eq_zero.mp (sound.tended.settled (sound.tended.shutting shutting))
  have fate : ∀ (i : Nat) (t : Job θ), s.jobs[i]? = some t → i ∈ l.placed ∨
      t.stage = .ended .panicked ∨
        (t.stage = .ended .aborted ∧ ∀ time, (i, time) ∈ ends → limit ≤ time) := by
    intro i t job
    rcases parting.fate job (settled t (List.mem_of_getElem? job)) with queued | other
    · exact Or.inl (sound.placed_of_queued job queued)
    · exact Or.inr other
  refine ⟨pongs, ?_, ?_⟩
  · intro i response time answered noted early
    obtain ⟨t, job, calm⟩ := sound.tallied.job_of_answered answered
    rw [replied]
    rcases fate i t job with placed | panicked | ⟨_, late⟩
    · exact placed
    · exact absurd panicked calm
    · exact absurd (late time noted) (by omega)
  · intro i inside
    rw [← sound.heard.requests, List.length_map] at inside
    have job := List.getElem?_eq_getElem inside
    rw [replied]
    apply (fate i _ job).imp_right
    rintro (panicked | ⟨aborted, late⟩)
    · left
      simp [hasEndedBy, job, panicked]
    · right
      exact ⟨by simp [hasEndedBy, job, aborted], late⟩

theorem Parting.inTime (parting : Parting terms cause start limit ends s)
    (sound : Sound terms arguments l s) {i : Nat} (placed : i ∈ l.placed) :
    ∃ response time, (i, response) ∈ l.answered ∧ (i, time) ∈ ends ∧ time ≤ limit := by
  obtain ⟨t, job, queued⟩ := sound.job_of_placed placed
  have counts := sound.tallied.jobs i t job
  rw [queued] at counts
  have once : (l.answered.map Prod.fst).count i = 1 :=
    congrArg Tally.answered counts.counts_of_queued
  have member := List.count_pos_iff.mp (Nat.lt_of_lt_of_eq Nat.zero_lt_one once.symm)
  obtain ⟨⟨_, response⟩, answered, rfl⟩ := List.mem_map.mp member
  have told := parting.punctual.timed.told _ t job
  rw [queued] at told
  obtain ⟨time, noted⟩ := told.noted_of_queued
  exact ⟨response, time, answered, noted, parting.ends_le _ noted⟩

theorem Parting.gracefulEnd {l' : Log γ θ ρ}
    (parting : Parting terms cause start (drainLimit terms start) ends s)
    (graceful : cause.isGraceful = true) (sound : Sound terms arguments l' s)
    (unread : l'.read = l.read) (connected : l.IsConnected) :
    GracefulEnd terms cause.graceful start l l' ends s where
  unread := unread
  invoked i invoked := by
    have same : l.requests = l'.requests := by rw [Log.requests, Log.served, ← unread]; rfl
    rw [same, ← sound.heard.requests, List.length_map]
    by_contra beyond
    have none := sound.tallied.others i (Nat.le_of_not_lt beyond)
    have some := List.count_pos_iff.mpr invoked
    change 0 < (l'.tally i).invoked at some
    rw [none] at some
    cases some
  replies := sound.replies_repliedTo sound.wire_handed
  inTime i replied := parting.inTime sound (List.mem_of_mem_take replied)
  closing shutting := by
    obtain ⟨payload, rest, read⟩ := connected
    exact parting.allWritten sound (by simp [unread, read]) shutting
  waits lasts := parting.now_le lasts
  finished o time phase := by
    obtain ⟨kept, concluded⟩ := parting.winding.of_ended phase
    have outlook := parting.winding.outlook graceful
    refine ⟨by simpa [outlook?, phase] using outlook, ?_, concluded⟩
    have gone := sound.tended.ended (by rw [phase]; rfl)
    apply (Writer.lost_or_shutting gone).resolve_left
    simp [kept]
  returns := parting.returns graceful
  bounded actions s' ran := by
    have ran := run_of_swiftly ran
    have unread := (run_outlook ran (parting.winding.outlook graceful)).2
    have bound := run_remaining ran unread
    omega

/-- Whenever servicing ends because the session is stopped or the stream has ended, with a sink that
accepts at once, it comes to a graceful end. -/
theorem graceful_end (openedAt : Nat) (arguments : ConnectArguments α)
    (before after : List (Action γ θ ρ)) {m : Session α γ θ ρ}
    (ran : (Session.opened terms.settings openedAt arguments).runSwiftly terms before = some s)
    (serving : s.phase.isServicing = true) (left : s.actSwiftly terms a = some m)
    (drains : m.phase = .draining cause limit) (ran' : m.runSwiftly terms after = some s') :
    ∃ outcome, (outcome = .cancelled ∧ s.stop.isSome = true ∨
        outcome = .completed ∧ s.inbox.head? = some .eof) ∧
      GracefulEnd terms outcome s.now
        ((Session.opened terms.settings openedAt arguments).log terms (before ++ [a]))
        ((Session.opened terms.settings openedAt arguments).log terms (before ++ [a] ++ after))
        ((Session.opened terms.settings openedAt arguments).handlerEnds terms
          (before ++ [a] ++ after)) s' := by
  obtain ⟨acted, swift⟩ := act_of_swiftly left
  have effect := Effect.of_act acted
  have before_ran := run_of_swiftly ran
  have left_ran : (Session.opened terms.settings openedAt arguments).run terms (before ++ [a]) =
      some m := Runs.foldlM_append.mpr ⟨s, before_ran, Runs.foldlM_cons.mpr ⟨m, acted, rfl⟩⟩
  have all_ran : (Session.opened terms.settings openedAt arguments).run terms
      (before ++ [a] ++ after) = some s' :=
    Runs.foldlM_append.mpr ⟨m, left_ran, run_of_swiftly ran'⟩
  obtain ⟨_, limited, reason⟩ := effect.drains (l := {}) serving drains
  have graceful : cause.isGraceful = true := by
    rcases reason with ⟨rfl, _⟩ | ⟨rfl, _⟩ <;> rfl
  refine ⟨cause.graceful, ?_, ?_⟩
  · rcases reason with ⟨rfl, stopped, _⟩ | ⟨rfl, closed, _⟩
    · exact Or.inl ⟨rfl, stopped⟩
    · exact Or.inr ⟨rfl, closed⟩
  · have parted := (Punctual.of_run ran).parts serving swift effect drains
    have parting := parted.run graceful ran'
    have noted : (Session.opened terms.settings openedAt arguments).handlerEnds terms
        (before ++ [a]) = noteEnd ((Session.opened terms.settings openedAt arguments).handlerEnds
          terms before) s a := Runs.noted_concat before_ran acted
    rw [← noted, handlerEnds, ← Runs.noted_append left_ran] at parting
    rw [limited] at parting
    apply parting.gracefulEnd graceful (Sound.of_run all_ran)
    · rw [log, Runs.noted_append left_ran]
      exact noted_read (parted.winding.outlook graceful) (run_of_swiftly ran')
    · have heard := (Sound.of_run left_ran).heard
      exact heard.connected (by rw [drains]; rfl) (by rw [drains]; rfl)

/-- One handler is at work and a second request waits for it when the session is stopped. -/
def exchangeBusy : List (Action String Nat String) :=
  exchangeReading ++
    [.move (.ask 0), .move (.start 0), .event (.elapse 3), .event .stop]

/-- The first handler returns in time. The second one is invoked then, and never returns. -/
def exchangeDrain : List (Action String Nat String) :=
  [.event (.elapse 10), .event (.answer 0 { payload := "ten" }), .move (.place 0)] ++
    exchangeWrite ++
    [.move (.join 0), .move (.ask 1), .move (.start 1), .event (.elapse 30003), .move .drainOver,
      .move (.abort 1), .move (.join 1), .move .aborted, .move .pick, .event .closed, .move .settle]

theorem graceful_end_exchange :
    ∃ s m s' : Session String String Nat String,
      (Session.opened exchangeTerms.settings 0 { payload := "hello" }).runSwiftly exchangeTerms
        exchangeBusy = some s ∧
      s.phase.isServicing = true ∧ s.actSwiftly exchangeTerms (.move .heedStop) = some m ∧
      m.phase = .draining .stopped 30003 ∧
      m.runSwiftly exchangeTerms exchangeDrain = some s' ∧
      s'.phase = .ended .cancelled 30003 ∧
      s'.jobs.map Job.stage = [.ended .queued, .ended .aborted] ∧
      ∃ outcome, (outcome = .cancelled ∧ s.stop.isSome = true ∨
          outcome = .completed ∧ s.inbox.head? = some .eof) ∧
        GracefulEnd exchangeTerms outcome s.now
          ((Session.opened exchangeTerms.settings 0
            ({ payload := "hello" } : ConnectArguments String)).log exchangeTerms
              (exchangeBusy ++ [.move .heedStop]))
          ((Session.opened exchangeTerms.settings 0
            ({ payload := "hello" } : ConnectArguments String)).log exchangeTerms
              (exchangeBusy ++ [.move .heedStop] ++ exchangeDrain))
          ((Session.opened exchangeTerms.settings 0
            ({ payload := "hello" } : ConnectArguments String) :
              Session String String Nat String).handlerEnds exchangeTerms
                (exchangeBusy ++ [.move .heedStop] ++ exchangeDrain)) s' :=
  ⟨_, _, _, rfl, rfl, rfl, rfl, rfl, rfl, rfl,
    graceful_end 0 { payload := "hello" } exchangeBusy exchangeDrain rfl rfl rfl rfl rfl⟩

end Dialback.Session
