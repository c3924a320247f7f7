import Dialback.Proofs.Session.Pending

/-!
Keep-alive. A ping that has arrived is answered by the serving loop alone: on its way to the ping it
notices ends of jobs and reads what came before, and waits for no handler, no permit and no room in
the queue. A pong has its place in the order of writing from the moment it is queued: behind the
message whose write is under way and the pongs that wait, and before everything else.
-/
namespace Dialback.Session

variable {α γ θ ρ : Type}

/-- The order of writing as far as it is fixed: what the sink has been handed, then the pongs. -/
def Outbox.due {μ : Type} (o : Outbox μ) : List μ :=
  o.handed ++ o.pongs

/-- The outcomes that the loop prefers to a message. Some of what arrived before it, or the message
itself, may end servicing. -/
def preferred (s : Session α γ θ ρ) (arrived : List (Inbound γ θ)) : List Outcome :=
  outcomesOf s.stop s.outbox.writer.failure? s.alarmed
    (arrived.findSome? (Inbound.ending? s.outbox.writer)) none

/-- No time has passed, no job and no writer has moved, and nobody has taken a permit or room in the
queue. -/
structure Aside (s s' : Session α γ θ ρ) : Prop where
  instant : s'.now = s.now
  permits : s'.permits = s.permits
  /-- Jobs may have been added. -/
  stages : s.jobs.map Job.stage <+: s'.jobs.map Job.stage
  queue : s'.outbox.queue = s.outbox.queue
  offers : s'.outbox.offers = s.outbox.offers
  writer : s'.outbox.writer = s.outbox.writer
  written : s'.outbox.written = s.outbox.written

/-- The places in the order of writing that pongs were queued for, ping by ping. -/
def notePlace (places : List Nat) (s : Session α γ θ ρ) : Action γ θ ρ → List Nat
  | .move .read =>
    match s.inbox with
    | .message .ping :: _ =>
      if (s.outbox.step (.pong .pong)).isSome then places ++ [s.outbox.due.length] else places
    | _ => places
  | _ => places

/-- The places of the pongs of a run that begins in `s`. -/
def pongPlaces (s : Session α γ θ ρ) (terms : Terms θ) (actions : List (Action γ θ ρ)) :
    List Nat :=
  Runs.noted (fun s a => s.act terms a) notePlace [] s actions

/-- Pings are answered whatever else goes on. -/
structure KeepsAlive (terms : Terms θ) (places : List Nat) (s : Session α γ θ ρ) : Prop where
  /-- The loop alone gets to a ping, and to all pings before it, unless it panics since the clock
  cannot show when the next silence would be too long. -/
  answers : s.phase.isServicing = true → ∀ before rest, s.inbox = before ++ .message .ping :: rest →
    s.preferred (before ++ [.message .ping]) = [] → deadline? terms s.now ≠ none → ∃ actions s',
      (∀ a ∈ actions, a.byLoop = true) ∧ s.run terms actions = some s' ∧ s.Aside s' ∧
      s'.phase.isServicing = true ∧ s'.inbox = rest ∧
      s'.outbox.pongs =
        s.outbox.pongs ++ List.replicate (before.countP Inbound.isPing + 1) .pong
  /-- Otherwise the loop alone comes to the end of servicing. -/
  leaves : s.phase.isServicing = true → ∀ before rest outcome,
    s.inbox = before ++ .message .ping :: rest →
    (s.preferred (before ++ [.message .ping])).head? = some outcome → ∃ actions s',
      (∀ a ∈ actions, a.byLoop = true) ∧ s.run terms actions = some s' ∧
        (s.Overrun terms s' ∨ Settles terms s' outcome)
  /-- No time passes while anything is to be read. -/
  instant : s.phase.isServicing = true → s.inbox ≠ [] → ∀ time, s.mayWait terms time = false
  /-- A pong that is queued is overtaken by nothing. Before it the writer writes the message whose
  write is under way, if there is one, and the pongs that wait. -/
  overtaken : ∀ a next, s.act terms a = some next →
    s.outbox.pongs.length < next.outbox.pongs.length →
    next.outbox.pongs = s.outbox.pongs ++ [.pong] ∧ (∀ m ∈ s.outbox.pongs, m = .pong) ∧
    s.outbox.underway.length ≤ 1 ∧
    ∀ actions s' sent, next.run terms actions = some s' → sent <+: s'.outbox.handed →
      let due := s.outbox.written.map Prod.snd ++ s.outbox.underway ++ s.outbox.pongs ++ [.pong]
      sent <+: due ∨ due <+: sent
  /-- The pongs that the sink has been handed take the places of the first pings, in that order. -/
  ordered : places.Pairwise (· < ·) ∧
    s.outbox.handed.findIdxs ClientMessage.isPong <+: places

/-! The order of writing. -/

namespace Outbox

variable {μ : Type} {o o' : Outbox μ} {more : List μ}

/-- A step adds to the order of writing, or the writer is lost and with it what is not written. -/
inductive Moves (o : Outbox μ) : List μ → Outbox μ → Prop
  | on {o' : Outbox μ} (more : List μ) (due : o'.due = o.due ++ more)
      (same : o'.writer.isLost = o.writer.isLost)
      (still : o.writer.isLost = true → o'.handed = o.handed) : Moves o more o'
  | loses {o' : Outbox μ} (lost : o'.writer.isLost = true) (less : o'.handed <+: o.handed) :
      Moves o [] o'

theorem handed_prefix_due (o : Outbox μ) : o.handed <+: o.due :=
  List.prefix_append _ _

/-- Neither the pongs nor the writer have changed. -/
theorem Moves.rest (pongs : o'.pongs = o.pongs) (writer : o'.writer = o.writer)
    (written : o'.written = o.written) : o.Moves [] o' := by
  have handed : o'.handed = o.handed := by simp [Outbox.handed, underway, writer, written]
  exact .on [] (by simp [due, handed, pongs]) (by rw [writer]) fun _ => handed

theorem moves_dropped (o : Outbox μ) : o.Moves [] o.dropped := by
  unfold dropped
  split
  · exact .rest rfl rfl rfl
  · refine .loses rfl ?_
    simp [Outbox.handed, underway, finish]

/-- The writer adds no pongs: what it adds comes from the queue. -/
theorem Work.moves {b : Action μ} (work : o.Work b o')
    (shut : o.writer.isShutting = true → o.pongs = []) :
    ∃ more, o.Moves more o' ∧ ∀ m ∈ more, m ∈ o.queue := by
  cases work with
  | pickPong time m rest idle pongs =>
    refine ⟨[], .on [] ?_ (by simp [idle, Writer.isLost]) fun lost => ?_, by simp⟩
    · simp [due, handed, underway, idle, pongs]
    · simp [idle, Writer.isLost] at lost
  | pickMessage time m rest idle pongs queue =>
    refine ⟨[m], .on [m] ?_ (by simp [idle, Writer.isLost]) fun lost => ?_, by simp [queue]⟩
    · simp [due, handed, underway, idle, pongs]
    · simp [idle, Writer.isLost] at lost
  | shut time idle =>
    refine ⟨[], .on [] ?_ (by simp [idle, Writer.isLost]) fun lost => ?_, by simp⟩
    · simp [due, handed, underway, idle]
    · simp [idle, Writer.isLost] at lost
  | wrote time m since writing =>
    refine ⟨[], .on [] ?_ (by simp [writing, Writer.isLost]) fun lost => ?_, by simp⟩
    · simp [due, handed, underway, writing]
    · simp [writing, Writer.isLost] at lost
  | broke b how m since writing broken =>
    refine ⟨[], .loses ?_ ?_, by simp⟩
    · cases broken <;> rfl
    · simp [handed, underway, finish]
  | closed b how closing closed =>
    have pongs := shut (by simp [closing, Writer.isShutting])
    refine ⟨[], .on [] ?_ ?_ fun lost => ?_, by simp⟩
    · simp [due, handed, underway, finish, closing, pongs]
    · cases closed <;> simp [finish, closing, Writer.isLost]
    · simp [closing, Writer.isLost] at lost

/-- What is written begins like this: everything that is due, or as much of it as was written before
the writer was lost. -/
structure Follows (o : Outbox μ) (start : List μ) : Prop where
  kept : o.writer.isLost = false → start <+: o.due
  either : start <+: o.handed ∨ o.handed <+: start

theorem Follows.of_due {start : List μ} (due : o.due = start) : o.Follows start where
  kept _ := due ▸ List.prefix_refl _
  either := Or.inr (by rw [← due]; exact o.handed_prefix_due)

theorem Follows.step {start : List μ} (follows : o.Follows start) (moves : o.Moves more o') :
    o'.Follows start := by
  cases moves with
  | on _ due same still =>
    have kept : o'.writer.isLost = false → start <+: o'.due := by
      intro working
      rw [due]
      exact (follows.kept (same.symm.trans working)).trans (List.prefix_append _ _)
    refine ⟨kept, ?_⟩
    cases lost : o.writer.isLost with
    | true =>
      rw [still lost]
      exact follows.either
    | false =>
      exact List.prefix_or_prefix_of_prefix (kept (same.trans lost)) o'.handed_prefix_due
  | loses lost less =>
    refine ⟨fun working => ?_, ?_⟩
    · rw [lost] at working
      cases working
    · rcases follows.either with reached | ahead
      · exact List.prefix_or_prefix_of_prefix reached less
      · exact Or.inr (less.trans ahead)

theorem Follows.sent {start sent : List μ} (follows : o.Follows start) (before : sent <+: o.handed) :
    sent <+: start ∨ start <+: sent := by
  rcases follows.either with reached | ahead
  · exact List.prefix_or_prefix_of_prefix before reached
  · exact Or.inl (before.trans ahead)

end Outbox

/-! The places of pongs. -/

theorem findIdxs_of_start {β : Type} (p : β → Bool) {xs ys : List β} (before : xs <+: ys) :
    xs.findIdxs p <+: ys.findIdxs p := by
  obtain ⟨rest, rfl⟩ := before
  rw [List.findIdxs_append]
  exact List.prefix_append _ _

/-- The places noted are those of the pongs in the order of writing. -/
structure Outbox.Keeps (o : Outbox (ClientMessage α ρ)) (places : List Nat) : Prop where
  due : o.writer.isLost = false → o.due.findIdxs ClientMessage.isPong = places
  ascending : places.Pairwise (· < ·)
  handed : o.handed.findIdxs ClientMessage.isPong <+: places

namespace Outbox.Keeps

variable {o o' : Outbox (ClientMessage α ρ)} {places : List Nat}

/-- The pongs of what is written are among those of what is due, unless the writer is lost. -/
private theorem extend (keeps : o.Keeps places) {places' : List Nat}
    (due : o'.writer.isLost = false → o'.due.findIdxs ClientMessage.isPong = places')
    (grows : places <+: places') (ascending : places'.Pairwise (· < ·))
    (lost : o'.writer.isLost = true → o'.handed <+: o.handed) : o'.Keeps places' := by
  refine ⟨due, ascending, ?_⟩
  cases gone : o'.writer.isLost with
  | true => exact (findIdxs_of_start _ (lost gone)).trans (keeps.handed.trans grows)
  | false =>
    rw [← due gone]
    exact findIdxs_of_start _ o'.handed_prefix_due

theorem step {more : List (ClientMessage α ρ)} (keeps : o.Keeps places)
    (moves : o.Moves more o') (silent : ∀ m ∈ more, m.isPong = false) : o'.Keeps places := by
  cases moves with
  | on _ due same still =>
    refine keeps.extend ?_ (List.prefix_refl _) keeps.ascending fun lost => ?_
    · intro working
      rw [due, List.findIdxs_append, keeps.due (same.symm.trans working),
        List.findIdxs_eq_nil_iff.mpr silent, List.append_nil]
    · simp only [still (same.symm.trans lost), List.prefix_rfl]
  | loses lost less =>
    refine keeps.extend ?_ (List.prefix_refl _) keeps.ascending fun _ => less
    intro working
    rw [lost] at working
    cases working

theorem pong (keeps : o.Keeps places) (lasts : o.writer.isLost = false) :
    ({ o with pongs := o.pongs ++ [.pong] } : Outbox _).Keeps (places ++ [o.due.length]) := by
  have due : ({ o with pongs := o.pongs ++ [.pong] } : Outbox _).due = o.due ++ [.pong] :=
    (List.append_assoc o.handed o.pongs [.pong]).symm
  refine keeps.extend ?_ (List.prefix_append _ _) ?_ fun lost => ?_
  · intro _
    rw [due, List.findIdxs_append, keeps.due lasts, List.findIdxs_singleton, Nat.zero_add]
    rfl
  · refine List.pairwise_append.mpr ⟨keeps.ascending, List.pairwise_singleton _ _, ?_⟩
    intro k known n last
    rw [List.mem_singleton.mp last]
    rw [← keeps.due lasts] at known
    exact List.lt_add_of_mem_findIdxs k known
  · rw [lasts] at lost
    cases lost

end Outbox.Keeps

/-! Steps of a session. -/

variable {l : Log γ θ ρ} {s s' next : Session α γ θ ρ} {terms : Terms θ} {a : Action γ θ ρ}
  {arguments : ConnectArguments α} {places : List Nat}

theorem notePlace_of_ne (other : a ≠ .move .read) : notePlace places s a = places := by
  unfold notePlace
  split
  · exact absurd rfl other
  · rfl

theorem Reading.notePlace {x : Inbound γ θ} {rest : List (Inbound γ θ)} (reading : Reading s x rest)
    (other : x.isPing = false) : notePlace places s (.move .read) = places := by
  simp only [Session.notePlace, reading.inbox]
  split
  case h_1 same =>
    rw [(List.cons.inj same).1] at other
    cases other
  case h_2 => rfl

/-- Whatever an action adds to the order of writing is noted if it is a pong. -/
theorem Sound.moves (sound : Sound terms arguments l s) (places : List Nat)
    (effect : Effect terms s a s') :
    (∃ more, s.outbox.Moves more s'.outbox ∧ (∀ m ∈ more, m.isPong = false) ∧
      notePlace places s a = places) ∨
    (s.outbox.writer.isLost = false ∧
      s'.outbox = { s.outbox with pongs := s.outbox.pongs ++ [.pong] } ∧
      notePlace places s a = places ++ [s.outbox.due.length]) := by
  have rests : ∀ {o' : Outbox (ClientMessage α ρ)}, s.outbox.Moves [] o' →
      a ≠ .move .read → ∃ more, s.outbox.Moves more o' ∧ (∀ m ∈ more, m.isPong = false) ∧
        notePlace places s a = places :=
    fun moves other => ⟨[], moves, by simp, notePlace_of_ne other⟩
  cases effect with
  | control control =>
    have same : s'.outbox = s.outbox ∧ a ≠ .move .read := by
      cases control <;> exact ⟨rfl, by simp⟩
    rw [same.1]
    exact Or.inl (rests (.rest rfl rfl rfl) same.2)
  | finish outcome ends =>
    exact Or.inl (rests s.outbox.moves_dropped (by cases ends <;> simp))
  | dismiss => exact Or.inl (rests s.outbox.moves_dropped (by simp))
  | arrive | accept | join | joinPanicked | ask | start =>
    exact Or.inl (rests (.rest rfl rfl rfl) (by simp))
  | ignore x rest reading idle =>
    refine Or.inl ⟨[], .rest rfl rfl rfl, by simp, reading.notePlace ?_⟩
    unfold Inbound.isIdle at idle
    split at idle <;> simp_all [Inbound.isPing, ServerMessage.isPing]
  | hangUp x rest cause reading ends =>
    refine Or.inl ⟨[], .rest rfl rfl rfl, by simp, reading.notePlace ?_⟩
    cases x <;> simp_all [Inbound.cause?, Inbound.isPing]
  | ping rest outbox reading taken =>
    obtain ⟨able, rfl⟩ := Outbox.step_pong.mp taken
    refine Or.inr ⟨?_, rfl, by simp [notePlace, reading.inbox, taken]⟩
    by_contra lost
    have gone : s.outbox.writer.hasEnded = true := by
      unfold Writer.isLost at lost
      split at lost <;> simp_all [Writer.hasEnded, Writer.ending?]
    rw [able.2] at gone
    cases gone
  | pingRefused rest reading refused =>
    exact Or.inl ⟨[], .rest rfl rfl rfl, by simp, by simp [notePlace, reading.inbox, refused]⟩
  | dispatch request rest outbox reading retained =>
    obtain ⟨_, rfl⟩ := Outbox.step_retain.mp retained
    exact Or.inl ⟨[], .rest rfl rfl rfl, by simp, reading.notePlace rfl⟩
  | flush cause outbox flushes left =>
    obtain ⟨_, rfl⟩ := Outbox.run_owners_leave.mp left
    exact Or.inl (rests (.rest rfl rfl rfl) (by cases flushes <;> simp))
  | answer i t response outbox job running offered =>
    rw [← Outbox.step_offer offered]
    exact Or.inl (rests (.rest rfl rfl rfl) (by simp))
  | place i t placed outbox job offering room left =>
    obtain ⟨_, m, _, rfl⟩ := Outbox.step_place.mp room
    obtain ⟨_, rfl⟩ := Outbox.run_sender_leaves.mp left
    exact Or.inl (rests (.rest rfl rfl rfl) (by simp))
  | endJob i t how outbox job ends left =>
    obtain ⟨_, rfl⟩ := Outbox.run_sender_leaves.mp left
    exact Or.inl (rests (.rest rfl rfl rfl) (by cases ends <;> simp))
  | sink b outbox sunk work =>
    obtain ⟨more, moves, queued⟩ := work.moves fun shut => (sound.conveyed.shut shut).1
    refine Or.inl ⟨more, moves, ?_, notePlace_of_ne (by cases sunk <;> simp)⟩
    intro m member
    obtain ⟨r, rfl⟩ := sound.conveyed.queue m (queued m member)
    rfl

/-- In every run the places noted are those of the pongs. -/
theorem keeps_of_run {settings : CallSettings} {openedAt : Nat} {actions : List (Action γ θ ρ)}
    (ran : (Session.opened settings openedAt arguments).run terms actions = some s) :
    s.outbox.Keeps
      ((Session.opened settings openedAt arguments).pongPlaces terms actions) := by
  let invariant := fun (places : List Nat) (s : Session α γ θ ρ) =>
    (∃ l : Log γ θ ρ, Sound terms arguments l s) ∧ s.outbox.Keeps places
  have step : ∀ places s a s', True → invariant places s → s.act terms a = some s' →
      invariant (notePlace places s a) s' := by
    rintro places s a s' - ⟨⟨l, sound⟩, keeps⟩ acted
    have effect := Effect.of_act acted
    refine ⟨⟨_, sound.step effect⟩, ?_⟩
    rcases sound.moves places effect with ⟨more, moves, silent, noted⟩ | ⟨lasts, outbox, noted⟩
    · rw [noted]
      exact keeps.step moves silent
    · rw [noted, outbox]
      exact keeps.pong lasts
  have initial : invariant [] (Session.opened settings openedAt arguments) :=
    ⟨⟨{}, .opened settings openedAt arguments⟩, fun _ => rfl, List.Pairwise.nil,
      List.prefix_refl _⟩
  exact (Runs.noted_induction (fun _ => True) step initial (fun _ _ => trivial) ran).2

/-- From now on what is written begins in the same way. -/
theorem Sound.follows {start : List (ClientMessage α ρ)} (sound : Sound terms arguments l s)
    (follows : s.outbox.Follows start) {actions : List (Action γ θ ρ)}
    (ran : s.run terms actions = some s') : s'.outbox.Follows start := by
  induction actions generalizing l s with
  | nil =>
    cases ran
    exact follows
  | cons a rest ih =>
    obtain ⟨next, acted, ran⟩ := Runs.foldlM_cons.mp ran
    have effect := Effect.of_act acted
    refine ih (sound.step effect) ?_ ran
    rcases sound.moves [] effect with ⟨more, moves, _⟩ | ⟨lasts, outbox, _⟩
    · exact follows.step moves
    · refine follows.step (.on [.pong] ?_ ?_ fun lost => ?_)
      · rw [outbox]
        exact (List.append_assoc _ _ _).symm
      · rw [outbox]
      · rw [lasts] at lost
        cases lost

/-- Only a ping that is read lets the pongs grow. -/
theorem Effect.pong_of_more (effect : Effect terms s a s')
    (more : s.outbox.pongs.length < s'.outbox.pongs.length) :
    s.outbox.writer.hasEnded = false ∧
      s'.outbox = { s.outbox with pongs := s.outbox.pongs ++ [.pong] } := by
  have dropped : s.outbox.dropped.pongs.length ≤ s.outbox.pongs.length := by
    unfold Outbox.dropped
    split <;> simp [Outbox.finish]
  cases effect with
  | control control => cases control <;> exact absurd more (Nat.lt_irrefl _)
  | finish | dismiss => exact absurd more (Nat.not_lt_of_le dropped)
  | arrive | accept | ignore | hangUp | pingRefused | join | joinPanicked | ask | start =>
    exact absurd more (Nat.lt_irrefl _)
  | ping rest outbox reading taken =>
    obtain ⟨able, rfl⟩ := Outbox.step_pong.mp taken
    exact ⟨able.2, rfl⟩
  | dispatch request rest outbox reading retained =>
    obtain ⟨_, rfl⟩ := Outbox.step_retain.mp retained
    exact absurd more (Nat.lt_irrefl _)
  | flush cause outbox flushes left =>
    obtain ⟨_, rfl⟩ := Outbox.run_owners_leave.mp left
    exact absurd more (Nat.lt_irrefl _)
  | answer i t response outbox job running offered =>
    rw [← Outbox.step_offer offered] at more
    exact absurd more (Nat.lt_irrefl _)
  | place i t placed outbox job offering room left =>
    obtain ⟨_, m, _, rfl⟩ := Outbox.step_place.mp room
    obtain ⟨_, rfl⟩ := Outbox.run_sender_leaves.mp left
    exact absurd more (Nat.lt_irrefl _)
  | endJob i t how outbox job ends left =>
    obtain ⟨_, rfl⟩ := Outbox.run_sender_leaves.mp left
    exact absurd more (Nat.lt_irrefl _)
  | sink b outbox sunk work =>
    cases work with
    | pickPong time m rest idle pongs =>
      simp only [pongs, List.length_cons] at more
      omega
    | pickMessage time m rest idle pongs => simp [pongs] at more
    | shut | wrote => exact absurd more (Nat.lt_irrefl _)
    | broke | closed => simp [Outbox.finish] at more

/-! The way to a ping. -/

theorem Aside.trans (first : s.Aside next) (second : next.Aside s') : s.Aside s' where
  instant := second.instant.trans first.instant
  permits := second.permits.trans first.permits
  stages := first.stages.trans second.stages
  queue := second.queue.trans first.queue
  offers := second.offers.trans first.offers
  writer := second.writer.trans first.writer
  written := second.written.trans first.written

theorem preferred_eq_nil {arrived : List (Inbound γ θ)} : s.preferred arrived = [] ↔
    s.stop = none ∧ s.outbox.writer.failure? = none ∧ s.alarmed = false ∧
      ∀ x ∈ arrived, x.ending? s.outbox.writer = none := by
  simp [preferred, outcomesOf, List.findSome?_eq_none_iff]

/-- What is preferred to a message that has arrived is what is pending first. -/
theorem preferred_prefix_pending (terms : Terms θ) {arrived rest : List (Inbound γ θ)}
    (inbox : s.inbox = arrived ++ rest) : s.preferred arrived <+: s.pending terms := by
  unfold preferred pending outcomesOf
  rw [inbox, List.findSome?_append]
  cases arrived.findSome? (Inbound.ending? s.outbox.writer) with
  | some outcome => simp
  | none => simp [List.append_assoc]

/-- What the loop reads without leaving. -/
theorem Steady.read_on (steady : Steady terms s) (serving : s.phase.isServicing = true)
    (attentive : s.attentive = true) (timely : (deadline? terms s.now).isSome = true)
    {x : Inbound γ θ} {rest : List (Inbound γ θ)}
    (inbox : s.inbox = x :: rest) (harmless : x.ending? s.outbox.writer = none) :
    ∃ next, s.act terms (.move .read) = some next ∧ s.Aside next ∧
      next.phase.isServicing = true ∧ next.inbox = rest ∧ next.stop = s.stop ∧
      next.outbox.pongs = s.outbox.pongs ++ (if x.isPing then [.pong] else []) ∧
      next.hasUnnoticed = s.hasUnnoticed := by
  obtain ⟨limit, phase⟩ := Phase.servicing_of_isServicing serving
  have due : s.isOverdue terms x = false := by
    simp [isOverdue, Option.isNone_eq_false_iff.mpr timely]
  obtain ⟨next, read⟩ := Option.isSome_iff_exists.mp
    (steady.read_isSome phase attentive inbox due)
  refine ⟨next, read, ?_⟩
  have goesOn := servingPhase_isServicing (γ := γ) timely
  cases Effect.of_act read with
  | ignore y rest' reading idle =>
    obtain ⟨rfl, rfl⟩ := List.cons.inj (reading.inbox.symm.trans inbox)
    refine ⟨⟨rfl, rfl, List.prefix_refl _, rfl, rfl, rfl, rfl⟩, goesOn, rfl, rfl, ?_, rfl⟩
    unfold Inbound.isIdle at idle
    split at idle <;> simp_all [Inbound.isPing, ServerMessage.isPing]
  | hangUp y rest' cause reading ends =>
    obtain ⟨rfl, rfl⟩ := List.cons.inj (reading.inbox.symm.trans inbox)
    cases y <;> simp_all [Inbound.cause?, Inbound.ending?]
  | ping rest' outbox reading taken =>
    obtain ⟨rfl, rfl⟩ := List.cons.inj (reading.inbox.symm.trans inbox)
    obtain ⟨_, rfl⟩ := Outbox.step_pong.mp taken
    exact ⟨⟨rfl, rfl, List.prefix_refl _, rfl, rfl, rfl, rfl⟩, goesOn, rfl, rfl, rfl, rfl⟩
  | pingRefused rest' reading refused =>
    obtain ⟨rfl, rfl⟩ := List.cons.inj (reading.inbox.symm.trans inbox)
    have gone := steady.tended.refused reading.isOpen refused
    obtain ⟨how, ended⟩ := Option.isSome_iff_exists.mp gone
    have unreported := Writer.failure_eq_none.mp (calm_of_attentive attentive).2.1
    simp [Inbound.ending?, unreported, ended] at harmless
  | dispatch request rest' outbox reading retained =>
    obtain ⟨rfl, rfl⟩ := List.cons.inj (reading.inbox.symm.trans inbox)
    obtain ⟨_, rfl⟩ := Outbox.step_retain.mp retained
    refine ⟨⟨rfl, rfl, ?_, rfl, rfl, rfl, rfl⟩, goesOn, rfl, rfl, ?_, ?_⟩
    · simp
    · simp [Inbound.isPing, ServerMessage.isPing]
    · simp [hasUnnoticed, Job.unnoticed, Job.hasEnded, Stage.isEnded]
  | control control => cases control
  | finish outcome ends => cases ends
  | flush cause outbox flushes => cases flushes
  | endJob i t how outbox job ends => cases ends
  | sink b outbox sunk => cases sunk

/-- The end of a job that raises no alarm is noticed, and nothing else. -/
theorem join_on (terms : Terms θ) (serving : s.phase.isServicing = true)
    (undisturbed : s.undisturbed = true)
    (calm : s.alarmed = false) (some : s.hasUnnoticed = true) :
    ∃ i next, s.act terms (.move (.join i)) = .some next ∧ s.Aside next ∧
      next.phase = s.phase ∧ next.inbox = s.inbox ∧ next.stop = s.stop ∧
      next.outbox = s.outbox ∧ next.alarmed = false ∧
      next.jobs.countP Job.unnoticed < s.jobs.countP Job.unnoticed := by
  obtain ⟨limit, phase⟩ := Phase.servicing_of_isServicing serving
  obtain ⟨i, t, job, unnoticed⟩ := unnoticed_job some
  have able : (s.act terms (.move (.join i))).isSome = true :=
    join_isSome job unnoticed (Or.inl ⟨limit, phase, undisturbed⟩)
  obtain ⟨next, acted⟩ := Option.isSome_iff_exists.mp able
  have silent : t.alarms = false := by
    have none := List.any_eq_false.mp calm t (List.mem_of_getElem? job)
    simpa using none
  refine ⟨i, next, acted, ?_⟩
  cases Effect.of_act acted with
  | join j u known unmet joining =>
    rw [job] at known
    cases known
    have stages : (s.jobs.set i { t with joined := true }).map Job.stage = s.jobs.map Job.stage :=
      map_set_same Job.stage job rfl
    refine ⟨⟨rfl, rfl, ?_, rfl, rfl, rfl, rfl⟩, rfl, rfl, rfl, rfl, ?_, ?_⟩
    · simp only [stages, List.prefix_rfl]
    · refine List.any_eq_false.mpr fun u member => ?_
      rcases List.mem_or_eq_of_mem_set member with known | rfl
      · exact List.any_eq_false.mp calm u known
      · simp [Job.alarms, Job.unnoticed]
    · have counts := join_ahead job unnoticed
      simp only [ahead] at counts
      dsimp only
      omega
  | joinPanicked j u limit known unmet phase undisturbed panicked =>
    rw [job] at known
    cases known
    simp [Job.alarms, unmet, panicked] at silent
  | control control => cases control
  | finish outcome ends => cases ends
  | flush cause outbox flushes => cases flushes
  | endJob i t how outbox job ends => cases ends
  | sink b outbox sunk => cases sunk

/-- The loop gets to a ping by itself. -/
theorem Steady.answers (steady : Steady terms s) (serving : s.phase.isServicing = true)
    (timely : (deadline? terms s.now).isSome = true) (before : List (Inbound γ θ))
    {rest : List (Inbound γ θ)}
    (inbox : s.inbox = before ++ .message .ping :: rest)
    (alone : s.preferred (before ++ [.message .ping]) = []) : ∃ actions s',
      (∀ a ∈ actions, a.byLoop = true) ∧ s.run terms actions = some s' ∧ s.Aside s' ∧
      s'.phase.isServicing = true ∧ s'.inbox = rest ∧
      s'.outbox.pongs =
        s.outbox.pongs ++ List.replicate (before.countP Inbound.isPing + 1) .pong := by
  induction work : s.jobs.countP Job.unnoticed + before.length using Nat.strongRecOn
    generalizing s before with
  | ind n ih =>
    obtain ⟨unstopped, unfailed, calm, harmless⟩ := preferred_eq_nil.mp alone
    have undisturbed : s.undisturbed = true := by
      simp [Session.undisturbed, unstopped, Writer.failure_eq_none.mp unfailed]
    cases noticed : s.hasUnnoticed with
    | true =>
      obtain ⟨i, next, acted, aside, phase, same, stop, outbox, calm', less⟩ :=
        join_on terms serving undisturbed calm noticed
      have alone' : next.preferred (before ++ [.message .ping]) = [] := by
        refine preferred_eq_nil.mpr ⟨stop.trans unstopped, ?_, calm', ?_⟩
        · rw [outbox, unfailed]
        · rw [outbox]
          exact harmless
      obtain ⟨actions, s', loops, ran, further, serving', left, pongs⟩ :=
        ih _ (by omega) (steady.step (.of_act acted)) (by rw [phase, serving])
          (aside.instant ▸ timely) before (same.trans inbox) alone' rfl
      refine ⟨.move (.join i) :: actions, s', List.forall_mem_cons.mpr ⟨rfl, loops⟩,
        Runs.foldlM_cons.mpr ⟨next, acted, ran⟩, aside.trans further, serving', left, ?_⟩
      rw [pongs, outbox]
    | false =>
      have attentive : s.attentive = true := by simp [Session.attentive, undisturbed, noticed]
      cases before with
      | nil =>
        obtain ⟨next, acted, aside, serving', left, _, pongs, _⟩ :=
          steady.read_on serving attentive timely inbox (harmless _ (by simp))
        exact ⟨[.move .read], next, by simp [Action.byLoop, Move.byLoop],
          Runs.foldlM_cons.mpr ⟨next, acted, rfl⟩, aside, serving', left, pongs⟩
      | cons x before =>
        obtain ⟨next, acted, aside, serving', left, stop, pongs, unmet⟩ :=
          steady.read_on serving attentive timely inbox (harmless x (by simp))
        have noticed' : next.hasUnnoticed = false := unmet.trans noticed
        have alone' : next.preferred (before ++ [.message .ping]) = [] := by
          refine preferred_eq_nil.mpr
            ⟨stop.trans unstopped, ?_, alarmed_of_noticed noticed', fun y member => ?_⟩
          · rw [aside.writer, unfailed]
          · rw [aside.writer]
            exact harmless y (List.mem_cons_of_mem x member)
        have less : next.jobs.countP Job.unnoticed + before.length < n := by
          rw [← work, hasUnnoticed_eq.mp noticed', hasUnnoticed_eq.mp noticed, List.length_cons]
          omega
        obtain ⟨actions, s', loops, ran, further, serving'', left', pongs'⟩ :=
          ih _ less (steady.step (.of_act acted)) serving' (aside.instant ▸ timely) before left
            alone' rfl
        refine ⟨.move .read :: actions, s', List.forall_mem_cons.mpr ⟨rfl, loops⟩,
          Runs.foldlM_cons.mpr ⟨next, acted, ran⟩, aside.trans further, serving'', left', ?_⟩
        rw [pongs', pongs, List.countP_cons]
        cases x.isPing <;> simp [List.replicate_succ]

/-- While anything is to be read the loop has something to do, so no time passes. -/
theorem Steady.not_waiting (steady : Steady terms s) (serving : s.phase.isServicing = true)
    (some : s.inbox ≠ []) (time : Nat) : s.mayWait terms time = false := by
  obtain ⟨m, member, _, able⟩ := steady.ready serving (Or.inr some)
  by_contra waits
  simp only [mayWait, Bool.not_eq_false, Bool.and_eq_true] at waits
  exact not_quiet member able waits.1

/-- In every run the keep-alive goes on beside all other work. -/
theorem pings_answered_beside_work {openedAt : Nat} {actions : List (Action γ θ ρ)}
    (ran : (Session.opened terms.settings openedAt arguments).run terms actions = some s) :
    KeepsAlive terms
      ((Session.opened terms.settings openedAt arguments).pongPlaces terms actions) s := by
  have sound := Sound.of_run ran
  have steady : Steady terms s := Steady.of_run ran
  have keeps := keeps_of_run ran
  refine ⟨?_, ?_, ?_, ?_, keeps.ascending, keeps.handed⟩
  · intro serving before rest inbox alone timely
    exact steady.answers serving (Option.isSome_iff_ne_none.mpr timely) before inbox alone
  · intro serving before rest outcome inbox first
    have pending : (s.pending terms).head? = some outcome := by
      have inbox' : s.inbox = (before ++ [.message .ping]) ++ rest := by simp [inbox]
      obtain ⟨more, same⟩ := preferred_prefix_pending terms inbox'
      rw [← same, List.head?_append, first]
      rfl
    obtain ⟨further, s', loops, ran', reached⟩ := steady.reaches serving pending
    exact ⟨further, s', loops, ran', reached.imp_right (steady.run ran').settles⟩
  · exact steady.not_waiting
  · intro a next acted more
    have effect := Effect.of_act acted
    obtain ⟨lasts, outbox⟩ := effect.pong_of_more more
    refine ⟨by rw [outbox], sound.conveyed.pongs, ?_, ?_⟩
    · unfold Outbox.underway
      split <;> simp
    · intro further s' sent ran' before due
      have start : next.outbox.Follows due := by
        refine .of_due ?_
        rw [outbox]
        exact (List.append_assoc _ _ _).symm
      exact ((sound.step effect).follows start ran').sent before

/-- Room for one response. -/
def crowdedTerms : Terms Nat :=
  { exchangeTerms with settings := { outboundBuffer := 1 } }

/-- The response of the first job fills the queue and the handler of the second one has the only
permit, while a request and a ping are left to be read. -/
def crowded : List (Action String Nat String) :=
  exchangeReading ++
    [.move (.ask 0), .move (.start 0), .event (.answer 0 { payload := "ten" }), .move (.place 0),
      .move (.ask 1), .move (.start 1),
      .event (.arrive (.message (.request ⟨exchangeContext 3, 30⟩))),
      .event (.arrive (.message .ping))]

theorem pings_answered_crowded :
    ∃ s : Session String String Nat String,
      (Session.opened crowdedTerms.settings 0 { payload := "hello" }).run crowdedTerms crowded =
        some s ∧
      s.phase.isServicing = true ∧ s.permits.free = 0 ∧ s.outbox.room = 0 ∧
      s.inbox = [.message (.request ⟨exchangeContext 3, 30⟩), .message .ping] ∧
      KeepsAlive crowdedTerms ((Session.opened crowdedTerms.settings 0
        ({ payload := "hello" } : ConnectArguments String)).pongPlaces crowdedTerms crowded) s :=
  ⟨_, rfl, rfl, rfl, rfl, rfl, pings_answered_beside_work rfl⟩

end Dialback.Session
