import Dialback.Proofs.Session.Remaining

/-!
The writer merges its two lanes. What the sink is handed is made up of a start of the pongs and a
start of the other messages, each in the order in which it was queued; pongs come first. Once both
lanes are closed the writer gets to the end of both and closes the sink behind the last message. A
write that fails is the end of writing.
-/
namespace Dialback.Session

/-- All of two sequences, each in its order. -/
inductive Interleave {μ : Type} : List μ → List μ → List μ → Prop
  | nil : Interleave [] [] []
  | left {xs ys zs : List μ} (m : μ) (others : Interleave xs ys zs) :
      Interleave (xs ++ [m]) ys (zs ++ [m])
  | right {xs ys zs : List μ} (m : μ) (others : Interleave xs ys zs) :
      Interleave xs (ys ++ [m]) (zs ++ [m])

/-- What went through an outbox. -/
structure Ledger (μ : Type) where
  /-- The pongs that were queued. -/
  pongs : List μ := []
  /-- The other messages, as they got room in the queue. -/
  messages : List μ := []
  /-- What the sink was handed. -/
  sent : List μ := []

variable {μ : Type}

def Ledger.note (l : Ledger μ) (o : Outbox μ) : Outbox.Action μ → Ledger μ
  | .pong m => { l with pongs := l.pongs ++ [m] }
  | .place sender => { l with messages := l.messages ++ (o.placeable? sender).toList }
  | .pick _ => { l with sent := l.sent ++ (o.pongs ++ o.queue).take 1 }
  | _ => l

namespace Outbox

/-- An outbox as its owner gets it, with the one handle that the owner holds. -/
def spawned (capacity : Nat) : Outbox μ where
  capacity
  handles := 1

/-- Whoever waits for room holds a handle. -/
def isHeld (o : Outbox μ) : Bool :=
  o.offers.isEmpty || decide (0 < o.handles)

/-- A sender lends its handle to the message that waits for room, so that none is dropped
meanwhile. -/
def stepHeld (o : Outbox μ) (a : Action μ) : Option (Outbox μ) :=
  (o.step a).filter isHeld

def runHeld (o : Outbox μ) (actions : List (Action μ)) : Option (Outbox μ) :=
  actions.foldlM stepHeld o

/-- The ledger of a run that begins in `o`. -/
def ledger (o : Outbox μ) (actions : List (Action μ)) : Ledger μ :=
  Runs.noted stepHeld Ledger.note {} o actions

/-- The writer's own steps, as long as nothing goes wrong. -/
def Action.succeeds : Action μ → Bool
  | pick _ | wrote _ | closed _ => true
  | _ => false

variable {l : Ledger μ} {o o' : Outbox μ} {a : Action μ} {actions : List (Action μ)}

theorem stepHeld_eq_some : o.stepHeld a = some o' ↔ o.step a = some o' ∧ o'.isHeld = true := by
  rw [stepHeld, Option.filter_eq_some_iff]

theorem offers_of_unheld (held : o.isHeld = true) (handles : o.handles = 0) : o.offers = [] := by
  simpa [isHeld, handles] using held

/-! After the end of the writer. -/

structure Merging (l : Ledger μ) (o : Outbox μ) : Prop where
  merged : ∃ pongs messages, Interleave pongs messages l.sent ∧ pongs <+: l.pongs ∧
    messages <+: l.messages ∧
    (o.writer.isLost = false → l.pongs = pongs ++ o.pongs ∧ l.messages = messages ++ o.queue)
  written : o.written.map Prod.snd <+: l.sent
  handed : o.writer.isLost = false → o.handed = l.sent
  shut : o.writer.isShutting = true →
    o.pongsOpen = false ∧ o.handles = 0 ∧ o.pongs = [] ∧ o.queue = []
  held : o.isHeld = true

namespace Merging

theorem spawned (capacity : Nat) : Merging {} (Outbox.spawned capacity : Outbox μ) where
  merged := ⟨[], [], .nil, List.prefix_refl _, List.prefix_refl _, fun _ => ⟨rfl, rfl⟩⟩
  written := List.prefix_refl _
  handed _ := rfl
  shut closing := by cases closing
  held := rfl

/-- Handles and offers come and go. -/
theorem keep (merging : Merging l o) (pongs : o'.pongs = o.pongs) (queue : o'.queue = o.queue)
    (writer : o'.writer = o.writer) (written : o'.written = o.written)
    (closed : o.pongsOpen = false → o'.pongsOpen = false)
    (unheld : o.handles = 0 → o'.handles = 0) (held : o'.isHeld = true) : Merging l o' := by
  have handed : o'.handed = o.handed := by simp [Outbox.handed, underway, writer, written]
  refine ⟨?_, ?_, ?_, ?_, held⟩
  · rw [pongs, queue, writer]
    exact merging.merged
  · rw [written]
    exact merging.written
  · rw [handed, writer]
    exact merging.handed
  · rw [pongs, queue, writer]
    intro shutting
    obtain ⟨shut, none, empty⟩ := merging.shut shutting
    exact ⟨closed shut, unheld none, empty⟩

theorem pong (merging : Merging l o) (m : μ) (isOpen : o.pongsOpen = true)
    (held : isHeld { o with pongs := o.pongs ++ [m] } = true) :
    Merging { l with pongs := l.pongs ++ [m] } { o with pongs := o.pongs ++ [m] } := by
  obtain ⟨pongs, messages, merged, before, before', all⟩ := merging.merged
  refine ⟨⟨pongs, messages, merged, before.trans (List.prefix_append _ _), before', ?_⟩,
    merging.written, merging.handed, ?_, held⟩
  · intro working
    obtain ⟨same, same'⟩ := all working
    exact ⟨by rw [same, List.append_assoc], same'⟩
  · intro shutting
    rw [(merging.shut shutting).1] at isOpen
    cases isOpen

theorem place (merging : Merging l o) (sender : Nat) (m : μ)
    (found : o.placeable? sender = some m)
    (held : isHeld { o.withdraw sender with queue := o.queue ++ [m] } = true) :
    Merging { l with messages := l.messages ++ [m] }
      { o.withdraw sender with queue := o.queue ++ [m] } := by
  obtain ⟨pongs, messages, merged, before, before', all⟩ := merging.merged
  refine ⟨⟨pongs, messages, merged, before, before'.trans (List.prefix_append _ _), ?_⟩,
    merging.written, merging.handed, ?_, held⟩
  · intro working
    obtain ⟨same, same'⟩ := all working
    exact ⟨same, by rw [same', List.append_assoc]⟩
  · intro shutting
    have offered := placeable_offered found
    rw [offers_of_unheld merging.held (merging.shut shutting).2.1] at offered
    cases offered

/-- The writer is gone, and with it what was queued. -/
theorem lose (merging : Merging l o) {how : WriterEnd}
    (lost : (Writer.ended how : Writer μ).isLost = true) : Merging l (o.finish how) := by
  obtain ⟨pongs, messages, merged, before, before', _⟩ := merging.merged
  refine ⟨⟨pongs, messages, merged, before, before', ?_⟩, merging.written, ?_, ?_, merging.held⟩
  · intro working
    rw [finish, lost] at working
    cases working
  · intro working
    rw [finish, lost] at working
    cases working
  · intro shutting
    cases how <;> simp [finish, Writer.isShutting, Writer.isLost] at shutting lost

theorem work (merging : Merging l o) (work : o.Work a o') (held : o'.isHeld = true) :
    Merging (l.note o a) o' := by
  obtain ⟨pongs, messages, merged, before, before', all⟩ := merging.merged
  cases work with
  | pickPong time m rest idle waiting =>
    have working : o.writer.isLost = false := by simp [idle, Writer.isLost]
    obtain ⟨same, same'⟩ := all working
    have handed := merging.handed working
    have noted : l.note o (.pick time) = { l with sent := l.sent ++ [m] } := by
      simp [Ledger.note, waiting]
    rw [noted]
    rw [waiting] at same
    refine ⟨⟨pongs ++ [m], messages, merged.left m, ⟨rest, by simp [same]⟩, before', fun _ => ?_⟩,
      merging.written.trans (List.prefix_append _ _), fun _ => ?_, ?_, held⟩
    · exact ⟨by simp [same], same'⟩
    · simp [← handed, Outbox.handed, underway, idle]
    · simp [Writer.isShutting]
  | pickMessage time m rest idle none waiting =>
    have working : o.writer.isLost = false := by simp [idle, Writer.isLost]
    obtain ⟨same, same'⟩ := all working
    have handed := merging.handed working
    have noted : l.note o (.pick time) = { l with sent := l.sent ++ [m] } := by
      simp [Ledger.note, none, waiting]
    rw [noted]
    rw [waiting] at same'
    refine ⟨⟨pongs, messages ++ [m], merged.right m, before, ⟨rest, by simp [same']⟩, fun _ => ?_⟩,
      merging.written.trans (List.prefix_append _ _), fun _ => ?_, ?_, held⟩
    · exact ⟨same, by simp [same']⟩
    · simp [← handed, Outbox.handed, underway, idle]
    · simp [Writer.isShutting]
  | shut time idle none none' closed unheld =>
    have working : o.writer.isLost = false := by simp [idle, Writer.isLost]
    have noted : l.note o (.pick time) = l := by simp [Ledger.note, none, none']
    rw [noted]
    refine ⟨⟨pongs, messages, merged, before, before', fun _ => all working⟩, merging.written,
      fun _ => ?_, fun _ => ⟨closed, unheld, none, none'⟩, held⟩
    simp [← merging.handed working, Outbox.handed, underway, idle]
  | wrote time m since writing =>
    have working : o.writer.isLost = false := by simp [writing, Writer.isLost]
    have handed : (o.written ++ [(time, m)]).map Prod.snd = l.sent := by
      simp [← merging.handed working, Outbox.handed, underway, writing]
    refine ⟨⟨pongs, messages, merged, before, before', fun _ => all working⟩, ?_, fun _ => ?_, ?_,
      held⟩
    · rw [handed]
      exact List.prefix_refl l.sent
    · rw [Outbox.handed, underway, List.append_nil]
      exact handed
    · simp [Writer.isShutting]
  | broke _ how m since writing broken =>
    have lost : (Writer.ended how : Writer μ).isLost = true := by cases broken <;> rfl
    have noted : l.note o a = l := by cases broken <;> rfl
    rw [noted]
    exact merging.lose lost
  | closed _ how closing closed =>
    have working : o.writer.isLost = false := by simp [closing, Writer.isLost]
    have noted : l.note o a = l := by cases closed <;> rfl
    obtain ⟨shut, unheld, none, none'⟩ := merging.shut (by simp [closing, Writer.isShutting])
    have lasting := all working
    rw [none, none'] at lasting
    rw [noted]
    refine ⟨⟨pongs, messages, merged, before, before', fun _ => lasting⟩, merging.written,
      fun _ => ?_, fun _ => ⟨shut, unheld, rfl, rfl⟩, held⟩
    simp [← merging.handed working, Outbox.handed, underway, finish, closing]

theorem step (merging : Merging l o) (stepped : o.stepHeld a = some o') :
    Merging (l.note o a) o' := by
  obtain ⟨stepped, held⟩ := stepHeld_eq_some.mp stepped
  cases own : a.byWriter with
  | true => exact merging.work (.of_step own stepped) held
  | false =>
    cases a with
    | pick | wrote | writeFailed | crashed | closed | closeFailed => cases own
    | pong m =>
      obtain ⟨able, rfl⟩ := step_pong.mp stepped
      exact merging.pong m able.1 held
    | place sender =>
      obtain ⟨_, m, found, rfl⟩ := step_place.mp stepped
      simp only [Ledger.note, found, Option.toList_some]
      exact merging.place sender m found held
    | drop =>
      simp only [Outbox.step] at stepped
      split at stepped
      · cases stepped
      · cases stepped
        exact merging.lose rfl
    | retain =>
      obtain ⟨some, rfl⟩ := step_retain.mp stepped
      exact merging.keep rfl rfl rfl rfl id (by omega) held
    | offer sender m =>
      rw [← step_offer stepped] at held ⊢
      exact merging.keep rfl rfl rfl rfl id id held
    | withdraw sender =>
      cases stepped
      exact merging.keep rfl rfl rfl rfl id id held
    | closePongs =>
      simp only [Outbox.step] at stepped
      split at stepped
      · cases stepped
        exact merging.keep rfl rfl rfl rfl (fun _ => rfl) id held
      · cases stepped
    | release =>
      simp only [Outbox.step] at stepped
      split at stepped
      · cases stepped
        exact merging.keep rfl rfl rfl rfl id (by omega) held
      · cases stepped

theorem of_run {capacity : Nat} (ran : (Outbox.spawned capacity).runHeld actions = some o) :
    Merging ((Outbox.spawned capacity).ledger actions) o :=
  Runs.noted_induction (fun _ => True) (fun _ _ _ _ _ merging stepped => merging.step stepped)
    (spawned capacity) (fun _ _ => trivial) ran

/-- Nothing is missing of what was written when the sink is closed. -/
theorem complete (merging : Merging l o) (shutting : o.writer.isShutting = true) :
    Interleave l.pongs l.messages (o.written.map Prod.snd) := by
  have working : o.writer.isLost = false := by
    rcases writer : o.writer with _ | _ | _ | how
    · rfl
    · rfl
    · rfl
    · cases how <;> simp [writer, Writer.isShutting, Writer.isLost] at shutting ⊢
  obtain ⟨pongs, messages, merged, _, _, all⟩ := merging.merged
  obtain ⟨same, same'⟩ := all working
  obtain ⟨_, _, none, none'⟩ := merging.shut shutting
  have idle : o.underway = [] := by
    rcases writer : o.writer with _ | _ | _ | how
    · simp [underway, writer]
    · simp [writer, Writer.isShutting] at shutting
    · simp [underway, writer]
    · simp [underway, writer]
  rw [none, List.append_nil] at same
  rw [none', List.append_nil] at same'
  have handed := merging.handed working
  rw [Outbox.handed, idle, List.append_nil] at handed
  rwa [handed, same, same']

end Merging

/-! On the way to the end. -/

theorem Work.keepsHeld {b : Action μ} (work : o.Work b o') (held : o.isHeld = true) :
    o'.isHeld = true := by
  obtain ⟨_, handles, offers⟩ := work.frame
  rw [isHeld, handles, offers]
  exact held

theorem byWriter_of_succeeds (succeeds : a.succeeds = true) : a.byWriter = true := by
  cases a <;> first | rfl | cases succeeds

/-- A writer whose lanes are closed always has something to do. -/
theorem goes_on (held : o.isHeld = true) (closed : o.pongsOpen = false) (unheld : o.handles = 0)
    (unended : o.writer.hasEnded = false) :
    ∃ a next, a.succeeds = true ∧ o.stepHeld a = some next := by
  have able : ∃ a next, a.succeeds = true ∧ o.step a = some next := by
    rcases writer : o.writer with _ | ⟨m, since⟩ | _ | how
    · refine ⟨.pick 0, ?_⟩
      rcases pongs : o.pongs with _ | ⟨m, rest⟩
      · rcases queue : o.queue with _ | ⟨m, rest⟩
        · exact ⟨_, rfl, by simp [step, picked?, writer, pongs, queue, closed, unheld]; rfl⟩
        · exact ⟨_, rfl, by simp [step, picked?, writer, pongs, queue]; rfl⟩
      · exact ⟨_, rfl, by simp [step, picked?, writer, pongs]; rfl⟩
    · exact ⟨.wrote 0, _, rfl, by simp [step, writer]; rfl⟩
    · exact ⟨.closed 0, _, rfl, by simp [step, writer]; rfl⟩
    · simp [writer, Writer.hasEnded, Writer.ending?] at unended
  obtain ⟨a, next, succeeds, stepped⟩ := able
  have work := Work.of_step (byWriter_of_succeeds succeeds) stepped
  exact ⟨a, next, succeeds, stepHeld_eq_some.mpr ⟨stepped, work.keepsHeld held⟩⟩

theorem Closes.byWriter {how : WriterEnd} (closed : Closes a how) : a.byWriter = true := by
  cases closed <;> rfl

end Outbox
end Dialback.Session
