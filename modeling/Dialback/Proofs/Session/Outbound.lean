import Dialback.Proofs.Session.Handles
import Mathlib.Data.List.Forall2

/-!
The outbound side of a session. Behind its connect arguments the sink is handed pongs and responses
only: no more pongs than pings were served, and the responses of jobs in the order in which they
were queued, each under the context of its own request. Nothing is missing unless the writer is
lost.
-/
namespace Dialback

variable {α γ θ ρ : Type}

def ClientMessage.isPong : ClientMessage α ρ → Bool
  | pong => true
  | _ => false

def ClientMessage.response? : ClientMessage α ρ → Option (Response ρ)
  | response r => some r
  | _ => none

namespace Session

/-- The response is what the handler of the job returned, under the context of the job's request. -/
def Log.Replies (l : Log γ θ ρ) (r : Response ρ) (job : Nat) : Prop :=
  ∃ request response, l.requests[job]? = some request ∧ (job, response) ∈ l.answered ∧
    r = response.withContext request.context

/-- Whatever is related entry by entry is so from the start. -/
theorem forall₂_of_start {β δ : Type} {related : β → δ → Prop} {xs start : List β} {ys : List δ}
    (all : List.Forall₂ related xs ys) (before : start <+: xs) :
    ∃ cut, cut <+: ys ∧ List.Forall₂ related start cut := by
  obtain ⟨rest, rfl⟩ := before
  have taken := List.forall₂_take start.length all
  rw [List.take_left] at taken
  exact ⟨_, List.take_prefix _ ys, taken⟩

/-- What an outbox holds and has handed over: pongs for so many pings, and replies to the jobs that
were placed. -/
structure Outbox.Conveys (o : Outbox (ClientMessage α ρ)) (replies : Response ρ → Nat → Prop)
    (pings : Nat) (placed : List Nat) : Prop where
  offers : ∀ e ∈ o.offers, ∃ r, e.2 = .response r ∧ replies r e.1
  pongs : ∀ m ∈ o.pongs, m = .pong
  queue : ∀ m ∈ o.queue, ∃ r, m = .response r
  handed : ∀ m ∈ o.handed, m = .pong ∨ ∃ r, m = .response r
  count : (o.handed ++ o.pongs).countP ClientMessage.isPong ≤ pings
  complete : o.writer.isLost = false →
    (o.handed ++ o.pongs).countP ClientMessage.isPong = pings
  order : ∃ order, order <+: placed ∧ (o.writer.isLost = false → order = placed) ∧
    List.Forall₂ replies ((o.handed ++ o.queue).filterMap ClientMessage.response?) order
  shut : o.writer.isShutting = true → o.pongs = [] ∧ o.queue = []

namespace Outbox.Conveys

variable {o o' : Outbox (ClientMessage α ρ)} {replies replies' : Response ρ → Nat → Prop}
  {pings : Nat} {placed : List Nat}

theorem opened (capacity handles : Nat) :
    ({ capacity, handles } : Outbox (ClientMessage α ρ)).Conveys replies 0 [] where
  offers e member := by cases member
  pongs m member := by cases member
  queue m member := by cases member
  handed m member := by cases member
  count := Nat.le_refl 0
  complete _ := rfl
  order := ⟨[], List.prefix_refl [], fun _ => rfl, List.Forall₂.nil⟩
  shut closing := by cases closing

theorem mono (conveys : o.Conveys replies pings placed)
    (more : ∀ r job, replies r job → replies' r job) : o.Conveys replies' pings placed := by
  obtain ⟨order, before, all, answered⟩ := conveys.order
  refine { conveys with offers := ?_, order := ⟨order, before, all, answered.imp (more · ·)⟩ }
  intro e member
  obtain ⟨r, same, reply⟩ := conveys.offers e member
  exact ⟨r, same, more r e.1 reply⟩

/-- Handles, and offers that are withdrawn, make no difference. -/
theorem less (conveys : o.Conveys replies pings placed) (offers : ∀ e ∈ o'.offers, e ∈ o.offers)
    (pongs : o'.pongs = o.pongs) (queue : o'.queue = o.queue) (writer : o'.writer = o.writer)
    (written : o'.written = o.written) : o'.Conveys replies pings placed := by
  have handed : o'.handed = o.handed := by simp [Outbox.handed, underway, writer, written]
  constructor
  case offers =>
    intro e member
    exact conveys.offers e (offers e member)
  case pongs =>
    rw [pongs]
    exact conveys.pongs
  case queue =>
    rw [queue]
    exact conveys.queue
  case handed =>
    rw [handed]
    exact conveys.handed
  case count =>
    rw [handed, pongs]
    exact conveys.count
  case complete =>
    rw [handed, pongs, writer]
    exact conveys.complete
  case order =>
    rw [handed, queue, writer]
    exact conveys.order
  case shut =>
    rw [pongs, queue, writer]
    exact conveys.shut

theorem offer (conveys : o.Conveys replies pings placed) {job : Nat} {r : Response ρ}
    (reply : replies r job) :
    ({ o with offers := o.offers ++ [(job, .response r)] } : Outbox _).Conveys replies pings
      placed := by
  refine { conveys with offers := ?_ }
  intro e member
  rcases List.mem_append.mp member with known | new
  · exact conveys.offers e known
  · rw [List.mem_singleton.mp new]
    exact ⟨r, rfl, reply⟩

theorem pong (conveys : o.Conveys replies pings placed) (working : o.writer.isShutting = false) :
    ({ o with pongs := o.pongs ++ [.pong] } : Outbox _).Conveys replies (pings + 1) placed := by
  have counts : (o.handed ++ (o.pongs ++ [ClientMessage.pong])).countP ClientMessage.isPong =
      (o.handed ++ o.pongs).countP ClientMessage.isPong + 1 := by
    rw [← List.append_assoc, List.countP_append, List.countP_singleton]
    rfl
  refine { conveys with pongs := ?_, count := ?_, complete := ?_, shut := ?_ }
  · intro m member
    rcases List.mem_append.mp member with known | new
    · exact conveys.pongs m known
    · exact List.mem_singleton.mp new
  · exact Nat.le_trans (Nat.le_of_eq counts) (Nat.succ_le_succ conveys.count)
  · intro kept
    exact counts.trans (congrArg (· + 1) (conveys.complete kept))
  · intro closing
    exact absurd closing (by simp [working])

/-- A lost writer answers no ping. -/
theorem refused (conveys : o.Conveys replies pings placed) (lost : o.writer.isLost = true) :
    o.Conveys replies (pings + 1) placed := by
  refine { conveys with count := Nat.le_succ_of_le conveys.count, complete := ?_ }
  intro kept
  exact absurd kept (by simp [lost])

theorem place (conveys : o.Conveys replies pings placed) (lasts : o.writer.hasEnded = false)
    (working : o.writer.isShutting = false) {job : Nat} {m : ClientMessage α ρ}
    (found : o.placeable? job = some m) :
    ({ o.withdraw job with queue := o.queue ++ [m] } : Outbox _).Conveys replies pings
      (placed ++ [job]) := by
  obtain ⟨r, rfl, reply⟩ := conveys.offers _ (placeable_offered found)
  have kept : o.writer.isLost = false := by
    cases writer : o.writer <;> simp [writer, Writer.hasEnded, Writer.ending?, Writer.isLost] at *
  obtain ⟨order, _, all, answered⟩ := conveys.order
  refine { conveys with offers := ?_, queue := ?_, order := ?_, shut := ?_ }
  · intro e member
    exact conveys.offers e (List.mem_of_mem_filter member)
  · intro m member
    rcases List.mem_append.mp member with known | new
    · exact conveys.queue m known
    · exact ⟨r, List.mem_singleton.mp new⟩
  · refine ⟨placed ++ [job], List.prefix_refl _, fun _ => rfl, ?_⟩
    change List.Forall₂ replies
      ((o.handed ++ (o.queue ++ [ClientMessage.response r])).filterMap ClientMessage.response?) _
    rw [← List.append_assoc, List.filterMap_append]
    rw [all kept] at answered
    exact List.rel_append answered (.cons reply .nil)
  · intro closing
    exact absurd (working.symm.trans closing) Bool.false_ne_true

/-- Whatever has not been written is lost with the writer. -/
theorem lose (conveys : o.Conveys replies pings placed) {how : WriterEnd}
    (lost : (Writer.ended how : Writer (ClientMessage α ρ)).isLost = true) :
    (o.finish how).Conveys replies pings placed := by
  have less : (o.finish how).handed = o.written.map Prod.snd := by
    simp [Outbox.handed, underway, finish]
  have before : o.written.map Prod.snd <+: o.handed := List.prefix_append _ _
  constructor
  case offers => exact conveys.offers
  case pongs =>
    intro m member
    cases member
  case queue =>
    intro m member
    cases member
  case handed =>
    rw [less]
    intro m member
    exact conveys.handed m (before.subset member)
  case count =>
    rw [less]
    have inside := (before.trans (List.prefix_append o.handed o.pongs)).sublist
    have count := Nat.le_trans inside.countP_le conveys.count
    simpa [finish] using count
  case complete =>
    intro kept
    exact absurd kept (by simp [finish, lost])
  case order =>
    obtain ⟨order, inOrder, all, answered⟩ := conveys.order
    rw [less]
    have start := (before.trans (List.prefix_append o.handed o.queue)).filterMap
      ClientMessage.response?
    obtain ⟨cut, shorter, kept⟩ := forall₂_of_start answered start
    refine ⟨cut, shorter.trans inOrder, ?_, by simpa [finish] using kept⟩
    intro kept
    exact absurd kept (by simp [finish, lost])
  case shut =>
    intro closing
    exact ⟨rfl, rfl⟩

theorem dropped (conveys : o.Conveys replies pings placed) :
    o.dropped.Conveys replies pings placed := by
  unfold Outbox.dropped
  split
  · exact conveys
  · exact conveys.lose rfl

/-- A message moves on from its lane to the sink. -/
private theorem move (conveys : o.Conveys replies pings placed)
    (kept : o'.writer.isLost = o.writer.isLost) (working : o'.writer.isShutting = false)
    (offers : o'.offers = o.offers)
    (pongs : ∀ m ∈ o'.pongs, m ∈ o.pongs) (queue : ∀ m ∈ o'.queue, m ∈ o.queue)
    (handed : ∀ m ∈ o'.handed, m ∈ o.handed ++ o.pongs ++ o.queue)
    (counts : (o'.handed ++ o'.pongs).countP ClientMessage.isPong =
      (o.handed ++ o.pongs).countP ClientMessage.isPong)
    (responses : (o'.handed ++ o'.queue).filterMap ClientMessage.response? =
      (o.handed ++ o.queue).filterMap ClientMessage.response?) :
    o'.Conveys replies pings placed := by
  constructor
  case offers =>
    rw [offers]
    exact conveys.offers
  case pongs =>
    intro m member
    exact conveys.pongs m (pongs m member)
  case queue =>
    intro m member
    exact conveys.queue m (queue m member)
  case handed =>
    intro m member
    rcases List.mem_append.mp (handed m member) with either | queued
    · rcases List.mem_append.mp either with known | waiting
      · exact conveys.handed m known
      · exact Or.inl (conveys.pongs m waiting)
    · exact Or.inr (conveys.queue m queued)
  case count =>
    rw [counts]
    exact conveys.count
  case complete =>
    rw [counts, kept]
    exact conveys.complete
  case order =>
    rw [responses, kept]
    exact conveys.order
  case shut =>
    intro closing
    exact absurd closing (by simp [working])

/-- The sink is closed when both lanes are empty, so nothing is lost. -/
private theorem close (conveys : o.Conveys replies pings placed) (closing : o.writer = .closing)
    (how : WriterEnd) : (o.finish how).Conveys replies pings placed := by
  obtain ⟨pongs, queue⟩ := conveys.shut (by rw [closing]; rfl)
  have handed : (o.finish how).handed = o.handed := by
    simp [Outbox.handed, underway, finish, closing]
  have kept : o.writer.isLost = false := by
    rw [closing]
    rfl
  constructor
  case offers => exact conveys.offers
  case pongs =>
    intro m member
    cases member
  case queue =>
    intro m member
    cases member
  case handed =>
    rw [handed]
    exact conveys.handed
  case count =>
    have count := conveys.count
    rw [pongs] at count
    rwa [handed]
  case complete =>
    intro _
    have complete := conveys.complete kept
    rw [pongs] at complete
    rwa [handed]
  case order =>
    obtain ⟨order, inOrder, all, answered⟩ := conveys.order
    rw [queue] at answered
    rw [handed]
    exact ⟨order, inOrder, fun _ => all kept, answered⟩
  case shut => exact fun _ => ⟨rfl, rfl⟩

theorem work (conveys : o.Conveys replies pings placed) {b : Outbox.Action (ClientMessage α ρ)}
    (work : o.Work b o') : o'.Conveys replies pings placed := by
  cases work with
  | pickPong time m rest idle pongs =>
    have first : m = .pong := conveys.pongs m (by simp [pongs])
    subst first
    refine conveys.move (by rw [idle]; rfl) rfl rfl ?_ ?_ ?_ ?_ ?_
    · intro m member
      rw [pongs]
      exact List.mem_cons_of_mem _ member
    · exact fun m member => member
    · intro m member
      simp only [Outbox.handed, underway, idle, List.append_nil, List.mem_append, pongs,
        List.mem_cons] at member ⊢
      tauto
    · simp [Outbox.handed, underway, idle, pongs]
    · simp [Outbox.handed, underway, idle, List.filterMap_cons, ClientMessage.response?]
  | pickMessage time m rest idle pongs queue =>
    obtain ⟨r, rfl⟩ := conveys.queue m (by simp [queue])
    refine conveys.move (by rw [idle]; rfl) rfl rfl ?_ ?_ ?_ ?_ ?_
    · exact fun m member => member
    · intro m member
      rw [queue]
      exact List.mem_cons_of_mem _ member
    · intro m member
      simp only [Outbox.handed, underway, idle, List.append_nil, List.mem_append, queue,
        List.mem_cons] at member ⊢
      tauto
    · simp [Outbox.handed, underway, idle, pongs, ClientMessage.isPong]
    · simp [Outbox.handed, underway, idle, queue]
  | shut time idle pongs queue =>
    have handed : ({ o with writer := .closing } : Outbox _).handed = o.handed := by
      simp [Outbox.handed, underway, idle]
    refine ⟨conveys.offers, conveys.pongs, conveys.queue, ?_, ?_, ?_, ?_, fun _ => ⟨pongs, queue⟩⟩
    · rw [handed]
      exact conveys.handed
    · rw [handed]
      exact conveys.count
    · rw [handed]
      exact fun _ => conveys.complete (by rw [idle]; rfl)
    · obtain ⟨order, inOrder, all, answered⟩ := conveys.order
      rw [handed]
      exact ⟨order, inOrder, fun _ => all (by rw [idle]; rfl), answered⟩
  | wrote time m since writing =>
    have handed :
        ({ o with writer := .idle, written := o.written ++ [(time, m)] } : Outbox _).handed =
          o.handed := by
      simp [Outbox.handed, underway, writing]
    refine conveys.move (by rw [writing]; rfl) rfl rfl
      (fun _ member => member) (fun _ member => member) ?_ ?_ ?_
    · rw [handed]
      intro m member
      exact List.mem_append_left _ (List.mem_append_left _ member)
    · rw [handed]
    · rw [handed]
  | broke a how m since writing broken =>
    refine conveys.lose ?_
    cases broken <;> rfl
  | closed a how closing => exact conveys.close closing how

end Outbox.Conveys

/-! Sessions. -/

variable {l : Log γ θ ρ} {s s' : Session α γ θ ρ} {terms : Terms θ} {a : Action γ θ ρ}

/-- What has been served stays so when more is read. -/
theorem served_grows (l : Log γ θ ρ) (s : Session α γ θ ρ) (a : Action γ θ ρ) :
    l.served <+: (l.note s a).served := by
  have grows : ∀ more, servedOf l.read <+: servedOf (l.read ++ more) := by
    intro more
    by_cases connected : l.IsConnected
    · rw [servedOf_append connected]
      exact List.prefix_append _ _
    · have none : servedOf l.read = [] := Log.served_eq_nil connected
      rw [none]
      exact List.nil_prefix
  unfold Log.served Log.note
  split
  all_goals first | exact grows _ | exact List.prefix_refl _

/-- A reply stays one. -/
theorem Log.Replies.note {r : Response ρ} {job : Nat} (reply : l.Replies r job) :
    (l.note s a).Replies r job := by
  obtain ⟨request, response, known, answered, same⟩ := reply
  refine ⟨request, response, ?_, ?_, same⟩
  · obtain ⟨rest, more⟩ := (served_grows l s a).filterMap Inbound.request?
    have inside := (List.getElem?_eq_some_iff.mp known).1
    change (List.filterMap Inbound.request? _)[job]? = _
    rw [← more]
    exact (List.getElem?_append_left inside).trans known
  · unfold Log.note
    split
    all_goals first | exact answered | exact List.mem_append_left _ answered

/-- The outbox holds and has handed over what the log says. -/
def Conveyed (l : Log γ θ ρ) (s : Session α γ θ ρ) : Prop :=
  s.outbox.Conveys l.Replies l.pings l.placed

theorem Conveyed.opened (settings : CallSettings) (openedAt : Nat)
    (arguments : ConnectArguments α) :
    Conveyed {} (Session.opened settings openedAt arguments : Session α γ θ ρ) :=
  Outbox.Conveys.opened _ _

theorem Tended.unshut_of_reading (tended : Tended s) {x : Inbound γ θ}
    {rest : List (Inbound γ θ)} (reading : Reading s x rest) :
    s.outbox.writer.isShutting = false := by
  by_contra shutting
  have closed := tended.shutting (by simpa using shutting)
  rw [reading.isOpen] at closed
  cases closed

/-- A job that has not ended keeps the writer from shutting down. -/
theorem Tended.working_of_live (tended : Tended s) {i : Nat} {t : Job θ}
    (job : s.jobs[i]? = some t) (lasts : t.hasEnded = false) :
    s.outbox.writer.isShutting = false := by
  by_contra shutting
  have closed := tended.shutting (by simpa using shutting)
  rw [tended.open_of_live job lasts] at closed
  cases closed

private theorem Conveyed.relog (conveyed : Conveyed l s) (pings : (l.note s a).pings = l.pings)
    (placed : (l.note s a).placed = l.placed) :
    s.outbox.Conveys (l.note s a).Replies (l.note s a).pings (l.note s a).placed := by
  rw [pings, placed]
  exact conveyed.mono fun _ _ reply => reply.note

theorem Conveyed.step (heard : Heard l s) (tended : Tended s) (conveyed : Conveyed l s)
    (effect : Effect terms s a s') : Conveyed (l.note s a) s' := by
  have heard' := heard.step effect
  have pings : s'.pings = s.pings → (l.note s a).pings = l.pings := by
    intro same
    rw [← heard'.pings, ← heard.pings, same]
  have more : s'.pings = s.pings + 1 → (l.note s a).pings = l.pings + 1 := by
    intro more
    rw [← heard'.pings, ← heard.pings, more]
  cases effect with
  | control control =>
    have same : s'.outbox = s.outbox ∧ s'.pings = s.pings := by
      cases control <;> exact ⟨rfl, rfl⟩
    rw [Conveyed, same.1]
    exact conveyed.relog (pings same.2) (by rw [control.note])
  | finish outcome ends => exact (conveyed.relog (pings rfl) (by rw [ends.note])).dropped
  | arrive | accept | ignore | hangUp => exact conveyed.relog (pings rfl) rfl
  | dismiss => exact (conveyed.relog (pings rfl) rfl).dropped
  | ping rest outbox reading taken =>
    obtain ⟨_, rfl⟩ := Outbox.step_pong.mp taken
    have answered := conveyed.pong (tended.unshut_of_reading reading)
    rw [Conveyed, more rfl]
    exact answered.mono fun _ _ reply => reply.note
  | pingRefused rest reading refused =>
    have lost : s.outbox.writer.isLost = true := by
      rcases Writer.lost_or_shutting (tended.refused reading.isOpen refused) with lost | shutting
      · exact lost
      · rw [tended.unshut_of_reading reading] at shutting
        cases shutting
    rw [Conveyed, more rfl]
    exact (conveyed.refused lost).mono fun _ _ reply => reply.note
  | dispatch request rest outbox reading retained =>
    obtain ⟨_, rfl⟩ := Outbox.step_retain.mp retained
    exact (conveyed.relog (pings rfl) rfl).less (fun _ member => member) rfl rfl rfl rfl
  | join | joinPanicked | ask | start => exact conveyed.relog (pings rfl) rfl
  | flush cause outbox flushes left =>
    obtain ⟨_, rfl⟩ := Outbox.run_owners_leave.mp left
    exact (conveyed.relog (pings rfl) (by rw [flushes.note])).less (fun _ member => member) rfl rfl
      rfl rfl
  | answer i t response outbox job running offered =>
    rw [← Outbox.step_offer offered]
    refine (conveyed.relog (pings rfl) rfl).offer ⟨t.request, response, ?_, ?_, rfl⟩
    · rw [← heard'.requests, List.getElem?_map, List.getElem?_set]
      simp [(List.getElem?_eq_some_iff.mp job).1]
    · exact List.mem_append_right _ (List.mem_singleton.mpr rfl)
  | place i t placed outbox job offering room left =>
    obtain ⟨lasts, m, found, rfl⟩ := Outbox.step_place.mp room
    obtain ⟨_, rfl⟩ := Outbox.run_sender_leaves.mp left
    have live : t.hasEnded = false := Job.hasEnded_of_stage offering
    have queued := conveyed.place lasts (tended.working_of_live job live) found
    rw [Conveyed, pings rfl]
    refine (queued.mono fun _ _ reply => reply.note).less ?_ rfl rfl rfl rfl
    intro e member
    exact List.mem_of_mem_filter member
  | endJob i t how outbox job ends left =>
    obtain ⟨_, rfl⟩ := Outbox.run_sender_leaves.mp left
    refine (conveyed.relog (pings rfl) (by rw [ends.note])).less ?_ rfl rfl rfl rfl
    intro e member
    exact List.mem_of_mem_filter member
  | sink b outbox sunk work =>
    exact (conveyed.relog (pings rfl) (by rw [sunk.note])).work work

end Session
end Dialback
