import Dialback.Session.Outbox
import Mathlib.Data.List.Basic

/-!
What each action does to an outbox, one statement per action. The messages that the sink has been
handed are those it has taken and the one whose write is under way, which may or may not have
reached the wire when the writer goes.
-/
namespace Dialback.Session

/-- The writer is gone without having written everything. -/
def Writer.isLost {μ : Type} : Writer μ → Bool
  | ended (.writeFailed _) | ended .crashed | ended .dropped => true
  | _ => false

/-- The writer has found both lanes closed and empty. -/
def Writer.isShutting {μ : Type} : Writer μ → Bool
  | closing | ended (.closed _) | ended (.closeFailed _) => true
  | _ => false

theorem Writer.lost_or_shutting {μ : Type} {w : Writer μ} (gone : w.hasEnded = true) :
    w.isLost = true ∨ w.isShutting = true := by
  rcases w with _ | _ | _ | how
  · cases gone
  · cases gone
  · cases gone
  · cases how <;> simp [isLost, isShutting]

namespace Outbox

variable {μ : Type} {o o' : Outbox μ}

/-- The message whose write is under way. -/
def underway (o : Outbox μ) : List μ :=
  match o.writer with
  | .writing m _ => [m]
  | _ => []

/-- Whatever the sink has been handed, in order. -/
def handed (o : Outbox μ) : List μ :=
  o.written.map Prod.snd ++ o.underway

theorem underway_of_hasEnded (gone : o.writer.hasEnded = true) : o.underway = [] := by
  unfold underway
  cases writer : o.writer with
  | ended how => rfl
  | idle => rfl
  | closing => rfl
  | writing m since => simp [writer, Writer.hasEnded, Writer.ending?] at gone

/-! Senders and owners. -/

theorem step_pong {m : μ} : o.step (.pong m) = some o' ↔
    (o.pongsOpen = true ∧ o.writer.hasEnded = false) ∧ { o with pongs := o.pongs ++ [m] } = o' := by
  simp [step]

theorem step_pong_refused {m : μ} (refused : o.step (.pong m) = none) :
    o.pongsOpen = false ∨ o.writer.hasEnded = true := by
  cases isOpen : o.pongsOpen <;> simp_all [step]

theorem step_retain : o.step .retain = some o' ↔
    0 < o.handles ∧ { o with handles := o.handles + 1 } = o' := by
  simp [step]

theorem step_offer {sender : Nat} {m : μ} (taken : o.step (.offer sender m) = some o') :
    { o with offers := o.offers ++ [(sender, m)] } = o' := by
  simp only [step] at taken
  split at taken
  · exact Option.some.inj taken
  · cases taken

theorem step_place {sender : Nat} : o.step (.place sender) = some o' ↔
    o.writer.hasEnded = false ∧ ∃ m, o.placeable? sender = some m ∧
      { o.withdraw sender with queue := o.queue ++ [m] } = o' := by
  cases gone : o.writer.hasEnded <;> simp [step, gone]

/-- A message that may be placed is one of its sender's. -/
theorem placeable_offered {sender : Nat} {m : μ} (found : o.placeable? sender = some m) :
    (sender, m) ∈ o.offers := by
  obtain ⟨before, after, split, _⟩ := List.lookup_eq_some_iff.mp found
  have member : (sender, m) ∈ o.offers.take o.room := by
    rw [split]
    simp
  exact List.mem_of_mem_take member

theorem run_sender_leaves {sender : Nat} : o.run [.withdraw sender, .release] = some o' ↔
    0 < o.handles ∧ { o.withdraw sender with handles := o.handles - 1 } = o' := by
  simp [run, step, withdraw]

theorem run_owners_leave : o.run [.closePongs, .release, .release] = some o' ↔
    (o.pongsOpen = true ∧ 2 ≤ o.handles) ∧
      { o with pongsOpen := false, handles := o.handles - 2 } = o' := by
  cases isOpen : o.pongsOpen with
  | false => simp [run, step, isOpen]
  | true =>
    match held : o.handles with
    | 0 => simp [run, step, isOpen, held]
    | 1 => simp [run, step, isOpen, held]
    | n + 2 => simp [run, step, isOpen, held]

/-- What is left when the writer is dropped. -/
def dropped (o : Outbox μ) : Outbox μ :=
  if o.writer.hasEnded then o else o.finish .dropped

theorem step_drop_getD : (o.step .drop).getD o = o.dropped := by
  cases gone : o.writer.hasEnded <;> simp [step, dropped, gone]

theorem dropped_hasEnded : o.dropped.writer.hasEnded = true := by
  unfold dropped
  split
  · assumption
  · rfl

/-! The writer. -/

def Action.byWriter : Action μ → Bool
  | pick _ | wrote _ | writeFailed _ | crashed | closed _ | closeFailed _ => true
  | _ => false

/-- How a write that does not succeed ends the writer. -/
inductive Breaks : Action μ → WriterEnd → Prop
  | writeFailed (fault : TransportFault) : Breaks (.writeFailed fault) (.writeFailed fault)
  | crashed : Breaks .crashed .crashed

/-- How closing the sink ends the writer. -/
inductive Closes : Action μ → WriterEnd → Prop
  | closed (time : Nat) : Closes (.closed time) (.closed time)
  | closeFailed (fault : TransportFault) : Closes (.closeFailed fault) (.closeFailed fault)

/-- What the writer does: it picks, writes and closes. -/
inductive Work (o : Outbox μ) : Action μ → Outbox μ → Prop
  | pickPong (time : Nat) (m : μ) (rest : List μ) (idle : o.writer = .idle)
      (pongs : o.pongs = m :: rest) :
      Work o (.pick time) { o with pongs := rest, writer := .writing m time }
  | pickMessage (time : Nat) (m : μ) (rest : List μ) (idle : o.writer = .idle)
      (pongs : o.pongs = []) (queue : o.queue = m :: rest) :
      Work o (.pick time) { o with queue := rest, writer := .writing m time }
  | shut (time : Nat) (idle : o.writer = .idle) (pongs : o.pongs = []) (queue : o.queue = [])
      (closed : o.pongsOpen = false) (unheld : o.handles = 0) :
      Work o (.pick time) { o with writer := .closing }
  | wrote (time : Nat) (m : μ) (since : Nat) (writing : o.writer = .writing m since) :
      Work o (.wrote time) { o with writer := .idle, written := o.written ++ [(time, m)] }
  | broke (a : Action μ) (how : WriterEnd) (m : μ) (since : Nat)
      (writing : o.writer = .writing m since) (broken : Breaks a how) : Work o a (o.finish how)
  | closed (a : Action μ) (how : WriterEnd) (closing : o.writer = .closing)
      (closed : Closes a how) : Work o a (o.finish how)

theorem Work.of_step {a : Action μ} (writers : a.byWriter = true) (stepped : o.step a = some o') :
    Work o a o' := by
  cases a with
  | pick time =>
    simp only [step] at stepped
    split at stepped
    case h_1 idle =>
      unfold picked? at stepped
      split at stepped
      case h_1 m rest pongs =>
        cases stepped
        exact .pickPong time m rest idle pongs
      case h_2 m rest pongs queue =>
        cases stepped
        exact .pickMessage time m rest idle pongs queue
      case h_3 pongs queue =>
        split at stepped
        case isTrue finished =>
          cases stepped
          simp only [Bool.and_eq_true, Bool.not_eq_true', beq_iff_eq] at finished
          exact .shut time idle pongs queue finished.1 finished.2
        case isFalse => cases stepped
    case h_2 => cases stepped
  | wrote time =>
    simp only [step] at stepped
    split at stepped
    case h_1 m since writing =>
      cases stepped
      exact .wrote time m since writing
    case h_2 => cases stepped
  | writeFailed fault =>
    simp only [step] at stepped
    split at stepped
    case h_1 m since writing =>
      cases stepped
      exact .broke _ _ m since writing (.writeFailed fault)
    case h_2 => cases stepped
  | crashed =>
    simp only [step] at stepped
    split at stepped
    case h_1 m since writing =>
      cases stepped
      exact .broke _ _ m since writing .crashed
    case h_2 => cases stepped
  | closed time =>
    simp only [step] at stepped
    split at stepped
    case h_1 closing =>
      cases stepped
      exact .closed _ _ closing (.closed time)
    case h_2 => cases stepped
  | closeFailed fault =>
    simp only [step] at stepped
    split at stepped
    case h_1 closing =>
      cases stepped
      exact .closed _ _ closing (.closeFailed fault)
    case h_2 => cases stepped
  | pong m => cases writers
  | closePongs => cases writers
  | retain => cases writers
  | release => cases writers
  | offer sender m => cases writers
  | place sender => cases writers
  | withdraw sender => cases writers
  | drop => cases writers

end Outbox
end Dialback.Session
