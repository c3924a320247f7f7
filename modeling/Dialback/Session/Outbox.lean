import Dialback.Fault

/-!
The outbound side of one session. A single writer owns the sink and is fed by two lanes: pongs,
without bound, and a bounded queue of other messages. A pong is always preferred. Senders of the
bounded lane hold handles; while there is no room, their messages wait in the order of arrival. When
both lanes are closed and empty the writer closes the sink.

The module covers every interleaving of senders and writer: an action happens when it is enabled,
and nothing here decides when.
-/
namespace Dialback.Session

/-- How the writer ended. -/
inductive WriterEnd where
  | closed (time : Nat)
  | writeFailed (fault : TransportFault)
  | closeFailed (fault : TransportFault)
  | crashed
  | dropped
  deriving DecidableEq, Repr

inductive Writer (μ : Type) where
  | idle
  | writing (m : μ) (since : Nat)
  | closing
  | ended (how : WriterEnd)
  deriving DecidableEq, Repr

namespace Writer

variable {μ : Type}

def ending? : Writer μ → Option WriterEnd
  | ended how => some how
  | _ => none

def hasEnded (w : Writer μ) : Bool :=
  w.ending?.isSome

/-- The sink refused a message or its closing; a crash or a drop goes unreported. -/
def reportsFailure : Writer μ → Bool
  | ended (.writeFailed _) | ended (.closeFailed _) => true
  | _ => false

end Writer

structure Outbox (μ : Type) where
  /-- Room of the bounded lane. The message that is being written takes none. -/
  capacity : Nat
  pongs : List μ := []
  queue : List μ := []
  /-- Messages without room yet, by sender. -/
  offers : List (Nat × μ) := []
  pongsOpen : Bool := true
  handles : Nat
  writer : Writer μ := .idle
  /-- What the sink has taken, with the time at which each write was complete. -/
  written : List (Nat × μ) := []
  deriving DecidableEq, Repr

namespace Outbox

variable {μ : Type}

def room (o : Outbox μ) : Nat :=
  o.capacity - o.queue.length

/-- The message of a sender that is among the first for which there is room. -/
def placeable? (o : Outbox μ) (sender : Nat) : Option μ :=
  (o.offers.take o.room).lookup sender

def withdraw (o : Outbox μ) (sender : Nat) : Outbox μ :=
  { o with offers := o.offers.filter fun e => e.1 != sender }

/-- Whatever was queued is lost with the writer. -/
def finish (o : Outbox μ) (how : WriterEnd) : Outbox μ :=
  { o with writer := .ended how, pongs := [], queue := [] }

inductive Action (μ : Type) where
  | pong (m : μ)
  | closePongs
  | retain
  | release
  | offer (sender : Nat) (m : μ)
  | place (sender : Nat)
  | withdraw (sender : Nat)
  | pick (time : Nat)
  | wrote (time : Nat)
  | writeFailed (fault : TransportFault)
  | crashed
  | closed (time : Nat)
  | closeFailed (fault : TransportFault)
  | drop
  deriving DecidableEq, Repr

/-- The next thing for an idle writer to do. Nothing is left to do, for now, if the lanes are empty
and not closed. -/
def picked? (o : Outbox μ) (time : Nat) : Option (Outbox μ) :=
  match o.pongs, o.queue with
  | m :: rest, _ => some { o with pongs := rest, writer := .writing m time }
  | [], m :: rest => some { o with queue := rest, writer := .writing m time }
  | [], [] => if !o.pongsOpen && o.handles == 0 then some { o with writer := .closing } else none

/-- `none` if the action is not enabled; for a pong this means that it was refused. -/
def step (o : Outbox μ) : Action μ → Option (Outbox μ)
  | .pong m =>
    if o.pongsOpen && !o.writer.hasEnded then some { o with pongs := o.pongs ++ [m] } else none
  | .closePongs => if o.pongsOpen then some { o with pongsOpen := false } else none
  | .retain => if 0 < o.handles then some { o with handles := o.handles + 1 } else none
  | .release => if 0 < o.handles then some { o with handles := o.handles - 1 } else none
  | .offer sender m =>
    if 0 < o.handles && !o.offers.any (·.1 == sender) then
      some { o with offers := o.offers ++ [(sender, m)] }
    else none
  | .place sender =>
    if o.writer.hasEnded then none
    else (o.placeable? sender).map fun m => { o.withdraw sender with queue := o.queue ++ [m] }
  | .withdraw sender => some (o.withdraw sender)
  | .pick time =>
    match o.writer with
    | .idle => o.picked? time
    | _ => none
  | .wrote time =>
    match o.writer with
    | .writing m _ => some { o with writer := .idle, written := o.written ++ [(time, m)] }
    | _ => none
  | .writeFailed fault =>
    match o.writer with
    | .writing _ _ => some (o.finish (.writeFailed fault))
    | _ => none
  | .crashed =>
    match o.writer with
    | .writing _ _ => some (o.finish .crashed)
    | _ => none
  | .closed time =>
    match o.writer with
    | .closing => some (o.finish (.closed time))
    | _ => none
  | .closeFailed fault =>
    match o.writer with
    | .closing => some (o.finish (.closeFailed fault))
    | _ => none
  | .drop => if o.writer.hasEnded then none else some (o.finish .dropped)

/-- One action after another, as long as they are enabled. -/
def run (o : Outbox μ) (actions : List (Action μ)) : Option (Outbox μ) :=
  actions.foldlM step o

end Outbox
end Dialback.Session
