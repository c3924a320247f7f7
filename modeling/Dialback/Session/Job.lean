import Dialback.Envelope

/-!
One dispatched request. Its job waits for the job before it in the same partition, then in line
for a permit, then for the handler's response, then for room in the outbox.
-/
namespace Dialback.Session

/-- How a job ended. -/
inductive JobEnd where
  | queued
  | refused
  | panicked
  | aborted
  deriving DecidableEq, Repr

inductive Stage where
  | waiting
  | inLine
  | running
  | offering
  | ended (how : JobEnd)
  deriving DecidableEq, Repr

namespace Stage

def isEnded : Stage → Bool
  | ended _ => true
  | _ => false

/-- A permit is held from the start of the handler until its response is in the outbox. -/
def holdsPermit : Stage → Bool
  | running | offering => true
  | _ => false

end Stage

structure Job (θ : Type) where
  request : Request θ
  partition : PartitionKey
  /-- The job before this one in the same partition. -/
  behind : Option Nat
  stage : Stage := .waiting
  /-- Its end has been noticed. -/
  joined : Bool := false
  /-- When the handler was invoked. -/
  started : Option Nat := none
  /-- When the handler returned. -/
  answered : Option Nat := none
  deriving DecidableEq, Repr

namespace Job

variable {θ : Type}

def hasEnded (t : Job θ) : Bool :=
  t.stage.isEnded

def unnoticed (t : Job θ) : Bool :=
  t.hasEnded && !t.joined

def withStage (t : Job θ) (stage : Stage) : Job θ :=
  { t with stage }

end Job
end Dialback.Session
