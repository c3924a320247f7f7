import Dialback.Session.Lanes
import Dialback.Session.Outbox
import Dialback.Session.Permits
import Dialback.Session.Job
import Dialback.Settings

/-!
One connection to the runtime, from its connect arguments to its outcome. Times are milliseconds on
a clock that the session shares with its surroundings.
-/
namespace Dialback

namespace Session

/-- What is settled before the session opens. -/
structure Terms (θ : Type) where
  settings : CallSettings
  partitionOf : Request θ → PartitionKey
  laneLimit : Option Nat := some Lanes.standardLimit
  /-- What the clock of the machine shows at time zero, in whole milliseconds. -/
  epoch : Nat := 0

/-- What the inbound direction yields, in order. -/
inductive Inbound (γ θ : Type) where
  | message (m : ServerMessage γ θ)
  | unclassified
  | fault (fault : TransportFault)
  | eof
  deriving DecidableEq, Repr

inductive Outcome where
  | completed
  | cancelled
  | failed (fault : CallFault)
  deriving DecidableEq, Repr

def Outcome.fault? : Outcome → Option CallFault
  | failed fault => some fault
  | _ => none

/-- Why servicing came to an end. -/
inductive Cause where
  | stopped
  | closed
  | writerEnded
  | fault (fault : CallFault)
  deriving DecidableEq, Repr

/-- After a graceful end running handlers may finish. -/
def Cause.isGraceful : Cause → Bool
  | stopped | closed => true
  | _ => false

inductive Phase (γ : Type) where
  /-- The connect arguments are being written. -/
  | introducing
  /-- Waiting for the connect response. -/
  | connecting (limit : Nat)
  /-- Connected; the caller has not begun to serve. -/
  | accepted (payload : γ)
  | servicing (limit : Nat)
  | draining (cause : Cause) (limit : Nat)
  | aborting (cause : Cause)
  /-- Queued messages are written and the outbound side is closed. -/
  | flushing (cause : Cause)
  | ended (outcome : Outcome) (time : Nat)
  /-- Servicing has panicked: its queue or its semaphore is too large, or its silence limit lies
  beyond what durations or the clock can express. -/
  | unserviceable
  deriving DecidableEq, Repr

/-- The time at which the phase ends by itself. -/
def Phase.limit? {γ : Type} : Phase γ → Option Nat
  | connecting limit | servicing limit | draining _ limit => some limit
  | _ => none

def Phase.isOver {γ : Type} : Phase γ → Bool
  | ended _ _ | unserviceable => true
  | _ => false

/-- Jobs that are in flight are torn down. -/
def Phase.isAborting {γ : Type} : Phase γ → Bool
  | aborting _ | unserviceable => true
  | _ => false

end Session

open Session in
structure Session (α γ θ ρ : Type) where
  openedAt : Nat
  now : Nat := openedAt
  arguments : ConnectArguments α
  phase : Phase γ := .introducing
  /-- When the stop signal fired. -/
  stop : Option Nat := none
  /-- When connecting was cancelled. -/
  cancel : Option Nat := none
  /-- What has arrived and has not been read. -/
  inbox : List (Inbound γ θ) := []
  /-- When the arguments were written. -/
  introduced : Option Nat := none
  /-- The response that was accepted, and when. -/
  welcome : Option (Nat × γ) := none
  pings : Nat := 0
  /-- One job per request that has been read, in that order. -/
  jobs : List (Job θ) := []
  lanes : Lanes := .empty
  permits : Permits
  outbox : Outbox (ClientMessage α ρ)

namespace Session

variable {α γ θ ρ : Type}

/-- The serving loop and the dispatcher hold one handle each. -/
def ownHandles : Nat := 2

/-- The arguments get a context of their own on top of whatever they had: the client's execution
context under a fresh correlation, a fresh head and the ping interval. -/
def introduce (settings : CallSettings) (execution : ExecutionContext) (head : HeadId)
    (correlation : CorrelationId) (arguments : ConnectArguments α) : ConnectArguments α :=
  arguments.withContext
    { head, pingInterval := settings.pingInterval,
      execution := execution.withCorrelation correlation }

def opened (settings : CallSettings) (openedAt : Nat) (arguments : ConnectArguments α) :
    Session α γ θ ρ where
  openedAt
  arguments
  permits := .ofCount settings.permits
  outbox := { capacity := settings.buffer, handles := ownHandles }

/-- Everything that has been written, in order. -/
def wire (s : Session α γ θ ρ) : List (Nat × ClientMessage α ρ) :=
  (s.introduced.map fun time => (time, ClientMessage.arguments s.arguments)).toList ++
    s.outbox.written

/-- When the outbound direction was closed cleanly. -/
def closedAt? (s : Session α γ θ ρ) : Option Nat :=
  match s.outbox.writer.ending? with
  | some (.closed time) => some time
  | _ => none

def isOver (s : Session α γ θ ρ) : Bool :=
  s.phase.isOver

def outcome? (s : Session α γ θ ρ) : Option (Outcome × Nat) :=
  match s.phase with
  | .ended outcome time => some (outcome, time)
  | _ => none

def hasUnnoticed (s : Session α γ θ ρ) : Bool :=
  s.jobs.any Job.unnoticed

def allJoined (s : Session α γ θ ρ) : Bool :=
  s.jobs.all Job.joined

/-- A job that was never dispatched counts as finished. -/
def finished (s : Session α γ θ ρ) (job : Nat) : Bool :=
  match s.jobs[job]? with
  | some t => t.hasEnded
  | none => true

def setJob (s : Session α γ θ ρ) (i : Nat) (t : Job θ) : Session α γ θ ρ :=
  { s with jobs := s.jobs.set i t }

end Session
end Dialback
