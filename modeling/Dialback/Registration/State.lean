import Dialback.Handshake.Client
import Dialback.Session.State
import Dialback.Uuid.Source

/-!
A processor's registration: one attempt after another, each with a connection of its own, until the
stop signal fires, the runtime closes a stream cleanly, or the retry policy gives up. Nothing carries
over from one attempt to the next but the processor's identity and the history of failures.
-/
namespace Dialback

namespace Registration

/-- What the caller decides before registering. -/
structure Plan (α θ : Type) where
  processor : ProcessorId
  execution : ExecutionContext
  terms : Session.Terms θ
  handshake : Option Handshake.Client := none
  policy : Retry.Policy
  /-- The arguments of the attempt with this number, counted from one. -/
  arguments : ProcessorId → Nat → ConnectArguments α

inductive Ending where
  | stopped (attempts : UInt32)
  | completed (attempts : UInt32)
  | gaveUp (fault : GaveUp)
  deriving DecidableEq, Repr

/-- One question to the retry policy. -/
structure Consultation where
  time : Nat
  history : Retry.History
  decision : Option Duration
  deriving DecidableEq, Repr

/-- One connection that was asked for, with its session if it was opened. -/
structure Connection (α γ θ ρ : Type) where
  time : Nat
  session : Option (Session α γ θ ρ) := none

inductive Phase (α γ θ ρ : Type) where
  /-- Between two attempts. -/
  | ready
  | greeting (arguments : ConnectArguments α) (since limit : Nat)
  | dialing (arguments : ConnectArguments α) (since : Nat)
  | talking (since : Nat) (session : Session α γ θ ρ)
  | resting (wake : Nat)
  | ended (ending : Ending) (time : Nat)

end Registration

open Registration in
structure Registration (α γ θ ρ : Type) where
  now : Nat := 0
  started : Nat := 0
  phase : Phase α γ θ ρ := .ready
  /-- When the stop signal fired. -/
  stop : Option Nat := none
  attempts : UInt32 := 0
  history : Retry.History := .empty
  identifiers : Uuid.Source
  /-- How often arguments were built. -/
  built : Nat := 0
  greetings : List (Nat × Handshake.Request) := []
  connections : List (Connection α γ θ ρ) := []
  /-- Accepted connect responses, with the time and the attempt. -/
  welcomes : List (Nat × UInt32 × γ) := []
  consultations : List Consultation := []

namespace Registration

variable {α γ θ ρ : Type}

def isOver (r : Registration α γ θ ρ) : Bool :=
  match r.phase with
  | .ended _ _ => true
  | _ => false

def ending? (r : Registration α γ θ ρ) : Option (Ending × Nat) :=
  match r.phase with
  | .ended ending time => some (ending, time)
  | _ => none

/-- The time at which the phase ends by itself. -/
def limit? (r : Registration α γ θ ρ) : Option Nat :=
  match r.phase with
  | .greeting _ _ limit => some limit
  | .resting wake => some wake
  | _ => none

def timeSpent (r : Registration α γ θ ρ) : Duration :=
  .ofTicks (r.now - r.started)

end Registration
end Dialback
