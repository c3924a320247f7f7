import Dialback.Session.Step

/-!
Scripted surroundings: what the remote end sends and when, how long handlers and writes take, when
the signals fire. A script makes one run out of the many that are possible: whatever is due happens
first, then the session makes its moves, and only then time passes, to the next thing that is due.
Jobs and the writer move before the serving loop does, but once it has its turn the loop goes on
until it has to wait. So aborting has reached every job before any of them moves again.
-/
namespace Dialback.Session

/-- What a handler does with one request. -/
inductive Conduct where
  | reply (ms : Nat)
  | panic (ms : Nat)
  /-- Waits for the stop signal, then takes some time. -/
  | untilStop (ms : Nat)
  | hang
  deriving DecidableEq, Repr

/-- Writes are numbered, the arguments being number zero. -/
structure Sink where
  writeMs : Nat := 0
  failAt : Option Nat := none
  /-- Without a fault the failing write crashes the writer. -/
  failure : Option TransportFault := none
  closeFault : Option TransportFault := none
  deriving DecidableEq, Repr

structure Script (γ θ ρ : Type) where
  arrivals : List (Nat × Inbound γ θ) := []
  stopAt : Option Nat := none
  cancelAt : Option Nat := none
  /-- The stop signal fires as soon as the connect response is accepted. -/
  stopOnAccept : Bool := false
  sink : Sink := {}
  conduct : Request θ → Conduct
  /-- The response to a request; handlers that waited for the stop signal say so. -/
  respond : Request θ → Bool → Response ρ

namespace Script

variable {α γ θ ρ : Type}

/-- Times since the connection was opened become times of the clock. -/
def startingAt (x : Script γ θ ρ) (opened : Nat) : Script γ θ ρ :=
  { x with arrivals := x.arrivals.map fun (time, inbound) => (opened + time, inbound) }

def signals (x : Script γ θ ρ) (s : Session α γ θ ρ) : List (Nat × Event γ θ ρ) :=
  let onAccept := if x.stopOnAccept then s.welcome.map Prod.fst else none
  let stops := if s.stop.isSome then [] else x.stopAt.toList ++ onAccept.toList
  let cancels := if s.cancel.isSome then [] else x.cancelAt.toList
  stops.map (·, .stop) ++ cancels.map (·, .cancel)

def answerOf (x : Script γ θ ρ) (s : Session α γ θ ρ) (i : Nat) (job : Job θ) :
    Option (Nat × Event γ θ ρ) := do
  guard (job.stage = .running)
  let started ← job.started
  match x.conduct job.request with
  | .reply ms => return (started + ms, .answer i (x.respond job.request false))
  | .panic ms => return (started + ms, .panic i)
  | .untilStop ms =>
    let stopped ← s.stop
    return (max started stopped + ms, .answer i (x.respond job.request true))
  | .hang => none

def answers (x : Script γ θ ρ) (s : Session α γ θ ρ) : List (Nat × Event γ θ ρ) :=
  if s.phase.isAborting then []
  else (List.range s.jobs.length).filterMap fun i => s.jobs[i]?.bind (x.answerOf s i)

def outbound (x : Script γ θ ρ) (s : Session α γ θ ρ) : List (Nat × Event γ θ ρ) :=
  match s.phase, s.outbox.writer with
  | .introducing, _ =>
    let event :=
      match x.sink.failAt, x.sink.failure with
      | some 0, some fault => .introductionFailed fault
      | some 0, none => .introductionFailed .closed
      | _, _ => .introduced
    [(s.openedAt + x.sink.writeMs, event)]
  | _, .writing _ since =>
    let event :=
      if x.sink.failAt = some (s.outbox.written.length + 1) then
        x.sink.failure.elim .writerCrashed .writeFailed
      else .wrote
    [(since + x.sink.writeMs, event)]
  | _, .closing => [(s.now, x.sink.closeFault.elim .closed .closeFailed)]
  | _, _ => []

/-- What will happen next, as far as it is known, and when. -/
def agenda (x : Script γ θ ρ) (s : Session α γ θ ρ) : List (Nat × Event γ θ ρ) :=
  let serve :=
    match s.phase with
    | .accepted _ => [(s.now, .serve)]
    | _ => []
  x.signals s ++ (x.arrivals.head?.map fun (time, inbound) => (time, .arrive inbound)).toList ++
    x.answers s ++ x.outbound s ++ serve

def earliest : List Nat → Option Nat
  | [] => none
  | t :: rest =>
    match earliest rest with
    | none => some t
    | some u => some (min t u)

/-- The next action of the run; `turn` says that the loop has its turn. A session that is over does
nothing any more. -/
def next? (x : Script γ θ ρ) (s : Session α γ θ ρ) (terms : Terms θ) (turn : Bool) :
    Option (Action γ θ ρ) :=
  if s.isOver then none
  else
    let agenda := x.agenda s
    match agenda.find? (·.1 ≤ s.now) with
    | some (_, event) => some (.event event)
    | none =>
      let others := s.jobMoves ++ [.pick]
      let moves := if turn || s.phase.isAborting then s.loopMoves ++ others else others ++ s.loopMoves
      match moves.find? fun m => (s.advance terms m).isSome with
      | some m => some (.move m)
      | none =>
        (earliest (agenda.map Prod.fst ++ s.phase.limit?.toList)).map fun time =>
          .event (.elapse time)

/-- What is left of the script after an action. -/
def after (x : Script γ θ ρ) : Action γ θ ρ → Script γ θ ρ
  | .event (.arrive _) => { x with arrivals := x.arrivals.tail }
  | _ => x

/-- More actions than a run of this script can have. -/
def fuel (x : Script γ θ ρ) : Nat :=
  32 * (x.arrivals.length + 8)

/-- The run of a script, up to its end. -/
def play (terms : Terms θ) : Nat → Script γ θ ρ → Bool → Session α γ θ ρ → Session α γ θ ρ
  | 0, _, _, s => s
  | n + 1, x, turn, s =>
    match x.next? s terms turn with
    | none => s
    | some action =>
      match s.actPromptly terms action with
      | none => s
      | some s => play terms n (x.after action) action.byLoop s

def perform (x : Script γ θ ρ) (s : Session α γ θ ρ) (terms : Terms θ) : Session α γ θ ρ :=
  play terms x.fuel x false s

end Script
end Dialback.Session
