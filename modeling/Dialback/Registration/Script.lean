import Dialback.Registration.Step
import Dialback.Session.Script

/-!
Scripted surroundings of a registration: how each handshake is answered, how each connection opens
and what its remote end does. The last entry of either list stands for all that follow.
-/
namespace Dialback.Registration

/-- How one connection opens. -/
inductive Dial (γ θ ρ : Type) where
  | fails (after : Nat) (fault : TransportFault)
  | opens (after : Nat) (script : Session.Script γ θ ρ)

structure Script (γ θ ρ : Type) where
  exchanges : List Handshake.Exchange := []
  dials : List (Dial γ θ ρ) := []
  stopAt : Option Nat := none
  /-- The observer fires the stop signal when it is told of this attempt. -/
  stopOnConnect : Option UInt32 := none

/-- Where a scripted run stands: what is left for the open session, and whether its loop has its
turn. -/
structure Scene (γ θ ρ : Type) where
  session : Option (Session.Script γ θ ρ) := none
  turn : Bool := false

namespace Script

variable {α γ θ ρ : Type}

/-- The entry at an index, or else the last one. -/
def entry? {β : Type} (entries : List β) (i : Nat) : Option β :=
  entries[i]? <|> entries.getLast?

def dial? (x : Script γ θ ρ) (r : Registration α γ θ ρ) : Option (Dial γ θ ρ) :=
  entry? x.dials r.connections.length

def signals (x : Script γ θ ρ) (r : Registration α γ θ ρ) : List (Nat × Event γ θ ρ) :=
  let onConnect := r.welcomes.filterMap fun (time, attempt, _) =>
    if x.stopOnConnect = some attempt then some time else none
  if r.stop.isSome then [] else (x.stopAt.toList ++ onConnect).map (·, .stop)

def pending (x : Script γ θ ρ) (r : Registration α γ θ ρ) : List (Nat × Event γ θ ρ) :=
  match r.phase with
  | .greeting _ since _ =>
    match entry? x.exchanges (r.greetings.length - 1) with
    | some ⟨after, some answer⟩ => [(since + after, .greeted answer)]
    | _ => []
  | .dialing _ since =>
    match x.dial? r with
    | some (.fails after fault) => [(since + after, .openingFailed fault)]
    | some (.opens after _) => [(since + after, .opened)]
    | none => []
  | _ => []

def sessionNext? (scene : Scene γ θ ρ) (r : Registration α γ θ ρ) (plan : Plan α θ) :
    Option (Session.Action γ θ ρ) :=
  match r.phase, scene.session with
  | .talking _ s, some script => script.next? s plan.terms scene.turn
  | _, _ => none

/-- The next action of the run. -/
def next? (x : Script γ θ ρ) (scene : Scene γ θ ρ) (r : Registration α γ θ ρ)
    (plan : Plan α θ) : Option (Action γ θ ρ) :=
  if r.isOver then none
  else
    let agenda := x.signals r ++ x.pending r
    match agenda.find? (·.1 ≤ r.now) with
    | some (_, event) => some (.event event)
    | none =>
      match ownMoves.find? fun m => (r.advance plan m).isSome with
      | some m => some (.move m)
      | none =>
        let wait (times : List Nat) : Option (Action γ θ ρ) :=
          (Session.Script.earliest (agenda.map Prod.fst ++ r.limit?.toList ++ times)).map fun time =>
            .event (.elapse time)
        match sessionNext? scene r plan with
        | some (.move m) => some (.move (.session m))
        | some (.event (.elapse time)) => wait [time]
        | some (.event e) => some (.event (.session e))
        | none => wait []

/-- The scene after an action that was made in `r`. -/
def after (x : Script γ θ ρ) (scene : Scene γ θ ρ) (r : Registration α γ θ ρ) :
    Action γ θ ρ → Scene γ θ ρ
  | .event .opened =>
    match x.dial? r with
    | some (.opens _ script) => { session := some (script.startingAt r.now) }
    | _ => {}
  | .event (.session e) =>
    { scene with session := scene.session.map (·.after (.event e)), turn := false }
  | .move (.session m) => { scene with turn := m.byLoop }
  | .move .welcome => { scene with turn := true }
  | _ => { scene with turn := false }

/-- The run of a script, of so many actions at most. -/
def play (x : Script γ θ ρ) (plan : Plan α θ) :
    Nat → Scene γ θ ρ → Registration α γ θ ρ → Registration α γ θ ρ
  | 0, _, r => r
  | n + 1, scene, r =>
    match x.next? scene r plan with
    | none => r
    | some action =>
      match r.actPromptly plan action with
      | none => r
      | some r' => play x plan n (x.after scene r action) r'

end Script
end Dialback.Registration
