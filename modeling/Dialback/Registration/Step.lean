import Dialback.Registration.State
import Dialback.Session.Step

/-!
What can happen to a registration, in the same manner as for a session: moves take no time, events
come from the surroundings, and no more than one session exists at a time. The stop signal is looked
at between attempts, while a handshake or an opening is pending and while the registration rests; a
session looks at it by itself. Stopping is not a failure.
-/
namespace Dialback.Registration

variable {α γ θ ρ : Type}

inductive Event (γ θ ρ : Type) where
  | stop
  | greeted (answer : Except TransportFault Handshake.Response)
  | opened
  | openingFailed (fault : TransportFault)
  /-- Something happens to the session. -/
  | session (e : Session.Event γ θ ρ)
  | elapse (time : Nat)

inductive Move where
  | start
  | heedStop
  | giveUpGreeting
  /-- The observer is told of an accepted connect response and the session is served. -/
  | welcome
  | session (m : Session.Move)
  | conclude
  | wake
  deriving DecidableEq, Repr

def finish (r : Registration α γ θ ρ) (ending : Ending) : Registration α γ θ ρ :=
  { r with phase := .ended ending r.now }

def halt (r : Registration α γ θ ρ) : Registration α γ θ ρ :=
  r.finish (.stopped r.attempts)

/-- The failure is recorded, and the policy decides whether the registration rests or gives up. -/
def failAttempt (r : Registration α γ θ ρ) (plan : Plan α θ) (fault : AttemptFault)
    (connected : Bool) : Registration α γ θ ρ :=
  let history := if connected then r.history.markConnected else r.history
  let history := history.record fault
  let decision := plan.policy history
  let r := { r with
    history
    consultations := r.consultations ++ [Consultation.mk r.now history decision] }
  match decision with
  | none => r.finish (.gaveUp ⟨r.attempts, fault⟩)
  | some delay => { r with phase := .resting (r.now + delay.ticks) }

def startAttempt (r : Registration α γ θ ρ) (plan : Plan α θ) : Registration α γ θ ρ :=
  let r := { r with attempts := r.attempts + 1, built := r.built + 1 }
  let arguments := plan.arguments plan.processor r.built
  match plan.handshake with
  | some client =>
    { r with
      greetings := r.greetings ++ [(r.now, client.request r.attempts r.timeSpent)]
      phase := .greeting arguments r.now (r.now + client.patienceMs.toNat) }
  | none => { r with phase := .dialing arguments r.now }

/-- A handshake that succeeds opens the way to a connection. -/
def onGreeted (r : Registration α γ θ ρ) (plan : Plan α θ) (arguments : ConnectArguments α) :
    Except HandshakeFault Handshake.Result → Registration α γ θ ρ
  | .ok _ => { r with phase := .dialing arguments r.now }
  | .error fault => r.failAttempt plan (.handshake fault) false

def noteConnection (r : Registration α γ θ ρ) (c : Connection α γ θ ρ) : Registration α γ θ ρ :=
  { r with connections := r.connections ++ [c] }

def openSession (r : Registration α γ θ ρ) (plan : Plan α θ) (arguments : ConnectArguments α)
    (since : Nat) : Registration α γ θ ρ :=
  let (head, identifiers) := r.identifiers.next
  let (correlation, identifiers) := identifiers.next
  let settings := plan.terms.settings
  let arguments := Session.introduce settings plan.execution head correlation arguments
  { r with identifiers, phase := .talking since (.opened settings r.now arguments) }

def onOutcome (r : Registration α γ θ ρ) (plan : Plan α θ) (connected : Bool) :
    Session.Outcome → Registration α γ θ ρ
  | .completed => r.finish (.completed r.attempts)
  | .cancelled => r.halt
  | .failed fault => r.failAttempt plan (.call fault) connected

/-- What the registration does by itself. -/
def advance (r : Registration α γ θ ρ) (plan : Plan α θ) :
    Move → Option (Registration α γ θ ρ)
  | .start =>
    match r.phase with
    | .ready => if r.stop.isSome then some r.halt else some (r.startAttempt plan)
    | _ => none
  | .heedStop =>
    if r.stop.isNone then none
    else
      match r.phase with
      | .greeting _ _ _ | .resting _ => some r.halt
      | .dialing _ since => some (r.noteConnection ⟨since, none⟩).halt
      | _ => none
  | .giveUpGreeting =>
    match r.phase, plan.handshake with
    | .greeting arguments _ limit, some client =>
      if r.stop.isNone && decide (limit ≤ r.now) then
        some (r.onGreeted plan arguments (.error (.timeout client.patience)))
      else none
    | _, _ => none
  | .welcome =>
    match r.phase with
    | .talking since s =>
      match s.phase with
      | .accepted payload =>
        (s.receive plan.terms .serve).map fun s => { r with
          phase := .talking since s
          welcomes := r.welcomes ++ [(r.now, r.attempts, payload)] }
      | _ => none
    | _ => none
  | .session m =>
    match r.phase with
    | .talking since s => (s.advance plan.terms m).map fun s => { r with phase := .talking since s }
    | _ => none
  | .conclude =>
    match r.phase with
    | .talking since s =>
      s.outcome?.map fun (outcome, _) =>
        (r.noteConnection ⟨since, some s⟩).onOutcome plan s.welcome.isSome outcome
    | _ => none
  | .wake =>
    match r.phase with
    | .resting wake =>
      if r.stop.isNone && decide (wake ≤ r.now) then some { r with phase := .ready } else none
    | _ => none

/-- Every move that may be enabled, those of the session apart. -/
def ownMoves : List Move :=
  [.start, .heedStop, .welcome, .conclude, .giveUpGreeting, .wake]

def isQuiet (r : Registration α γ θ ρ) (plan : Plan α θ) : Bool :=
  ownMoves.all fun m => (r.advance plan m).isNone

/-- Events that reach the session from its own surroundings. The signals and the clock are shared,
and serving begins with the welcome. -/
def isPrivate : Session.Event γ θ ρ → Bool
  | .stop | .cancel | .serve | .elapse _ => false
  | _ => true

/-- The stop signal also cancels a pending connect. -/
def onStop (r : Registration α γ θ ρ) (plan : Plan α θ) : Registration α γ θ ρ :=
  let phase :=
    match r.phase with
    | .talking since s =>
      let s := (s.receive plan.terms .stop).getD s
      .talking since ((s.receive plan.terms .cancel).getD s)
    | phase => phase
  { r with phase, stop := some r.now }

/-- What happens to the registration. -/
def receive (r : Registration α γ θ ρ) (plan : Plan α θ) :
    Event γ θ ρ → Option (Registration α γ θ ρ)
  | .stop => if r.stop.isNone then some (r.onStop plan) else none
  | .greeted answer =>
    match r.phase, plan.handshake with
    | .greeting arguments _ _, some client =>
      if r.stop.isNone then some (r.onGreeted plan arguments (client.conclude answer)) else none
    | _, _ => none
  | .opened =>
    match r.phase with
    | .dialing arguments since =>
      if r.stop.isNone then some (r.openSession plan arguments since) else none
    | _ => none
  | .openingFailed fault =>
    match r.phase with
    | .dialing _ since =>
      if r.stop.isNone then
        some ((r.noteConnection ⟨since, none⟩).failAttempt plan (.opening fault) false)
      else none
    | _ => none
  | .session e =>
    match r.phase with
    | .talking since s =>
      if isPrivate e then
        (s.receive plan.terms e).map fun s => { r with phase := .talking since s }
      else none
    | _ => none
  | .elapse time =>
    if r.now < time then
      match r.phase with
      | .talking since s =>
        (s.receive plan.terms (.elapse time)).map fun s =>
          { r with now := time, phase := .talking since s }
      | .ended _ _ => none
      | _ => some { r with now := time }
    else none

inductive Action (γ θ ρ : Type) where
  | move (m : Move)
  | event (e : Event γ θ ρ)

def act (r : Registration α γ θ ρ) (plan : Plan α θ) :
    Action γ θ ρ → Option (Registration α γ θ ρ)
  | .move m => r.advance plan m
  | .event e => r.receive plan e

/-- Nothing is left to do before this time, in the session neither. -/
def mayWait (r : Registration α γ θ ρ) (plan : Plan α θ) (time : Nat) : Bool :=
  r.isQuiet plan && r.limit?.all (time ≤ ·) &&
    match r.phase with
    | .talking _ s => s.mayWait plan.terms time
    | _ => true

/-- Everything is done as soon as it can be. -/
def actPromptly (r : Registration α γ θ ρ) (plan : Plan α θ) :
    Action γ θ ρ → Option (Registration α γ θ ρ)
  | .event (.elapse time) =>
    if r.mayWait plan time then r.act plan (.event (.elapse time)) else none
  | a => r.act plan a

/-- One action after another, as long as they are enabled. -/
def run (r : Registration α γ θ ρ) (plan : Plan α θ) (actions : List (Action γ θ ρ)) :
    Option (Registration α γ θ ρ) :=
  actions.foldlM (fun r a => r.act plan a) r

end Dialback.Registration
