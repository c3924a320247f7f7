import Dialback.Envelope
import Dialback.Handshake.Compatibility

/-!
The demo runtime's side of one connection. A processor has to introduce itself first; after that it
is pinged as often as it asked for, gets numbered requests, and what it answers is shown.
-/
namespace Dialback.Runtime

/-- What the demo runtime tells every client. -/
def introduction : Handshake.Result where
  runtimeVersion := .release 0 3 0
  contractsVersion := .release 1 0 0
  microservice := .null
  environment := "development"

def standardPingInterval : Duration :=
  .ofMillis 5000

inductive Phase where
  | awaiting
  | talking (processor : ProcessorId) (pingInterval : Duration)
  | ended
  deriving DecidableEq, Repr

structure Conversation where
  phase : Phase := .awaiting
  sent : List (ServerMessage String String) := []
  /-- Lines for whoever watches the runtime. -/
  shown : List String := []
  /-- How many requests have been sent. -/
  requests : Nat := 0
  deriving DecidableEq, Repr

inductive Event where
  | arrive (m : ClientMessage ProcessorId String)
  /-- The stream ends, or fails. -/
  | hangUp
  | pingDue
  | requestDue (call : CallId) (execution : ExecutionContext)
  deriving DecidableEq, Repr

/-- An interval of zero counts as none. -/
def pingIntervalOf (arguments : ConnectArguments ProcessorId) : Duration :=
  match arguments.context with
  | some context =>
    if context.pingInterval = .zero then standardPingInterval else context.pingInterval
  | none => standardPingInterval

namespace Conversation

def send (c : Conversation) (m : ServerMessage String String) : Conversation :=
  { c with sent := c.sent ++ [m] }

def display (c : Conversation) (line : String) : Conversation :=
  { c with shown := c.shown ++ [line] }

def welcome (c : Conversation) (arguments : ConnectArguments ProcessorId) : Conversation :=
  let processor := arguments.payload
  let c := c.display s!"runtime Processor {processor.render} connected"
  let c := c.send (.connectResponse (.accepted s!"welcome {processor.render}"))
  { c with phase := .talking processor (pingIntervalOf arguments) }

def step (c : Conversation) (e : Event) : Conversation :=
  match c.phase, e with
  | .awaiting, .arrive (.arguments arguments) => c.welcome arguments
  | .awaiting, .arrive _ | .awaiting, .hangUp => { c with phase := .ended }
  | .talking processor _, .arrive (.response response) =>
    c.display s!"  ← {processor.render} {response.payload}"
  | .talking processor _, .hangUp =>
    { c.display s!"runtime Processor {processor.render} disconnected" with phase := .ended }
  | .talking _ _, .pingDue => c.send .ping
  | .talking _ _, .requestDue call execution =>
    let c := { c with requests := c.requests + 1 }
    c.send (.request
      { context := { call, execution }, payload := s!"request #{c.requests}" })
  | _, _ => c

/-- One event after another. -/
def run (c : Conversation) (events : List Event) : Conversation :=
  events.foldl step c

end Conversation
end Dialback.Runtime
