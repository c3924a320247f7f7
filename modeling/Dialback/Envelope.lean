import Dialback.Context

/-!
The messages of a stream. The client writes its connect arguments once, then pongs and responses;
the remote end writes one connect response, then pings and requests. Payloads are left open.
-/
namespace Dialback

structure ConnectArguments (α : Type) where
  context : Option ArgumentsContext := none
  payload : α
  deriving DecidableEq, Repr

inductive ConnectResponse (γ : Type) where
  | accepted (payload : γ)
  | refused (failure : Failure)
  deriving DecidableEq, Repr

structure Request (θ : Type) where
  context : CallContext
  payload : θ
  deriving DecidableEq, Repr, Inhabited

structure Response (ρ : Type) where
  context : Option CallContext := none
  payload : ρ
  deriving DecidableEq, Repr, Inhabited

inductive ClientMessage (α ρ : Type) where
  | arguments (a : ConnectArguments α)
  | pong
  | response (r : Response ρ)
  deriving DecidableEq, Repr

inductive ServerMessage (γ θ : Type) where
  | connectResponse (r : ConnectResponse γ)
  | ping
  | request (q : Request θ)
  deriving DecidableEq, Repr

variable {α γ θ ρ : Type}

def ConnectArguments.withContext (a : ConnectArguments α) (c : ArgumentsContext) :
    ConnectArguments α :=
  { a with context := some c }

/-- Whatever context the response had is replaced. -/
def Response.withContext (r : Response ρ) (c : CallContext) : Response ρ :=
  { r with context := some c }

namespace ConnectResponse

def failure? : ConnectResponse γ → Option Failure
  | accepted _ => none
  | refused f => some f

def toExcept : ConnectResponse γ → Except Failure γ
  | accepted p => .ok p
  | refused f => .error f

end ConnectResponse

namespace ServerMessage

def kind : ServerMessage γ θ → String
  | connectResponse _ => "connect_response"
  | ping => "ping"
  | request _ => "request"

def connectResponse? : ServerMessage γ θ → Option (ConnectResponse γ)
  | connectResponse r => some r
  | _ => none

def isPing : ServerMessage γ θ → Bool
  | ping => true
  | _ => false

def request? : ServerMessage γ θ → Option (Request θ)
  | request q => some q
  | _ => none

end ServerMessage

/-- How the protocol of these envelopes calls itself. -/
def envelopeProtocolName : String := "EnvelopeProtocol"

end Dialback
