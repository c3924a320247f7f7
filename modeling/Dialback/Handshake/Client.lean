import Dialback.Handshake.Compatibility

/-!
The client's side of one exchange. The request waits for its answer no longer than the client's
patience; an answer that is there at that very moment still counts.
-/
namespace Dialback.Handshake

structure Client where
  identity : Identity
  patienceMs : UInt64
  deriving DecidableEq, Repr

/-- What the transport yields for a request, and after how long; without an answer, never. -/
structure Exchange where
  after : Nat := 0
  answer : Option (Except TransportFault Response) := none

namespace Client

def patience (c : Client) : Duration :=
  .ofMillis c.patienceMs

def request (c : Client) (attempt : UInt32) (timeSpent : Duration) : Request :=
  ⟨c.identity, attempt, timeSpent⟩

def conclude (c : Client) : Except TransportFault Response → Except HandshakeFault Result
  | .error fault => .error (.transport fault)
  | .ok response => judge c.identity response

/-- The outcome of an exchange, and when it is known. -/
def perform (c : Client) (x : Exchange) : Nat × Except HandshakeFault Result :=
  let tooLate := (c.patienceMs.toNat, .error (.timeout c.patience))
  match x.answer with
  | none => tooLate
  | some answer => if x.after ≤ c.patienceMs.toNat then (x.after, c.conclude answer) else tooLate

end Client
end Dialback.Handshake
