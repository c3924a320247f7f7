import Dialback.Context

/-!
The handshake exchange: the client presents its identity and the contracts version it was built
against, the runtime answers with its own or refuses.
-/
namespace Dialback.Handshake

/-- What the client calls itself. -/
structure Identity where
  sdkIdentifier : String
  sdkVersion : Version
  contractsVersion : Version
  deriving DecidableEq, Repr

structure Request where
  identity : Identity
  attempt : UInt32
  timeSpent : Duration
  deriving DecidableEq, Repr

/-- What the runtime calls itself. -/
structure Result where
  runtimeVersion : Version
  contractsVersion : Version
  microservice : Uuid
  environment : String
  deriving DecidableEq, Repr

inductive Response where
  | accepted (result : Result)
  | refused (failure : Failure)
  deriving DecidableEq, Repr

end Dialback.Handshake
