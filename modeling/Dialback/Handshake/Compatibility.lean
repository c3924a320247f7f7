import Dialback.Fault
import Dialback.Handshake.Message

/-!
Which pairs of contracts versions may talk: equal majors, and a runtime that implements at least the
client's minor version. Patch, build and prerelease do not matter.
-/
namespace Dialback.Handshake

inductive Compatibility where
  | compatible
  | clientTooOld
  | runtimeTooOld
  deriving DecidableEq, Repr

def compatibility (client runtime : Version) : Compatibility :=
  if client.major < runtime.major then .clientTooOld
  else if runtime.major < client.major || runtime.minor < client.minor then .runtimeTooOld
  else .compatible

/-- The client's verdict on the runtime's answer. -/
def judge (identity : Identity) : Response → Except HandshakeFault Result
  | .refused failure => .error (.refused failure)
  | .accepted result =>
    match compatibility identity.contractsVersion result.contractsVersion with
    | .compatible => .ok result
    | _ => .error (.incompatible identity.contractsVersion result.contractsVersion)

/-- A runtime that accepts every client with one fixed result. -/
def answerAlways (result : Result) (_ : Request) : Response :=
  .accepted result

end Dialback.Handshake
