import Dialback.Envelope
import Dialback.Handshake.Message
import Dialback.Json.Form

/-!
The JSON form of every type that travels between client and runtime.
-/
namespace Dialback

open JsonForm Json

instance : JsonForm Uuid where
  write u := .text (some u.render)
  read
    | .text (some s) => Uuid.parse? s
    | _ => none

instance : JsonForm PartitionKey where
  write k := write k.text
  read j := (read j).map PartitionKey.mk

instance : JsonForm Duration where
  write d := record [("secs", .ofNat d.seconds), ("nanos", .ofNat d.subsecond)]
  read j := do
    let [secs, nanos] ← closedFields? ["secs", "nanos"] j | none
    let secs : UInt64 ← required secs
    let nanos : UInt32 ← required nanos
    Duration.ofParts? secs.toNat nanos.toNat

instance : JsonForm Version where
  write v := record [("major", write v.major), ("minor", write v.minor), ("patch", write v.patch),
    ("build", write v.build), ("prerelease", write v.prerelease)]
  read j := do
    let [major, minor, patch, build, pre] ←
      fields? ["major", "minor", "patch", "build", "prerelease"] j | none
    return ⟨← required major, ← required minor, ← required patch, ← required build, ← required pre⟩

instance : JsonForm Failure where
  write f := record [("id", write f.id), ("reason", write f.reason)]
  read j := do
    let [id, reason] ← fields? ["id", "reason"] j | none
    return ⟨← required id, ← required reason⟩

instance : JsonForm ExecutionContext where
  write c := record [("microservice_id", write c.microservice), ("tenant_id", write c.tenant),
    ("version", write c.version), ("environment", write c.environment),
    ("correlation_id", write c.correlation), ("culture", write c.culture)]
  read j := do
    let [microservice, tenant, version, environment, correlation, culture] ←
      fields? ["microservice_id", "tenant_id", "version", "environment", "correlation_id",
        "culture"] j | none
    return ⟨← required microservice, ← required tenant, ← required version, ← required environment,
      ← required correlation, ← required culture⟩

instance : JsonForm ArgumentsContext where
  write c := record [("head_id", write c.head), ("ping_interval", write c.pingInterval),
    ("execution_context", write c.execution)]
  read j := do
    let [head, pingInterval, execution] ←
      fields? ["head_id", "ping_interval", "execution_context"] j | none
    return ⟨← required head, ← required pingInterval, ← required execution⟩

instance : JsonForm CallContext where
  write c := record [("call_id", write c.call), ("execution_context", write c.execution)]
  read j := do
    let [call, execution] ← fields? ["call_id", "execution_context"] j | none
    return ⟨← required call, ← required execution⟩

variable {α γ θ ρ : Type} [JsonForm α] [JsonForm γ] [JsonForm θ] [JsonForm ρ]

instance : JsonForm (ConnectArguments α) where
  write a := record [("context", write a.context), ("payload", write a.payload)]
  read j := do
    let [context, payload] ← fields? ["context", "payload"] j | none
    return ⟨← omittable context, ← required payload⟩

instance : JsonForm (ConnectResponse γ) where
  write
    | .accepted payload => variant "Accepted" (write payload)
    | .refused failure => variant "Refused" (write failure)
  read j := do
    match ← variant? j with
    | ("Accepted", j) => return .accepted (← read j)
    | ("Refused", j) => return .refused (← read j)
    | _ => none

instance : JsonForm (Request θ) where
  write q := record [("context", write q.context), ("payload", write q.payload)]
  read j := do
    let [context, payload] ← fields? ["context", "payload"] j | none
    return ⟨← required context, ← required payload⟩

instance : JsonForm (Response ρ) where
  write r := record [("context", write r.context), ("payload", write r.payload)]
  read j := do
    let [context, payload] ← fields? ["context", "payload"] j | none
    return ⟨← omittable context, ← required payload⟩

instance : JsonForm (ClientMessage α ρ) where
  write
    | .arguments a => variant "Arguments" (write a)
    | .pong => variant "Pong" .null
    | .response r => variant "Response" (write r)
  read j := do
    match ← variant? j with
    | ("Arguments", j) => return .arguments (← read j)
    | ("Pong", .null) => return .pong
    | ("Response", j) => return .response (← read j)
    | _ => none

instance : JsonForm (ServerMessage γ θ) where
  write
    | .connectResponse r => variant "ConnectResponse" (write r)
    | .ping => variant "Ping" .null
    | .request q => variant "Request" (write q)
  read j := do
    match ← variant? j with
    | ("ConnectResponse", j) => return .connectResponse (← read j)
    | ("Ping", .null) => return .ping
    | ("Request", j) => return .request (← read j)
    | _ => none

namespace Handshake

instance : JsonForm Request where
  write q := record [("sdk_identifier", write q.identity.sdkIdentifier),
    ("sdk_version", write q.identity.sdkVersion),
    ("contracts_version", write q.identity.contractsVersion), ("attempt", write q.attempt),
    ("time_spent", write q.timeSpent)]
  read j := do
    let [sdk, sdkVersion, contracts, attempt, timeSpent] ←
      fields? ["sdk_identifier", "sdk_version", "contracts_version", "attempt", "time_spent"] j
      | none
    return ⟨⟨← required sdk, ← required sdkVersion, ← required contracts⟩, ← required attempt,
      ← required timeSpent⟩

instance : JsonForm Result where
  write r := record [("runtime_version", write r.runtimeVersion),
    ("contracts_version", write r.contractsVersion), ("microservice_id", write r.microservice),
    ("environment", write r.environment)]
  read j := do
    let [runtime, contracts, microservice, environment] ←
      fields? ["runtime_version", "contracts_version", "microservice_id", "environment"] j | none
    return ⟨← required runtime, ← required contracts, ← required microservice,
      ← required environment⟩

instance : JsonForm Response where
  write
    | .accepted result => variant "Accepted" (write result)
    | .refused failure => variant "Refused" (write failure)
  read j := do
    match ← variant? j with
    | ("Accepted", j) => return .accepted (← read j)
    | ("Refused", j) => return .refused (← read j)
    | _ => none

end Handshake
end Dialback
