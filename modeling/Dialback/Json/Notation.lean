import Dialback.Handshake.Client
import Dialback.Json.Messages
import Dialback.Settings
import Dialback.Toml.Scalar

/-!
The notation in which faults, settings and scripts are given and shown as JSON. It is more lenient
than the form of messages: a duration may be a number of milliseconds, a version may be its text,
and a field that is left out has its standard value.
-/
namespace Dialback.Notation

open Json (record ofNat ofString)
open JsonForm (write variant)

/-! Parts of a value. -/

def field? (j : Json) (name : String) : Option Json :=
  match j with
  | .object fields => fields.lookup (some name)
  | _ => none

def text? : Json → Option String
  | .text t => t
  | _ => none

def items? : Json → Option (List Json)
  | .array js => some js
  | _ => none

def nat? (j : Json) : Option Nat :=
  JsonForm.readNat UInt64.size j

def bool? : Json → Option Bool
  | .bool b => some b
  | _ => none

def need {α : Type} (j : Json) (name : String) (read : Json → Option α) : Option α :=
  (field? j name).bind read

/-- A field that may be left out or null. -/
def opt {α : Type} (j : Json) (name : String) (read : Json → Option α) : Option (Option α) :=
  match field? j name with
  | none | some .null => some none
  | some v => (read v).map some

def orElse {α : Type} (j : Json) (name : String) (read : Json → Option α) (d : α) : Option α :=
  (opt j name read).map (·.getD d)

/-! Numbers, spans and versions. -/

def duration? (j : Json) : Option Duration :=
  match nat? j with
  | some ms => some (Duration.ofMillis ms.toUInt64)
  | none => JsonForm.read j

/-- The number nearest to a decimal; what is no finite number has a name. -/
def float? : Json → Option Binary64
  | .number lexeme =>
    let (minus, body) := Toml.signOf lexeme
    let mantissa := body.takeWhile (!Toml.isExponentMark ·)
    let tail := body.dropWhile (!Toml.isExponentMark ·)
    let whole := mantissa.takeWhile (· != '.')
    let places := (mantissa.dropWhile (· != '.')).drop 1
    let exponent : Int := if tail.isEmpty then 0 else (Toml.exponent? (tail.drop 1)).getD 0
    some (Binary64.ofDecimal minus (Text.decimalValue (whole ++ places)) (exponent - places.length))
  | .text (some "NaN") => some Binary64.nan
  | .text (some "inf") => some (Binary64.infinity false)
  | .text (some "-inf") => some (Binary64.infinity true)
  | _ => none

def version? (j : Json) : Option Version :=
  match text? j with
  | some s => Version.parse? s
  | none => JsonForm.read j

def uint32? (j : Json) : Option UInt32 := JsonForm.read j
def uint64? (j : Json) : Option UInt64 := JsonForm.read j
def uuid? (j : Json) : Option Uuid := JsonForm.read j
def failure? (j : Json) : Option Failure := JsonForm.read j

def hex (width n : Nat) : Json :=
  ofString (String.ofList (Text.hexPadded width n))

/-- The bits of a number; all that are no numbers look alike. -/
def ofFloat (x : Binary64) : Json :=
  if x.isNan then ofString "nan" else hex 16 x.bits.toNat

def ofOption {α : Type} (f : α → Json) : Option α → Json
  | none => .null
  | some a => f a

/-- Bytes as pairs of hexadecimal digits. -/
def ofBytes (bs : List UInt8) : Json :=
  ofString (String.ofList (bs.flatMap fun b => Text.hexPadded 2 b.toNat))

def bytes? (j : Json) : Option (List UInt8) := do
  let rec go : List Char → Option (List UInt8)
    | [] => some []
    | a :: b :: rest => do return (← Text.hexValue? [a, b]).toUInt8 :: (← go rest)
    | _ => none
  go (← text? j).toList

/-! Faults. -/

def transport? (j : Json) : Option TransportFault :=
  match text? j with
  | some "Closed" => some .closed
  | some _ => none
  | none => do
    match ← JsonForm.variant? j with
    | ("Connect", t) => return .connect (← text? t)
    | ("Io", t) => return .io (← text? t)
    | ("Codec", t) => return .codec (← text? t)
    | ("Channel", t) => return .channel (← text? t)
    | _ => none

def callFault? (j : Json) : Option CallFault :=
  match text? j with
  | some "DidNotReceiveConnectResponse" => some .noConnectResponse
  | some "WriterStopped" => some .writerStopped
  | some "HandlerPanicked" => some .handlerPanicked
  | some _ => none
  | none => do
    match ← JsonForm.variant? j with
    | ("ConnectFailed", v) => return .refused (← failure? v)
    | ("Transport", v) => return .transport (← transport? v)
    | ("PingTimedOut", v) => return .silent (← duration? v)
    | _ => none

def handshakeFault? (j : Json) : Option HandshakeFault := do
  match ← JsonForm.variant? j with
  | ("Timeout", v) => return .timeout (← duration? v)
  | ("Transport", v) => return .transport (← transport? v)
  | ("Failed", v) => return .refused (← failure? v)
  | ("IncompatibleVersions", v) =>
    return .incompatible (← need v "client" version?) (← need v "runtime" version?)
  | _ => none

def attemptFault? (j : Json) : Option AttemptFault := do
  match ← JsonForm.variant? j with
  | ("Connect", v) => return .opening (← transport? v)
  | ("Handshake", v) => return .handshake (← handshakeFault? v)
  | ("ReverseCall", v) => return .call (← callFault? v)
  | _ => none

def gaveUp? (j : Json) : Option GaveUp := do
  let v ← need j "GaveUp" some
  return ⟨← need v "attempts" uint32?, ← need v "last_failure" attemptFault?⟩

def ofTransport : TransportFault → Json
  | .connect t => variant "Connect" (ofString t)
  | .io t => variant "Io" (ofString t)
  | .codec t => variant "Codec" (ofString t)
  | .channel t => variant "Channel" (ofString t)
  | .closed => ofString "Closed"

def ofCallFault : CallFault → Json
  | .noConnectResponse => ofString "DidNotReceiveConnectResponse"
  | .refused f => variant "ConnectFailed" (write f)
  | .transport t => variant "Transport" (ofTransport t)
  | .silent d => variant "PingTimedOut" (write d)
  | .writerStopped => ofString "WriterStopped"
  | .handlerPanicked => ofString "HandlerPanicked"

def ofHandshakeFault : HandshakeFault → Json
  | .timeout d => variant "Timeout" (write d)
  | .transport t => variant "Transport" (ofTransport t)
  | .refused f => variant "Failed" (write f)
  | .incompatible c r =>
    variant "IncompatibleVersions" (record [("client", write c), ("runtime", write r)])

def ofAttemptFault : AttemptFault → Json
  | .opening t => variant "Connect" (ofTransport t)
  | .handshake h => variant "Handshake" (ofHandshakeFault h)
  | .call c => variant "ReverseCall" (ofCallFault c)

/-! Settings and contexts. -/

def callSettings? (j : Json) : Option CallSettings := do
  let d : CallSettings := {}
  return {
    pingIntervalMs := ← orElse j "ping_interval_ms" uint64? d.pingIntervalMs
    pingTimeoutMultiplier := ← orElse j "ping_timeout_multiplier" uint32? d.pingTimeoutMultiplier
    connectTimeoutMs := ← orElse j "connect_timeout_ms" uint64? d.connectTimeoutMs
    maxConcurrency := ← orElse j "max_concurrency" uint64? d.maxConcurrency
    outboundBuffer := ← orElse j "outbound_buffer" uint64? d.outboundBuffer
    drainTimeoutMs := ← orElse j "drain_timeout_ms" uint64? d.drainTimeoutMs }

def handshakeSettings? (j : Json) : Option HandshakeSettings := do
  let d : HandshakeSettings := {}
  return {
    timeoutMs := ← orElse j "timeout_ms" uint64? d.timeoutMs
    sdkIdentifier := ← orElse j "sdk_identifier" text? d.sdkIdentifier
    sdkVersion := ← orElse j "sdk_version" text? d.sdkVersion
    contractsVersion := ← orElse j "contracts_version" text? d.contractsVersion }

def retrySettings? (j : Json) : Option RetrySettings := do
  let d : RetrySettings := {}
  return {
    initialDelayMs := ← orElse j "initial_delay_ms" uint64? d.initialDelayMs
    maxDelayMs := ← orElse j "max_delay_ms" uint64? d.maxDelayMs
    multiplier := ← orElse j "multiplier" float? d.multiplier
    maxRetries := ← opt j "max_retries" uint32? }

def settings? (j : Json) : Option Settings := do
  let d : Settings := {}
  return {
    address := ← orElse j "address" text? d.address
    handshakeAddress := ← opt j "handshake_address" text?
    call := ← orElse j "reverse_call" callSettings? d.call
    handshake := ← orElse j "handshake" handshakeSettings? d.handshake
    retry := ← orElse j "retry" retrySettings? d.retry }

/-- Fields over those of an application that has chosen nothing. -/
def executionContext? (j : Json) : Option ExecutionContext := do
  let d : ExecutionContext := default
  return {
    microservice := ← orElse j "microservice_id" uuid? d.microservice
    tenant := ← orElse j "tenant_id" uuid? d.tenant
    version := ← orElse j "version" version? d.version
    environment := ← orElse j "environment" text? d.environment
    correlation := ← orElse j "correlation_id" uuid? d.correlation
    culture := ← orElse j "culture" text? d.culture }

def ofSettings (s : Settings) : Json :=
  record [
    ("address", ofString s.address),
    ("handshake_address", ofOption ofString s.handshakeAddress),
    ("reverse_call", record [
      ("ping_interval_ms", write s.call.pingIntervalMs),
      ("ping_timeout_multiplier", write s.call.pingTimeoutMultiplier),
      ("connect_timeout_ms", write s.call.connectTimeoutMs),
      ("max_concurrency", write s.call.maxConcurrency),
      ("outbound_buffer", write s.call.outboundBuffer),
      ("drain_timeout_ms", write s.call.drainTimeoutMs)]),
    ("handshake", record [
      ("timeout_ms", write s.handshake.timeoutMs),
      ("sdk_identifier", ofString s.handshake.sdkIdentifier),
      ("sdk_version", ofString s.handshake.sdkVersion),
      ("contracts_version", ofString s.handshake.contractsVersion)]),
    ("retry", record [
      ("initial_delay_ms", write s.retry.initialDelayMs),
      ("max_delay_ms", write s.retry.maxDelayMs),
      ("multiplier", ofFloat s.retry.multiplier),
      ("max_retries", ofOption write s.retry.maxRetries)])]

end Dialback.Notation
