import Dialback.Settings
import Dialback.Toml.Reader
import Dialback.Toml.Writer

/-!
Settings as TOML documents. Every key may be left out. A section is a table, or an array of its
fields in their order; keys and items beyond the known ones are left aside. Writing spells out every
field, absent options apart.
-/
namespace Dialback

open Toml

/-- What a document gives for the fields of a section, in order. -/
def sectionFields? (names : List String) : Value → Option (List (Option Value))
  | .table _ entries => some (names.map (Entries.find? entries))
  | .array items => some ((List.range names.length).map fun i => items[i]?)
  | .tables items =>
    some ((List.range names.length).map fun i => (items[i]?).map (Value.table .header))
  | .moment => some (names.map fun _ => none)
  | _ => none

def boundedField (bound default : Nat) : Option Value → Option Nat
  | none => some default
  | some (.integer n) => if 0 ≤ n && n < bound then some n.toNat else none
  | some _ => none

def field64 (default : UInt64) (v : Option Value) : Option UInt64 :=
  (boundedField UInt64.size default.toNat v).map UInt64.ofNat

def field32 (default : UInt32) (v : Option Value) : Option UInt32 :=
  (boundedField UInt32.size default.toNat v).map UInt32.ofNat

def textField (default : String) : Option Value → Option String
  | none => some default
  | some (.text s) => some s
  | some _ => none

/-- An integer will do for a float. -/
def floatField (default : Binary64) : Option Value → Option Binary64
  | none => some default
  | some (.float x) => some x
  | some (.integer n) => some (Binary64.ofRatio (decide (n < 0)) n.natAbs 1)
  | some _ => none

def optionField {α : Type} (read : Option Value → Option α) : Option Value → Option (Option α)
  | none => some none
  | v => (read v).map some

def sectionField {α : Type} (default : α) (read : Value → Option α) : Option Value → Option α
  | none => some default
  | some v => read v

def CallSettings.ofValue? (v : Value) : Option CallSettings := do
  let standard : CallSettings := {}
  let [interval, multiplier, connect, concurrency, buffer, drain] ←
    sectionFields? ["ping_interval_ms", "ping_timeout_multiplier", "connect_timeout_ms",
      "max_concurrency", "outbound_buffer", "drain_timeout_ms"] v | none
  return {
    pingIntervalMs := ← field64 standard.pingIntervalMs interval
    pingTimeoutMultiplier := ← field32 standard.pingTimeoutMultiplier multiplier
    connectTimeoutMs := ← field64 standard.connectTimeoutMs connect
    maxConcurrency := ← field64 standard.maxConcurrency concurrency
    outboundBuffer := ← field64 standard.outboundBuffer buffer
    drainTimeoutMs := ← field64 standard.drainTimeoutMs drain }

def HandshakeSettings.ofValue? (v : Value) : Option HandshakeSettings := do
  let standard : HandshakeSettings := {}
  let [timeout, sdk, sdkVersion, contracts] ←
    sectionFields? ["timeout_ms", "sdk_identifier", "sdk_version", "contracts_version"] v | none
  return {
    timeoutMs := ← field64 standard.timeoutMs timeout
    sdkIdentifier := ← textField standard.sdkIdentifier sdk
    sdkVersion := ← textField standard.sdkVersion sdkVersion
    contractsVersion := ← textField standard.contractsVersion contracts }

def RetrySettings.ofValue? (v : Value) : Option RetrySettings := do
  let standard : RetrySettings := {}
  let [initial, limit, multiplier, retries] ←
    sectionFields? ["initial_delay_ms", "max_delay_ms", "multiplier", "max_retries"] v | none
  return {
    initialDelayMs := ← field64 standard.initialDelayMs initial
    maxDelayMs := ← field64 standard.maxDelayMs limit
    multiplier := ← floatField standard.multiplier multiplier
    maxRetries := ← optionField (field32 0) retries }

namespace Settings

def ofEntries? (entries : Entries) : Option Settings := do
  let standard : Settings := {}
  return {
    address := ← textField standard.address (Entries.find? entries "address")
    handshakeAddress := ← optionField (textField "") (Entries.find? entries "handshake_address")
    call := ← sectionField standard.call CallSettings.ofValue? (Entries.find? entries "reverse_call")
    handshake :=
      ← sectionField standard.handshake HandshakeSettings.ofValue? (Entries.find? entries "handshake")
    retry := ← sectionField standard.retry RetrySettings.ofValue? (Entries.find? entries "retry") }

/-- The settings a document gives, if they are valid. -/
def parse (document : String) : Except SettingsFault Settings :=
  match (Toml.parse? document).bind ofEntries? with
  | none => .error .parse
  | some s => s.validate.map fun _ => s

/-- The document of some settings, unless a number is too large for it. -/
def render? (s : Settings) : Option String := do
  let nat (key : String) (n : Nat) : Option (List Char) := (renderNat? n).map (line key)
  let text (key : String) (t : String) : List Char := line key (renderText t)
  let head := text "address" s.address ++
    (s.handshakeAddress.map (text "handshake_address")).getD []
  let call := block "reverse_call" [
    ← nat "ping_interval_ms" s.call.pingIntervalMs.toNat,
    ← nat "ping_timeout_multiplier" s.call.pingTimeoutMultiplier.toNat,
    ← nat "connect_timeout_ms" s.call.connectTimeoutMs.toNat,
    ← nat "max_concurrency" s.call.maxConcurrency.toNat,
    ← nat "outbound_buffer" s.call.outboundBuffer.toNat,
    ← nat "drain_timeout_ms" s.call.drainTimeoutMs.toNat]
  let handshake := block "handshake" [
    ← nat "timeout_ms" s.handshake.timeoutMs.toNat,
    text "sdk_identifier" s.handshake.sdkIdentifier,
    text "sdk_version" s.handshake.sdkVersion,
    text "contracts_version" s.handshake.contractsVersion]
  let retries : List (List Char) :=
    match s.retry.maxRetries with
    | some n => [line "max_retries" (Text.decimal n.toNat)]
    | none => []
  let retry := block "retry" ([
    ← nat "initial_delay_ms" s.retry.initialDelayMs.toNat,
    ← nat "max_delay_ms" s.retry.maxDelayMs.toNat,
    line "multiplier" s.retry.multiplier.render] ++ retries)
  return String.ofList (head ++ call ++ handshake ++ retry)

end Settings
end Dialback
