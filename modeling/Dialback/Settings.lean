import Dialback.Handshake.Client
import Dialback.Retry.Policy

/-!
Settings of one registered processor: where the runtime is, the timing of a connection, what the
handshake presents and how attempts are spaced. Times are whole milliseconds. Zero counts, where a
zero would make no sense, are read as one.
-/
namespace Dialback

structure CallSettings where
  pingIntervalMs : UInt64 := 5000
  pingTimeoutMultiplier : UInt32 := 3
  connectTimeoutMs : UInt64 := 5000
  maxConcurrency : UInt64 := 1
  outboundBuffer : UInt64 := 64
  drainTimeoutMs : UInt64 := 30000
  deriving DecidableEq, Repr, Inhabited

namespace CallSettings

def pingInterval (s : CallSettings) : Duration :=
  Duration.ofMillis s.pingIntervalMs

/-- The silence that counts as the end of the remote; `none` if it is longer than any duration. -/
def pingTimeout? (s : CallSettings) : Option Duration :=
  s.pingInterval.scale? (max s.pingTimeoutMultiplier 1)

def pingTimeoutMs (s : CallSettings) : Nat :=
  s.pingIntervalMs.toNat * max s.pingTimeoutMultiplier.toNat 1

def connectTimeout (s : CallSettings) : Duration :=
  Duration.ofMillis s.connectTimeoutMs

def permits (s : CallSettings) : Nat :=
  max s.maxConcurrency.toNat 1

def buffer (s : CallSettings) : Nat :=
  max s.outboundBuffer.toNat 1

def drainTimeout (s : CallSettings) : Duration :=
  Duration.ofMillis s.drainTimeoutMs

end CallSettings

structure HandshakeSettings where
  timeoutMs : UInt64 := 5000
  sdkIdentifier : String := "revcall-rust"
  sdkVersion : String := "0.3.0"
  contractsVersion : String := "1.0.0"
  deriving DecidableEq, Repr, Inhabited

namespace HandshakeSettings

def timeout (s : HandshakeSettings) : Duration :=
  Duration.ofMillis s.timeoutMs

/-- The versions are read in this order, and the first that cannot be read is reported. -/
def identity (s : HandshakeSettings) : Except Version.ParseError Handshake.Identity := do
  let sdkVersion ← Version.parse s.sdkVersion
  let contractsVersion ← Version.parse s.contractsVersion
  return ⟨s.sdkIdentifier, sdkVersion, contractsVersion⟩

def client (s : HandshakeSettings) : Except Version.ParseError Handshake.Client :=
  s.identity.map fun identity => { identity, patienceMs := s.timeoutMs }

end HandshakeSettings

structure RetrySettings where
  initialDelayMs : UInt64 := 1000
  maxDelayMs : UInt64 := 60000
  multiplier : Binary64 := Binary64.two
  maxRetries : Option UInt32 := none
  deriving DecidableEq, Repr, Inhabited

def RetrySettings.backoff (s : RetrySettings) : Retry.Backoff :=
  let b : Retry.Backoff :=
    { initial := Duration.ofMillis s.initialDelayMs, limit := Duration.ofMillis s.maxDelayMs }
  { b.withMultiplier s.multiplier with maxRetries := s.maxRetries }

structure Settings where
  address : String := "127.0.0.1:50053"
  /-- No handshake takes place without this address. -/
  handshakeAddress : Option String := none
  call : CallSettings := {}
  handshake : HandshakeSettings := {}
  retry : RetrySettings := {}
  deriving DecidableEq, Repr, Inhabited

/-- Why settings could not be had from a file or a text. -/
inductive SettingsFault where
  | read (path text : String)
  | parse
  | version (fault : Version.ParseError)
  | invalid (text : String)
  deriving DecidableEq, Repr

def SettingsFault.message : SettingsFault → String
  | read path text => "failed to read config " ++ path ++ ": " ++ text
  | parse => "failed to parse config: "
  | version fault => fault.message
  | invalid text => "invalid config: " ++ text

/-- What the types of the fields leave open. The first fault in this order is reported. -/
def Settings.validate (s : Settings) : Except SettingsFault Unit := do
  match s.handshake.identity with
  | .error fault => throw (.version fault)
  | .ok _ => pure ()
  if s.call.pingIntervalMs = 0 then throw (.invalid "ping_interval_ms must be positive")
  if !s.retry.multiplier.atLeastOne then throw (.invalid "retry multiplier must be at least 1.0")
  if s.retry.maxDelayMs < s.retry.initialDelayMs then
    throw (.invalid "retry initial_delay_ms exceeds max_delay_ms")

end Dialback
