import Dialback.Context

/-!
Why a transport, a call, a handshake, an attempt or a registration failed. Each cause has one
message; causes that wrap another one quote its message.
-/
namespace Dialback

inductive TransportFault where
  | connect (text : String)
  | io (text : String)
  | codec (text : String)
  | channel (text : String)
  | closed
  deriving DecidableEq, Repr

def TransportFault.message : TransportFault → String
  | connect text => "failed to connect: " ++ text
  | io text => "I/O error: " ++ text
  | codec text => "codec error: " ++ text
  | channel text => "channel error: " ++ text
  | closed => "connection closed"

/-- Why one connection ended in failure. -/
inductive CallFault where
  | noConnectResponse
  | refused (failure : Failure)
  | transport (fault : TransportFault)
  | silent (span : Duration)
  | writerStopped
  | handlerPanicked
  deriving DecidableEq, Repr

def CallFault.message : CallFault → String
  | noConnectResponse => "did not receive a connect response"
  | refused failure => "connect refused by remote: " ++ failure.message
  | transport fault => "transport failure: " ++ fault.message
  | silent span => "no message received within " ++ span.shown ++ ", remote assumed dead"
  | writerStopped => "outbound writer stopped"
  | handlerPanicked => "request handler panicked"

inductive HandshakeFault where
  | timeout (span : Duration)
  | transport (fault : TransportFault)
  | refused (failure : Failure)
  | incompatible (client runtime : Version)
  deriving DecidableEq, Repr

def HandshakeFault.message : HandshakeFault → String
  | timeout span => "handshake timed out after " ++ span.shown
  | transport fault => "handshake transport failure: " ++ fault.message
  | refused failure => "handshake refused by runtime: " ++ failure.message
  | incompatible client runtime =>
    "contracts version " ++ client.render ++
      " is not compatible with runtime contracts version " ++ runtime.render

/-- Why one attempt of a registration failed. -/
inductive AttemptFault where
  | opening (fault : TransportFault)
  | handshake (fault : HandshakeFault)
  | call (fault : CallFault)
  deriving DecidableEq, Repr

def AttemptFault.message : AttemptFault → String
  | opening fault => "could not open connection: " ++ fault.message
  | handshake fault => fault.message
  | call fault => fault.message

/-- The end of a registration whose policy no longer retries. -/
structure GaveUp where
  attempts : UInt32
  lastFault : AttemptFault
  deriving DecidableEq, Repr

def GaveUp.message (g : GaveUp) : String :=
  "retry policy gave up after " ++ toString g.attempts.toNat ++ " attempts, last failure: " ++
    g.lastFault.message

/-- Failures of the operating system's input and output, by kind. -/
inductive IoKind where
  | notFound | permissionDenied | connectionRefused | connectionReset | hostUnreachable
  | networkUnreachable | connectionAborted | notConnected | addrInUse | addrNotAvailable
  | networkDown | brokenPipe | alreadyExists | wouldBlock | notADirectory | isADirectory
  | directoryNotEmpty | readOnlyFilesystem | staleNetworkFileHandle | invalidInput | invalidData
  | timedOut | writeZero | storageFull | notSeekable | fileTooLarge | resourceBusy
  | executableFileBusy | deadlock | tooManyLinks | argumentListTooLong | interrupted | unsupported
  | unexpectedEof | outOfMemory | quotaExceeded | crossesDevices | invalidFilename | other
  deriving DecidableEq, Repr

/-- The text of a failure that carries none of its own. -/
def IoKind.description : IoKind → String
  | notFound => "entity not found"
  | permissionDenied => "permission denied"
  | connectionRefused => "connection refused"
  | connectionReset => "connection reset"
  | hostUnreachable => "host unreachable"
  | networkUnreachable => "network unreachable"
  | connectionAborted => "connection aborted"
  | notConnected => "not connected"
  | addrInUse => "address in use"
  | addrNotAvailable => "address not available"
  | networkDown => "network down"
  | brokenPipe => "broken pipe"
  | alreadyExists => "entity already exists"
  | wouldBlock => "operation would block"
  | notADirectory => "not a directory"
  | isADirectory => "is a directory"
  | directoryNotEmpty => "directory not empty"
  | readOnlyFilesystem => "read-only filesystem or storage medium"
  | staleNetworkFileHandle => "stale network file handle"
  | invalidInput => "invalid input parameter"
  | invalidData => "invalid data"
  | timedOut => "timed out"
  | writeZero => "write zero"
  | storageFull => "no storage space"
  | notSeekable => "seek on unseekable file"
  | fileTooLarge => "file too large"
  | resourceBusy => "resource busy"
  | executableFileBusy => "executable file busy"
  | deadlock => "deadlock"
  | tooManyLinks => "too many links"
  | argumentListTooLong => "argument list too long"
  | interrupted => "operation interrupted"
  | unsupported => "unsupported"
  | unexpectedEof => "unexpected end of file"
  | outOfMemory => "out of memory"
  | quotaExceeded => "quota exceeded"
  | crossesDevices => "cross-device link or rename"
  | invalidFilename => "invalid filename"
  | other => "other error"

/-- Every kind with its name. -/
def IoKind.names : List (String × IoKind) := [
  ("NotFound", .notFound), ("PermissionDenied", .permissionDenied),
  ("ConnectionRefused", .connectionRefused), ("ConnectionReset", .connectionReset),
  ("HostUnreachable", .hostUnreachable), ("NetworkUnreachable", .networkUnreachable),
  ("ConnectionAborted", .connectionAborted), ("NotConnected", .notConnected),
  ("AddrInUse", .addrInUse), ("AddrNotAvailable", .addrNotAvailable),
  ("NetworkDown", .networkDown), ("BrokenPipe", .brokenPipe), ("AlreadyExists", .alreadyExists),
  ("WouldBlock", .wouldBlock), ("NotADirectory", .notADirectory), ("IsADirectory", .isADirectory),
  ("DirectoryNotEmpty", .directoryNotEmpty), ("ReadOnlyFilesystem", .readOnlyFilesystem),
  ("StaleNetworkFileHandle", .staleNetworkFileHandle), ("InvalidInput", .invalidInput),
  ("InvalidData", .invalidData), ("TimedOut", .timedOut), ("WriteZero", .writeZero),
  ("StorageFull", .storageFull), ("NotSeekable", .notSeekable), ("FileTooLarge", .fileTooLarge),
  ("ResourceBusy", .resourceBusy), ("ExecutableFileBusy", .executableFileBusy),
  ("Deadlock", .deadlock), ("TooManyLinks", .tooManyLinks),
  ("ArgumentListTooLong", .argumentListTooLong), ("Interrupted", .interrupted),
  ("Unsupported", .unsupported), ("UnexpectedEof", .unexpectedEof),
  ("OutOfMemory", .outOfMemory), ("QuotaExceeded", .quotaExceeded),
  ("CrossesDevices", .crossesDevices), ("InvalidFilename", .invalidFilename), ("Other", .other)]

def IoKind.ofName? (name : String) : Option IoKind :=
  names.lookup name

/-- Malformed data is the codec's fault; everything else is the stream's. -/
def TransportFault.ofIo (kind : IoKind) (text : Option String) : TransportFault :=
  let text := text.getD kind.description
  match kind with
  | .invalidData => .codec text
  | _ => .io text

end Dialback
