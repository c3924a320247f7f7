import Dialback.Envelope
import Dialback.Handshake.Message
import Dialback.Wire.Integer

/-!
The byte form of every type that travels between client and runtime: fields in order and without
names, the number of an alternative before its content, lengths before texts.
-/
namespace Dialback

open Wire

class WireForm (α : Type) where
  write : α → List UInt8
  read : Reader α

namespace WireForm

/-- Reads two things, one after the other. -/
def andThen {α β : Type} (first : Reader α) (next : α → Reader β) : Reader β := fun bs =>
  match first bs with
  | .error fault => .error fault
  | .ok (a, rest) => next a rest

def give {α : Type} (a : α) : Reader α := fun bs =>
  .ok (a, bs)

def refuse {α : Type} (fault : Fault) : Reader α := fun _ =>
  .error fault

def writeSized (bs : List UInt8) : List UInt8 :=
  writeNat bs.length ++ bs

def readSized : Reader (List UInt8) :=
  andThen readNat fun n => takeBytes n .missingContent

/-- The number of an alternative, out of `count`. -/
def readAlternative (count : Nat) : Reader Nat :=
  andThen readWord fun n =>
    if n.toNat < count then give n.toNat else refuse (.alternative n.toNat count)

instance : WireForm Unit where
  write _ := []
  read := give ()

instance : WireForm UInt32 where
  write n := writeNat n.toNat
  read := readWord

instance : WireForm String where
  write s := writeSized (Text.Utf8.encode s.toList)
  read :=
    andThen readSized fun bs =>
      match Text.Utf8.decode bs with
      | .ok cs => give (String.ofList cs)
      | .error malformed => refuse (.text malformed)

instance : WireForm Uuid where
  write u := writeSized u.toBytes
  read :=
    andThen readSized fun bs =>
      if bs.length = 16 then give (Uuid.ofBytes bs) else refuse (.identifierLength bs.length)

instance : WireForm Duration where
  write d := writeNat d.seconds ++ writeNat d.subsecond
  read :=
    andThen readNat fun seconds =>
      andThen readWord fun nanos =>
        match Duration.ofParts? seconds nanos.toNat with
        | some d => give d
        | none => refuse .duration

instance {α : Type} [WireForm α] : WireForm (Option α) where
  write
    | none => [0]
    | some a => 1 :: write a
  read
    | [] => .error .missingBytes
    | tag :: rest =>
      if tag = 0 then .ok (none, rest)
      else if tag = 1 then andThen read (fun a => give (some a)) rest
      else .error (.presence tag.toNat)

instance : WireForm Version where
  write v := write v.major ++ write v.minor ++ write v.patch ++ write v.build ++ write v.prerelease
  read :=
    andThen read fun major => andThen read fun minor => andThen read fun patch =>
      andThen read fun build => andThen read fun prerelease =>
        give ⟨major, minor, patch, build, prerelease⟩

instance : WireForm Failure where
  write f := write f.id ++ write f.reason
  read := andThen read fun id => andThen read fun reason => give ⟨id, reason⟩

instance : WireForm ExecutionContext where
  write c :=
    write c.microservice ++ write c.tenant ++ write c.version ++ write c.environment ++
      write c.correlation ++ write c.culture
  read :=
    andThen read fun microservice => andThen read fun tenant => andThen read fun version =>
      andThen read fun environment => andThen read fun correlation => andThen read fun culture =>
        give ⟨microservice, tenant, version, environment, correlation, culture⟩

instance : WireForm ArgumentsContext where
  write c := write c.head ++ write c.pingInterval ++ write c.execution
  read :=
    andThen read fun head => andThen read fun pingInterval => andThen read fun execution =>
      give ⟨head, pingInterval, execution⟩

instance : WireForm CallContext where
  write c := write c.call ++ write c.execution
  read := andThen read fun call => andThen read fun execution => give ⟨call, execution⟩

variable {α γ θ ρ : Type} [WireForm α] [WireForm γ] [WireForm θ] [WireForm ρ]

instance : WireForm (ConnectArguments α) where
  write a := write a.context ++ write a.payload
  read := andThen read fun context => andThen read fun payload => give ⟨context, payload⟩

instance : WireForm (ConnectResponse γ) where
  write
    | .accepted payload => writeNat 0 ++ write payload
    | .refused failure => writeNat 1 ++ write failure
  read :=
    andThen (readAlternative 2) fun
      | 0 => andThen read fun payload => give (.accepted payload)
      | _ => andThen read fun failure => give (.refused failure)

instance : WireForm (Request θ) where
  write q := write q.context ++ write q.payload
  read := andThen read fun context => andThen read fun payload => give ⟨context, payload⟩

instance : WireForm (Response ρ) where
  write r := write r.context ++ write r.payload
  read := andThen read fun context => andThen read fun payload => give ⟨context, payload⟩

instance : WireForm (ClientMessage α ρ) where
  write
    | .arguments a => writeNat 0 ++ write a
    | .pong => writeNat 1
    | .response r => writeNat 2 ++ write r
  read :=
    andThen (readAlternative 3) fun
      | 0 => andThen read fun a => give (.arguments a)
      | 1 => give .pong
      | _ => andThen read fun r => give (.response r)

instance : WireForm (ServerMessage γ θ) where
  write
    | .connectResponse r => writeNat 0 ++ write r
    | .ping => writeNat 1
    | .request q => writeNat 2 ++ write q
  read :=
    andThen (readAlternative 3) fun
      | 0 => andThen read fun r => give (.connectResponse r)
      | 1 => give .ping
      | _ => andThen read fun q => give (.request q)

instance : WireForm Handshake.Request where
  write q :=
    write q.identity.sdkIdentifier ++ write q.identity.sdkVersion ++
      write q.identity.contractsVersion ++ write q.attempt ++ write q.timeSpent
  read :=
    andThen read fun sdk => andThen read fun sdkVersion => andThen read fun contracts =>
      andThen read fun attempt => andThen read fun timeSpent =>
        give ⟨⟨sdk, sdkVersion, contracts⟩, attempt, timeSpent⟩

instance : WireForm Handshake.Result where
  write r :=
    write r.runtimeVersion ++ write r.contractsVersion ++ write r.microservice ++
      write r.environment
  read :=
    andThen read fun runtime => andThen read fun contracts => andThen read fun microservice =>
      andThen read fun environment => give ⟨runtime, contracts, microservice, environment⟩

instance : WireForm Handshake.Response where
  write
    | .accepted result => writeNat 0 ++ write result
    | .refused failure => writeNat 1 ++ write failure
  read :=
    andThen (readAlternative 2) fun
      | 0 => andThen read fun result => give (.accepted result)
      | _ => andThen read fun failure => give (.refused failure)

end WireForm
end Dialback
