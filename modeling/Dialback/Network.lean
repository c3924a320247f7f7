import Dialback.Fault
import Dialback.Text.Numeral

/-!
Addresses and what a host's network makes of them. An address is a host and, behind the last colon,
a port.
-/
namespace Dialback

structure Address where
  host : String
  port : UInt16
  deriving DecidableEq, Repr

inductive AddressFault where
  | form
  | port
  deriving DecidableEq, Repr

def AddressFault.message : AddressFault → String
  | form => "invalid socket address"
  | port => "invalid port value"

/-- The text in front of the last colon and the text behind it. -/
def splitLastColon? (cs : List Char) : Option (List Char × List Char) :=
  if cs.contains ':' then
    let back := cs.reverse
    some ((back.dropWhile (· != ':')).tail.reverse, (back.takeWhile (· != ':')).reverse)
  else none

def Address.parse (s : String) : Except AddressFault Address :=
  match splitLastColon? s.toList with
  | none => .error .form
  | some (host, port) =>
    match Text.uint16? port with
    | none => .error .port
    | some port => .ok ⟨String.ofList host, port⟩

/-- Why a connection to an address cannot be opened, if it cannot. -/
structure Network where
  obstacle? : Address → Option String

namespace Network

/-- Without a route to anywhere, not even to itself. -/
def isolated : Network where
  obstacle? _ := some "Network is unreachable (os error 101)"

def connect (n : Network) (address : String) : Except TransportFault Address :=
  match Address.parse address with
  | .error fault => .error (.connect fault.message)
  | .ok address =>
    match n.obstacle? address with
    | some text => .error (.connect text)
    | none => .ok address

end Network
end Dialback
