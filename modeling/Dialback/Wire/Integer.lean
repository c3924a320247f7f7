import Dialback.Wire.Fault

/-!
Integers below 2^64 in one, three, five or nine bytes: small ones by themselves, others behind a
mark that tells their width, least significant byte first. Writing takes the shortest form; reading
takes any.
-/
namespace Dialback.Wire

/-- The `n` lowest bytes, least significant first. -/
def littleEndian : Nat → Nat → List UInt8
  | 0, _ => []
  | n + 1, value => (value % 256).toUInt8 :: littleEndian n (value / 256)

def ofLittleEndian : List UInt8 → Nat
  | [] => 0
  | b :: rest => b.toNat + 256 * ofLittleEndian rest

/-- Largest integer that is its own byte. -/
def lastSmall : Nat := 250

def writeNat (n : Nat) : List UInt8 :=
  if n ≤ lastSmall then [n.toUInt8]
  else if n < UInt16.size then 251 :: littleEndian 2 n
  else if n < UInt32.size then 252 :: littleEndian 4 n
  else 253 :: littleEndian 8 n

/-- A reader takes what it needs from the front and hands back the rest. -/
abbrev Reader (α : Type) := List UInt8 → Except Fault (α × List UInt8)

/-- The next `n` bytes. -/
def takeBytes (n : Nat) (otherwise : Fault) : Reader (List UInt8) := fun bs =>
  if n ≤ bs.length then .ok (bs.take n, bs.drop n) else .error otherwise

def readWidth (n : Nat) : Reader Nat := fun bs =>
  match takeBytes n .missingBytes bs with
  | .ok (digits, rest) => .ok (ofLittleEndian digits, rest)
  | .error fault => .error fault

def readNat : Reader Nat
  | [] => .error .missingBytes
  | b :: rest =>
    if b.toNat ≤ lastSmall then .ok (b.toNat, rest)
    else if b = 251 then readWidth 2 rest
    else if b = 252 then readWidth 4 rest
    else if b = 253 then readWidth 8 rest
    else if b = 254 then .error .wideInteger
    else .error .reservedInteger

def readWord : Reader UInt32 := fun bs =>
  match readNat bs with
  | .error fault => .error fault
  | .ok (n, rest) => if n < UInt32.size then .ok (n.toUInt32, rest) else .error (.word n)

end Dialback.Wire
