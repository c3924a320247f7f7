/-!
Decimal and hexadecimal numerals. A word numeral is an optional plus sign and at least one ASCII
digit, with a value below the bound; leading zeros do not matter.
-/
namespace Dialback.Text

def isDigit (c : Char) : Bool :=
  '0' ≤ c && c ≤ '9'

def digitValue (c : Char) : Nat :=
  c.toNat - '0'.toNat

/-- Value of a digit string, most significant digit first. -/
def decimalValue (cs : List Char) : Nat :=
  cs.foldl (fun n c => n * 10 + digitValue c) 0

def natNumeral? (cs : List Char) : Option Nat :=
  if cs.isEmpty || !cs.all isDigit then none else some (decimalValue cs)

def unsigned (cs : List Char) : List Char :=
  match cs with
  | '+' :: rest => rest
  | _ => cs

def numeralBelow? (bound : Nat) (cs : List Char) : Option Nat :=
  (natNumeral? (unsigned cs)).filter (· < bound)

def uint32? (cs : List Char) : Option UInt32 :=
  (numeralBelow? UInt32.size cs).map UInt32.ofNat

def uint16? (cs : List Char) : Option UInt16 :=
  (numeralBelow? UInt16.size cs).map UInt16.ofNat

def decimal (n : Nat) : List Char :=
  Nat.toDigits 10 n

def hexDigitValue? (c : Char) : Option Nat :=
  if isDigit c then some (digitValue c)
  else if 'a' ≤ c && c ≤ 'f' then some (c.toNat - 'a'.toNat + 10)
  else if 'A' ≤ c && c ≤ 'F' then some (c.toNat - 'A'.toNat + 10)
  else none

def isHexDigit (c : Char) : Bool :=
  (hexDigitValue? c).isSome

/-- Value of a string of digits of base sixteen; `none` at the first other character. -/
def hexValue? (cs : List Char) : Option Nat :=
  cs.foldlM (fun n c => (hexDigitValue? c).map (n * 16 + ·)) 0

def hexDigit (n : Nat) : Char :=
  Char.ofNat (if n < 10 then '0'.toNat + n else 'a'.toNat + (n - 10))

/-- The `width` lowest hexadecimal digits of `n`, most significant first. -/
def hexPadded (width n : Nat) : List Char :=
  (List.range width).reverse.map fun i => hexDigit (n / Nat.pow 16 i % 16)

end Dialback.Text
