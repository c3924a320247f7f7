import Dialback.Binary64

/-!
The shortest decimal that reads back as a given double, and its text without an exponent. Decimals
of one digit are tried first, then of two, and so on; of two neighbours that read back, the nearer
one is taken, and of two equally near ones the larger.
-/
namespace Dialback.Binary64

/-- `digits * 10 ^ exponent`. -/
structure Decimal where
  digits : Nat
  exponent : Int
  deriving DecidableEq, Repr

/-- Numerator and denominator of a decimal. -/
def Decimal.ratio (d : Decimal) : Nat × Nat :=
  if 0 ≤ d.exponent then (d.digits * Nat.pow 10 d.exponent.toNat, 1)
  else (d.digits, Nat.pow 10 (-d.exponent).toNat)

def Decimal.readsAs (d : Decimal) (n : Nat) : Bool :=
  roundQuanta (d.ratio.1 * quantaPerUnit) d.ratio.2 == n

/-- The number of decimal places that bring `n` quanta, less than one unit, to one unit or more. -/
def leadingPlaces (n : Nat) : Nat :=
  ((List.range 400).find? fun k => quantaPerUnit ≤ n * Nat.pow 10 k).getD 400

/-- The exponent of the first significant decimal digit of `n` quanta. -/
def leadingExponent (n : Nat) : Int :=
  if quantaPerUnit ≤ n then ((Nat.toDigits 10 (n / quantaPerUnit)).length : Int) - 1
  else -(leadingPlaces n : Int)

/-- Distance of a decimal from `n` quanta, on a common denominator of the decimal's grid. -/
def Decimal.distance (d : Decimal) (n : Nat) : Nat :=
  let (num, den) := d.ratio
  let a := num * quantaPerUnit
  let b := n * den
  if a ≤ b then b - a else a - b

/-- The largest number of units of a decimal grid within `n` quanta. -/
def gridFloor (n : Nat) (exponent : Int) : Nat :=
  if 0 ≤ exponent then n / (quantaPerUnit * Nat.pow 10 exponent.toNat)
  else n * Nat.pow 10 (-exponent).toNat / quantaPerUnit

/-- The nearer of at most two neighbours of `n` quanta. -/
def nearer? (n : Nat) : List Decimal → Option Decimal
  | [] => none
  | [d] => some d
  | below :: above :: _ => some (if below.distance n < above.distance n then below else above)

/-- The decimal of at most `size` digits nearest to `n` quanta, if it reads back. -/
def ofSize? (n size : Nat) : Option Decimal :=
  let exponent := leadingExponent n - (size : Int) + 1
  let floor := gridFloor n exponent
  let neighbours : List Decimal := [⟨floor, exponent⟩, ⟨floor + 1, exponent⟩]
  nearer? n (neighbours.filter (·.readsAs n))

/-- The exact decimal, which always reads back. -/
def exactDecimal (n : Nat) : Decimal :=
  ⟨n * Nat.pow 5 1074, -1074⟩

def shortest (n : Nat) : Decimal :=
  ((List.range 17).findSome? fun i => ofSize? n (i + 1)).getD (exactDecimal n)

/-- Digits behind the point, without zeros at their end but with at least one digit. -/
def trimPlaces (cs : List Char) : List Char :=
  match Duration.trimZeros cs with
  | [] => ['0']
  | kept => kept

/-- Positional text; a whole number has one zero behind its point. -/
def Decimal.positional (d : Decimal) : List Char :=
  let cs := Nat.toDigits 10 d.digits
  if 0 ≤ d.exponent then cs ++ List.replicate d.exponent.toNat '0' ++ ['.', '0']
  else
    let places := (-d.exponent).toNat
    let padded := List.replicate (places + 1 - cs.length) '0' ++ cs
    let whole := padded.length - places
    padded.take whole ++ '.' :: trimPlaces (padded.drop whole)

def signed (negative : Bool) (cs : List Char) : List Char :=
  if negative then '-' :: cs else cs

/-- The text of a number: `nan` without a sign, everything else with it. -/
def render (x : Binary64) : List Char :=
  if x.isNan then ['n', 'a', 'n']
  else if x.isInfinite then signed x.negative ['i', 'n', 'f']
  else if x.quanta = 0 then signed x.negative ['0', '.', '0']
  else signed x.negative (shortest x.quanta).positional

end Dialback.Binary64
