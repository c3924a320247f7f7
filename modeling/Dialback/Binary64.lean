import Dialback.Duration

/-!
Double-precision numbers with exact, decidable arithmetic. Every finite magnitude is a whole number
of quanta of `2 ^ -1074`, so sums, products and quotients are computed on naturals and rounded once,
to the nearest representable magnitude with ties to the even one.
-/
namespace Dialback

structure Binary64 where
  bits : UInt64
  deriving DecidableEq, Repr, Inhabited

namespace Binary64

def quantaPerUnit : Nat := Nat.pow 2 1074
def fractionSize : Nat := 0x10_0000_0000_0000
def signBit : Nat := 0x8000_0000_0000_0000
/-- The first magnitude beyond the finite ones, in quanta. -/
def overflowAt : Nat := Nat.pow 2 2098

def biasedExponent (x : Binary64) : Nat :=
  x.bits.toNat / fractionSize % 2048

def fraction (x : Binary64) : Nat :=
  x.bits.toNat % fractionSize

def negative (x : Binary64) : Bool :=
  signBit ≤ x.bits.toNat

def isNan (x : Binary64) : Bool :=
  x.biasedExponent == 2047 && x.fraction != 0

def isInfinite (x : Binary64) : Bool :=
  x.biasedExponent == 2047 && x.fraction == 0

def isFinite (x : Binary64) : Bool :=
  x.biasedExponent != 2047

/-- The magnitude of a finite number, in quanta. -/
def quanta (x : Binary64) : Nat :=
  if x.biasedExponent = 0 then x.fraction
  else (fractionSize + x.fraction) * Nat.pow 2 (x.biasedExponent - 1)

/-- The bits of a magnitude that needs no more than 53 binary digits. -/
def magnitudeBits (n : Nat) : Nat :=
  if n < fractionSize then n
  else
    let shift := n.log2 - 52
    (shift + 1) * fractionSize + (n / Nat.pow 2 shift - fractionSize)

def infinityBits : Nat := 2047 * fractionSize

def ofParts (negative : Bool) (magnitude : Nat) : Binary64 :=
  ⟨UInt64.ofNat (if negative then signBit + magnitude else magnitude)⟩

def nan : Binary64 := ofParts false (infinityBits + fractionSize / 2)
def infinity (negative : Bool) : Binary64 := ofParts negative infinityBits

/-- `n / d` to the nearest natural; a tie goes to the even neighbour. -/
def roundDiv (n d : Nat) : Nat :=
  let q := n / d
  let r := n % d
  if 2 * r < d then q
  else if d < 2 * r then q + 1
  else if q % 2 = 0 then q else q + 1

/-- The representable magnitude nearest to `n / d` quanta. -/
def roundQuanta (n d : Nat) : Nat :=
  let step := Nat.pow 2 ((n / d).log2 - 52)
  roundDiv n (d * step) * step

def ofQuanta (negative : Bool) (n d : Nat) : Binary64 :=
  let m := roundQuanta n d
  if m < overflowAt then ofParts negative (magnitudeBits m) else infinity negative

def ofRatio (negative : Bool) (n d : Nat) : Binary64 :=
  ofQuanta negative (n * quantaPerUnit) d

def ofNat (n : Nat) : Binary64 :=
  ofRatio false n 1

def one : Binary64 := ofNat 1
def two : Binary64 := ofNat 2

/-- `digits * 10 ^ exponent`. Exponents far beyond the range are cut short. -/
def ofDecimal (negative : Bool) (digits : Nat) (exponent : Int) : Binary64 :=
  if digits = 0 then ofParts negative 0
  else if 0 ≤ exponent then
    if 400 < exponent then infinity negative
    else ofRatio negative (digits * Nat.pow 10 exponent.toNat) 1
  else if exponent + (Nat.toDigits 10 digits).length < -400 then ofParts negative 0
  else ofRatio negative digits (Nat.pow 10 (-exponent).toNat)

/-- Sum of two finite numbers that are not negative. -/
def addNonneg (x y : Binary64) : Binary64 :=
  ofQuanta false (x.quanta + y.quanta) 1

def mul (x y : Binary64) : Binary64 :=
  let sign := x.negative != y.negative
  if x.isNan || y.isNan then nan
  else if x.isInfinite || y.isInfinite then
    if x.isFinite && x.quanta = 0 || y.isFinite && y.quanta = 0 then nan else infinity sign
  else ofQuanta sign (x.quanta * y.quanta) quantaPerUnit

/-- `x ≥ y` for numbers that are not negative; false as soon as one is no number. -/
def atLeastNonneg (x y : Binary64) : Bool :=
  !x.isNan && !y.isNan && (x.isInfinite || y.isFinite && y.quanta ≤ x.quanta)

/-- Whether `x ≥ 1`. -/
def atLeastOne (x : Binary64) : Bool :=
  !x.negative && x.atLeastNonneg one

/-- `x ^ n` by repeated squaring: `acc` gathers the factors of the odd steps. -/
def powAux (acc x : Binary64) (n : Nat) : Binary64 :=
  let acc := if n % 2 = 1 then acc.mul x else acc
  if _more : n / 2 = 0 then acc else powAux acc (x.mul x) (n / 2)
termination_by n
decreasing_by omega

def pow (x : Binary64) (n : Nat) : Binary64 :=
  powAux one x n

/-- Seconds, rounded in each of the whole part, the fraction and their sum. -/
def ofDuration (d : Duration) : Binary64 :=
  addNonneg (ofNat d.seconds) (ofRatio false d.subsecond Duration.nanosPerSecond)

/-- Seconds to the nearest nanosecond, a tie to the even one; `none` for negative numbers, for what
is no number and for spans that are too long. -/
def toDuration? (x : Binary64) : Option Duration :=
  if !x.isFinite || x.negative && x.quanta ≠ 0 then none
  else Duration.ofNanos? (roundDiv (Duration.nanosPerSecond * x.quanta) quantaPerUnit)

end Binary64
end Dialback
