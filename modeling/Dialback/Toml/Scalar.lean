import Dialback.Toml.Value

/-!
Unquoted values: booleans, integers in four bases, floats and moments in time. Underscores may stand
between digits. A moment has to exist in the calendar; its value is not kept.
-/
namespace Dialback.Toml

/-- The digits without the underscores between them. -/
def ungroup? (isDigit : Char → Bool) : List Char → Option (List Char)
  | [] => none
  | [c] => if isDigit c then some [c] else none
  | c :: '_' :: rest => if isDigit c then (ungroup? isDigit rest).map (c :: ·) else none
  | c :: rest => if isDigit c then (ungroup? isDigit rest).map (c :: ·) else none

def digits? (cs : List Char) : Option (List Char) :=
  ungroup? Text.isDigit cs

/-- Digits without a superfluous zero in front. -/
def canonicalDigits? (cs : List Char) : Option (List Char) :=
  match digits? cs with
  | some ('0' :: _ :: _) => none
  | found => found

def signOf : List Char → Bool × List Char
  | '+' :: rest => (false, rest)
  | '-' :: rest => (true, rest)
  | cs => (false, cs)

def inInt64 (n : Int) : Bool :=
  -9_223_372_036_854_775_808 ≤ n && n ≤ 9_223_372_036_854_775_807

def basedValue? (base : Nat) (cs : List Char) : Option Nat :=
  let isDigit (c : Char) : Bool := (Text.hexDigitValue? c).any (· < base)
  (ungroup? isDigit cs).map fun ds =>
    ds.foldl (fun n c => n * base + (Text.hexDigitValue? c).getD 0) 0

def integer? (cs : List Char) : Option Int :=
  let value? : Option Int :=
    match cs with
    | '0' :: 'x' :: rest => (basedValue? 16 rest).map Int.ofNat
    | '0' :: 'o' :: rest => (basedValue? 8 rest).map Int.ofNat
    | '0' :: 'b' :: rest => (basedValue? 2 rest).map Int.ofNat
    | _ =>
      let (minus, ds) := signOf cs
      (canonicalDigits? ds).map fun ds =>
        let n : Int := Text.decimalValue ds
        if minus then -n else n
  value?.filter inInt64

def isExponentMark (c : Char) : Bool :=
  c == 'e' || c == 'E'

/-- Digits behind the exponent mark, with their sign. -/
def exponent? (cs : List Char) : Option Int :=
  let (minus, ds) := signOf cs
  (digits? ds).map fun ds =>
    let n : Int := Text.decimalValue ds
    if minus then -n else n

def wordFloat? (minus : Bool) (cs : List Char) : Option Binary64 :=
  if cs = ['i', 'n', 'f'] then some (Binary64.infinity minus)
  else if cs = ['n', 'a', 'n'] then some Binary64.nan
  else none

/-- A float has a fraction, an exponent or both; one that rounds to plus infinity is refused. -/
def float? (cs : List Char) : Option Binary64 :=
  let (minus, body) := signOf cs
  match wordFloat? minus body with
  | some x => some x
  | none => do
    let mantissa := body.takeWhile (!isExponentMark ·)
    let tail := body.dropWhile (!isExponentMark ·)
    let exponent : Int ← if tail.isEmpty then some 0 else exponent? (tail.drop 1)
    let whole := mantissa.takeWhile (· != '.')
    let point := mantissa.dropWhile (· != '.')
    if tail.isEmpty && point.isEmpty then none
    let whole ← canonicalDigits? whole
    let places ← if point.isEmpty then some [] else digits? (point.drop 1)
    let x := Binary64.ofDecimal minus (Text.decimalValue (whole ++ places))
      (exponent - places.length)
    if x = Binary64.infinity false then none else some x

def boundedNumber? (cs : List Char) (low high : Nat) : Option Nat :=
  (Text.natNumeral? cs).filter fun n => low ≤ n && n ≤ high

def daysInMonth (year month : Nat) : Nat :=
  if month = 2 then
    if year % 4 = 0 && (year % 100 ≠ 0 || year % 400 = 0) then 29 else 28
  else if month = 4 || month = 6 || month = 9 || month = 11 then 30
  else 31

def isDate (cs : List Char) : Bool :=
  match cs with
  | [y1, y2, y3, y4, '-', m1, m2, '-', d1, d2] =>
    match Text.natNumeral? [y1, y2, y3, y4], boundedNumber? [m1, m2] 1 12 with
    | some year, some month => (boundedNumber? [d1, d2] 1 (daysInMonth year month)).isSome
    | _, _ => false
  | _ => false

def isOffset (cs : List Char) : Bool :=
  match cs with
  | [] => true
  | ['Z'] | ['z'] => true
  | [sign, h1, h2, ':', m1, m2] =>
    (sign == '+' || sign == '-') && (boundedNumber? [h1, h2] 0 23).isSome &&
      (boundedNumber? [m1, m2] 0 59).isSome
  | _ => false

/-- A time of day; an offset may follow it only behind a date. -/
def isTime (withOffset : Bool) (cs : List Char) : Bool :=
  match cs with
  | h1 :: h2 :: ':' :: m1 :: m2 :: ':' :: s1 :: s2 :: rest =>
    let (fractionOk, rest) :=
      match rest with
      | '.' :: rest => (!(rest.takeWhile Text.isDigit).isEmpty, rest.dropWhile Text.isDigit)
      | _ => (true, rest)
    (boundedNumber? [h1, h2] 0 23).isSome && (boundedNumber? [m1, m2] 0 59).isSome &&
      (boundedNumber? [s1, s2] 0 60).isSome && fractionOk &&
      (if withOffset then isOffset rest else rest.isEmpty)
  | _ => false

def isMoment (cs : List Char) : Bool :=
  isDate cs || isTime false cs ||
    (isDate (cs.take 10) &&
      match cs.drop 10 with
      | mark :: rest => (mark == 'T' || mark == 't') && isTime true rest
      | [] => false)

/-- A word made of the characters that unquoted values are made of. -/
def scalar? (cs : List Char) : Option Value :=
  if cs = ['t', 'r', 'u', 'e'] then some (.boolean true)
  else if cs = ['f', 'a', 'l', 's', 'e'] then some (.boolean false)
  else if isMoment cs then some .moment
  else
    match integer? cs with
    | some n => some (.integer n)
    | none => (float? cs).map .float

def isScalarChar (c : Char) : Bool :=
  c.isAlphanum || c == '_' || c == '+' || c == '-' || c == '.' || c == ':'

/-- The word at the start of a text; a date takes along the time of day behind a single blank. -/
def scalarWord (cs : List Char) : Option (Value × List Char) :=
  let word := cs.takeWhile isScalarChar
  let rest := cs.dropWhile isScalarChar
  match isDate word, rest with
  | true, ' ' :: d :: more =>
    if Text.isDigit d then
      if isTime true ((d :: more).takeWhile isScalarChar) then
        some (.moment, (d :: more).dropWhile isScalarChar)
      else none
    else some (.moment, rest)
  | _, _ => (scalar? word).map (·, rest)

end Dialback.Toml
