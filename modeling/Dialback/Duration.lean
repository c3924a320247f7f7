import Dialback.Text.Numeral

/-!
Spans of time with a resolution of one nanosecond. A duration holds at most `2 ^ 64 - 1` whole
seconds; operations that could leave that range answer `none`.
-/
namespace Dialback

structure Duration where
  nanoseconds : Nat
  bound : nanoseconds < 18_446_744_073_709_551_616_000_000_000 := by decide
  deriving DecidableEq, Repr

namespace Duration

def nanosPerSecond : Nat := 1_000_000_000
def nanosPerMilli : Nat := 1_000_000

def zero : Duration := ⟨0, by decide⟩

instance : Inhabited Duration := ⟨zero⟩

def ofNanos? (n : Nat) : Option Duration :=
  if h : n < 18_446_744_073_709_551_616_000_000_000 then some ⟨n, h⟩ else none

/-- Surplus nanoseconds carry into the seconds. -/
def ofParts? (seconds nanos : Nat) : Option Duration :=
  ofNanos? (nanosPerSecond * seconds + nanos)

def ofMillis (ms : UInt64) : Duration :=
  ⟨nanosPerMilli * ms.toNat, by
    have := ms.toNat_lt
    simp only [nanosPerMilli]
    omega⟩

def maxNanos : Nat := 18_446_744_073_709_551_615_999_999_999

/-- A span of a clock that counts milliseconds. Spans beyond the longest duration are cut to it. -/
def ofTicks (n : Nat) : Duration :=
  ⟨min (nanosPerMilli * n) maxNanos, Nat.lt_of_le_of_lt (Nat.min_le_right _ _) (by decide)⟩

def seconds (d : Duration) : Nat :=
  d.nanoseconds / nanosPerSecond

def subsecond (d : Duration) : Nat :=
  d.nanoseconds % nanosPerSecond

def scale? (d : Duration) (factor : UInt32) : Option Duration :=
  ofNanos? (d.nanoseconds * factor.toNat)

/-- Whole milliseconds until `d` has passed: a clock that ticks in milliseconds wakes at the first
tick that is not before the end of `d`. -/
def ticks (d : Duration) : Nat :=
  (d.nanoseconds + (nanosPerMilli - 1)) / nanosPerMilli

def trimZeros (cs : List Char) : List Char :=
  (cs.reverse.dropWhile (· == '0')).reverse

/-- `n` units out of `unit`, as a decimal fraction without trailing zeros. -/
def fraction (width : Nat) (n : Nat) : List Char :=
  let digits := Text.decimal n
  match trimZeros (List.replicate (width - digits.length) '0' ++ digits) with
  | [] => []
  | cs => '.' :: cs

/-- The largest unit that leaves a whole part, with the rest as its decimal fraction. -/
def shown (d : Duration) : String :=
  let n := d.nanoseconds
  let inUnit (width : Nat) (unit : String) : String :=
    String.ofList (Text.decimal (n / Nat.pow 10 width) ++ fraction width (n % Nat.pow 10 width)) ++ unit
  if nanosPerSecond ≤ n then inUnit 9 "s"
  else if nanosPerMilli ≤ n then inUnit 6 "ms"
  else if 1_000 ≤ n then inUnit 3 "µs"
  else inUnit 0 "ns"

end Duration
end Dialback
