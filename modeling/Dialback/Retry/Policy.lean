import Dialback.Binary64
import Dialback.Retry.History

/-!
Retry policies: functions from the failures so far to the next delay, or to `none` when the
registration gives up. An exponential backoff grows with the failures since the last accepted
connect, while its budget counts every failure.
-/
namespace Dialback.Retry

abbrev Policy := History → Option Duration

/-- Whether more failures have been counted than the budget allows. -/
def exhausted (maxRetries : Option UInt32) (h : History) : Bool :=
  maxRetries.any fun budget => budget.toNat < h.total

def never : Policy :=
  fun _ => none

def fixed (delay : Duration) (maxRetries : Option UInt32) : Policy :=
  fun h => if exhausted maxRetries h then none else some delay

/-- The `n`-th failure is answered by the `n`-th entry. -/
def sequence (delays : List (Option Duration)) : Policy :=
  fun h => if h.total = 0 then none else delays[h.total - 1]?.join

/-- Retries until the runtime turns out to be incompatible. -/
def untilIncompatible (delay : Duration) : Policy :=
  fun h =>
    match h.last? with
    | some (.handshake (.incompatible _ _)) => none
    | _ => some delay

structure Backoff where
  initial : Duration
  limit : Duration
  multiplier : Binary64 := Binary64.two
  maxRetries : Option UInt32 := none
  deriving DecidableEq, Repr

namespace Backoff

/-- One second, doubling up to one minute, forever. -/
def standard : Backoff where
  initial := Duration.ofMillis 1000
  limit := Duration.ofMillis 60000

/-- Multipliers below one, and what is no number, count as one. -/
def withMultiplier (b : Backoff) (multiplier : Binary64) : Backoff :=
  { b with multiplier := if multiplier.atLeastOne then multiplier else Binary64.one }

def maxExponent : Nat := 2_147_483_647

/-- Seconds before retry number `retry`, counted from one, without the cap. -/
def seconds (b : Backoff) (retry : Nat) : Binary64 :=
  (Binary64.ofDuration b.initial).mul (b.multiplier.pow (min (retry - 1) maxExponent))

/-- The cap also stands in for a product that is no finite number. -/
def capped (b : Backoff) (retry : Nat) : Bool :=
  let s := b.seconds retry
  !s.isFinite || s.atLeastNonneg (Binary64.ofDuration b.limit)

def delay (b : Backoff) (retry : Nat) : Duration :=
  if b.capped retry then b.limit
  else (b.seconds retry).toDuration?.getD b.limit

def policy (b : Backoff) : Policy :=
  fun h =>
    if exhausted b.maxRetries h then none else some (b.delay (max h.sinceConnected 1))

end Backoff
end Dialback.Retry
