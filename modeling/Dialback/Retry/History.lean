import Dialback.Fault

/-!
The failed attempts of one registration. Every failure is counted, only the newest ones are kept.
Failures since the last accepted connect are counted apart, so that a backoff can start over after a
healthy connection while the retry budget does not.
-/
namespace Dialback.Retry

/-- Counters stay at this value once they have reached it. -/
def countLimit : Nat := 4_294_967_295

def bump (n : Nat) : Nat :=
  min (n + 1) countLimit

structure History where
  total : Nat := 0
  sinceConnected : Nat := 0
  /-- The failures that are kept, oldest first. -/
  recent : List AttemptFault := []
  capacity : Nat
  deriving DecidableEq, Repr

namespace History

def standardCapacity : Nat := 32

/-- At least one failure is kept. -/
def withCapacity (capacity : Nat) : History where
  capacity := max capacity 1

def empty : History :=
  withCapacity standardCapacity

def record (h : History) (fault : AttemptFault) : History :=
  let kept := if h.recent.length = h.capacity then h.recent.tail else h.recent
  { h with
    total := bump h.total
    sinceConnected := bump h.sinceConnected
    recent := kept ++ [fault] }

/-- An attempt got an accepted connect response. -/
def markConnected (h : History) : History :=
  { h with sinceConnected := 0 }

def isEmpty (h : History) : Bool :=
  h.total == 0

def last? (h : History) : Option AttemptFault :=
  h.recent.getLast?

/-- Of `n` equal failures only so many enter the list as there is room for. -/
def recordTimes (h : History) (fault : AttemptFault) (n : Nat) : History :=
  let kept := h.recent ++ List.replicate (min n h.capacity) fault
  { h with
    total := min (h.total + n) countLimit
    sinceConnected := min (h.sinceConnected + n) countLimit
    recent := kept.drop (kept.length - h.capacity) }

end History
end Dialback.Retry
