import Dialback.Context

/-!
The latest job of each partition. A new job of a partition waits for the one recorded here, so the
jobs of one partition form a chain. Entries of finished jobs can be swept once the table has grown
to its limit; a successor of a finished job need not wait for it anyway.
-/
namespace Dialback.Session

structure Lanes where
  entries : List (PartitionKey × Nat) := []
  deriving DecidableEq, Repr

namespace Lanes

/-- Finished lanes are swept once this many partitions are tracked. -/
def standardLimit : Nat := 256

def empty : Lanes := {}

def size (l : Lanes) : Nat :=
  l.entries.length

def latest? (l : Lanes) (key : PartitionKey) : Option Nat :=
  l.entries.lookup key

/-- Below the limit nothing is swept, and without a limit nothing ever is. -/
def sweep (l : Lanes) (limit : Option Nat) (finished : Nat → Bool) : Lanes :=
  match limit with
  | none => l
  | some n => if n ≤ l.size then ⟨l.entries.filter fun e => !finished e.2⟩ else l

/-- A partition has one entry, that of its newest job. -/
def assign (l : Lanes) (key : PartitionKey) (job : Nat) : Lanes :=
  ⟨(key, job) :: l.entries.filter fun e => e.1 != key⟩

end Lanes
end Dialback.Session
