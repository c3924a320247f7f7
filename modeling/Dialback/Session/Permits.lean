/-!
A bounded number of permits and the line of jobs that have asked for one. As many jobs as there
are free permits, counted from the head of the line, may take one, in whatever order they are
scheduled; so nobody is overtaken by a job that asked later.
-/
namespace Dialback.Session

structure Permits where
  free : Nat
  line : List Nat := []
  deriving DecidableEq, Repr

namespace Permits

/-- No semaphore has more permits than this, nor has a queue more room. -/
def most : Nat := 2_305_843_009_213_693_951

def ofCount (n : Nat) : Permits where
  free := n

def ask (p : Permits) (job : Nat) : Permits :=
  { p with line := p.line ++ [job] }

def mayEnter (p : Permits) (job : Nat) : Bool :=
  (p.line.take p.free).contains job

def enter? (p : Permits) (job : Nat) : Option Permits :=
  if p.mayEnter job then some { free := p.free - 1, line := p.line.erase job } else none

def giveBack (p : Permits) : Permits :=
  { p with free := p.free + 1 }

/-- The job leaves the line without a permit. -/
def withdraw (p : Permits) (job : Nat) : Permits :=
  { p with line := p.line.erase job }

end Permits
end Dialback.Session
