import Dialback.Uuid

/-!
Fresh identifiers. A source counts from its seed and spreads the count over the 122 free bits of an
identifier of version four, so no two of its first `2 ^ 122` identifiers are equal and none is null.
-/
namespace Dialback.Uuid

structure Source where
  seed : Nat
  deriving Repr

/-- Marks 122 bits as an identifier of version four, variant one. -/
def stamp (n : Nat) : Uuid :=
  let low := n % 0x40000000_00000000
  let middle := n / 0x40000000_00000000 % 0x1000
  let high := n / 0x400_00000000_00000000 % 0x10000_00000000
  ofNat ((high * 0x10000 + 0x4000 + middle) * 0x1_00000000_00000000 + 0x80000000_00000000 + low)

def Source.next (s : Source) : Uuid × Source :=
  (stamp s.seed, ⟨s.seed + 1⟩)

end Dialback.Uuid
