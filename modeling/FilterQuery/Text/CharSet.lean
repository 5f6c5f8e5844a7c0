/-!
# Sets of characters

A Unicode property is given by the ranges of code points that have it.
-/

namespace FilterQuery

/-- A set of characters, as ranges of code points, ends included. -/
structure CharSet where
  ranges : Array (Nat × Nat)

namespace CharSet

/-- Whether a character lies in one of the ranges. -/
def contains (s : CharSet) (c : Char) : Bool :=
  s.ranges.any fun r => r.1 ≤ c.toNat && c.toNat ≤ r.2

end CharSet

end FilterQuery
