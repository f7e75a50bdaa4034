/-!
# Sets of code points

A property of characters is tabulated as a list of closed ranges in ascending order.
-/

namespace FileConduit

/-- A set of code points, as closed ranges in ascending order. -/
structure CodePoints where
  ranges : List (Nat × Nat)

namespace CodePoints

def contains (set : CodePoints) (c : Char) : Bool :=
  set.ranges.any fun (first, last) => first ≤ c.toNat && c.toNat ≤ last

end CodePoints

end FileConduit
