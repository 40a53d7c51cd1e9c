/-!
# Sets of code points

A set of characters given by the closed intervals of code points that it consists of. The tables of
the Unicode properties are such sets.
-/

namespace RouteStubs.Text

/-- A set of code points: the union of the closed intervals listed. -/
abbrev CodeRanges : Type := Array (Nat × Nat)

/-- The character lies in one of the intervals. -/
def CodeRanges.covers (ranges : CodeRanges) (c : Char) : Bool :=
  ranges.any fun (first, last) => first ≤ c.toNat && c.toNat ≤ last

end RouteStubs.Text
