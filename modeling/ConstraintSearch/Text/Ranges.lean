/-!
Sets of characters given as ranges of code points.
-/

namespace ConstraintSearch.Text

/-- Ranges include both ends. They are listed in ascending order, which nothing relies on. -/
abbrev CodeRanges := List (Nat × Nat)

def CodeRanges.has (ranges : CodeRanges) (c : Char) : Bool :=
  ranges.any fun (first, last) => first ≤ c.toNat && c.toNat ≤ last

end ConstraintSearch.Text
