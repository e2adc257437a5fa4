/-
Sets of characters given as ranges of code points.
-/

namespace Parley.Text

/-- Inclusive ranges of code points in increasing order. -/
abbrev Ranges := List (Nat × Nat)

/-- Whether a character lies in one of the ranges. -/
def Ranges.contains (ranges : Ranges) (c : Char) : Bool :=
  ranges.any fun (low, high) => low ≤ c.toNat && c.toNat ≤ high

end Parley.Text
