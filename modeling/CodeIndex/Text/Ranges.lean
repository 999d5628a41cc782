/-!
# Ranges of characters

A class of characters is a list of closed ranges of code points in ascending order.
-/
namespace CodeIndex.Text

/-- Membership in a list of closed ranges. -/
def inRanges (ranges : List (Nat × Nat)) (c : Char) : Bool :=
  ranges.any fun r => r.1 ≤ c.toNat && c.toNat ≤ r.2

end CodeIndex.Text
