/-!
# Ranges of characters

A class of characters is given by the ranges of its code points, both ends included.
-/

namespace ShellMetrics.Text

/-- The code point of the character lies in one of the ranges. -/
def inRanges (ranges : List (Nat × Nat)) (c : Char) : Bool :=
  ranges.any fun range ↦ range.1 ≤ c.toNat && c.toNat ≤ range.2

end ShellMetrics.Text
