/-!
# ChainIndex.Text.Ranges

Sets of characters that are given as ranges of code points, both ends included.
-/

namespace ChainIndex.Text

/-- Whether a code point lies in one of the ranges. -/
def inRanges (ranges : List (Nat × Nat)) (n : Nat) : Bool :=
  ranges.any fun (low, high) => low ≤ n && n ≤ high

end ChainIndex.Text
