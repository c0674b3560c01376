/-!
# Ranges of code points

A class of characters that has no short definition is given as a table of ranges, in increasing
order and with both ends included.
-/

namespace Manifest.Text

def inRanges (ranges : List (Nat × Nat)) (c : Char) : Bool :=
  ranges.any fun range => decide (range.1 ≤ c.toNat) && decide (c.toNat ≤ range.2)

end Manifest.Text
