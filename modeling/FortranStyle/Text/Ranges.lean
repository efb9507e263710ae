/-!
# Ranges of code points

Classes of characters are given by tables of ranges, each with both its ends.
-/

namespace FortranStyle.Text

/-- Whether one of the ranges, ends included, holds a code point. -/
def inRanges (ranges : List (Nat × Nat)) (n : Nat) : Bool :=
  ranges.any fun range => range.1 ≤ n && n ≤ range.2

end FortranStyle.Text
