/-!
Sets of characters given by ranges of code points.
-/

namespace Flowchart.Text

/-- Whether a character lies in one of the ranges; both ends belong to a range. -/
def inRanges (ranges : List (Nat × Nat)) (c : Char) : Bool :=
  ranges.any fun range => range.1 ≤ c.toNat && c.toNat ≤ range.2

end Flowchart.Text
