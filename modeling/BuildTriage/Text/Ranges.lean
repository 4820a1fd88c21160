/-!
# Tables of code points

A character property is held as a list of closed intervals of code points, in ascending order.
-/

namespace BuildTriage.Text

/-- Whether the code point of `c` lies in one of the closed intervals. -/
def inRanges (ranges : List (Nat × Nat)) (c : Char) : Bool :=
  ranges.any fun r => r.1 ≤ c.toNat && c.toNat ≤ r.2

end BuildTriage.Text
