/-!
# Sets of characters as ranges

A character class of a standard is a list of closed ranges of code points.
-/

namespace Switchboard.Text

/-- Whether the code point of `c` lies in one of the closed ranges. -/
def inRanges (ranges : List (Nat × Nat)) (c : Char) : Bool :=
  ranges.any fun r => r.1 ≤ c.toNat && c.toNat ≤ r.2

end Switchboard.Text
