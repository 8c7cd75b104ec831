/-!
# Ranges of code points

Properties of characters are given as ascending lists of ranges, both ends included.
-/

namespace Prologue.Text

abbrev Ranges := List (Nat × Nat)

/-- Whether a code point lies in one of the ranges. -/
def Ranges.holds (ranges : Ranges) (code : Nat) : Bool :=
  ranges.any fun range => range.1 ≤ code && code ≤ range.2

end Prologue.Text
