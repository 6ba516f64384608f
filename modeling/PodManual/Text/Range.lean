/-!
# Ranges of code points

A class of characters given by a table is a list of closed ranges of code
points.
-/

namespace PodManual
namespace Text

abbrev CodeRange := Nat × Nat

def inRanges (ranges : List CodeRange) (c : Char) : Bool :=
  ranges.any fun range => range.1 ≤ c.toNat && c.toNat ≤ range.2

end Text
end PodManual
