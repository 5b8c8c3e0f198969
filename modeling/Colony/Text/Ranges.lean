/-!
# Classes of characters as ranges

A class of characters is given by a list of closed ranges of code points.
-/

namespace Colony.Text

def inRanges (ranges : List (Nat × Nat)) (c : Char) : Bool :=
  ranges.any fun range => range.1 ≤ c.toNat && c.toNat ≤ range.2

end Colony.Text
