/-
# Classes of characters

A class is given by closed ranges of code points.
-/

namespace CheatCode
namespace Text

/-- Whether a character lies in one of some ranges. -/
def inRanges (ranges : List (Nat × Nat)) (c : Char) : Bool :=
  ranges.any fun range => range.1 ≤ c.toNat && c.toNat ≤ range.2

end Text
end CheatCode
