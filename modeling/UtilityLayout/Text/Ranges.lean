/-! Sets of characters given by ranges of code points. Tables of the Unicode Character Database are
stated this way; order of the ranges carries no meaning. -/
namespace UtilityLayout.Text

structure CharRange where
  first : Nat
  last : Nat
  deriving DecidableEq, Repr

namespace CharRange

def contains (range : CharRange) (c : Char) : Bool :=
  range.first ≤ c.toNat && c.toNat ≤ range.last

end CharRange

def inRanges (ranges : List CharRange) (c : Char) : Bool :=
  ranges.any (·.contains c)

end UtilityLayout.Text
