import UtilityLayout.Binary64.Basic
/-! Decimal numerals as pairs of a coefficient and a power of ten, and the binary64 number that each
denotes. Two bounds keep the powers of ten small; they never change an answer. -/
namespace UtilityLayout

structure Decimal where
  negative : Bool
  coefficient : Nat
  exponent : Int
  deriving DecidableEq, Repr

namespace Decimal

def overflowExponent : Int := 309

def underflowBits : Int := -1076

def toBinary64 (d : Decimal) : Binary64 :=
  if d.coefficient = 0 then .finite d.negative .zero
  else if 0 ≤ d.exponent then
    if overflowExponent ≤ d.exponent then .infinite d.negative
    else .ofQuotient d.negative (d.coefficient * Nat.pow 10 d.exponent.toNat * unitsPerOne) 1
  else if d.coefficient.log2 + 1 + 3 * d.exponent < underflowBits then .finite d.negative .zero
  else .ofQuotient d.negative (d.coefficient * unitsPerOne) (Nat.pow 10 (-d.exponent).toNat)

theorem toBinary64NotNan (d : Decimal) : d.toBinary64 ≠ .nan := by
  unfold toBinary64
  split
  · simp
  · split
    · split
      · simp
      · exact Binary64.ofQuotientNotNan _ _ _
    · split
      · simp
      · exact Binary64.ofQuotientNotNan _ _ _

end Decimal
end UtilityLayout
