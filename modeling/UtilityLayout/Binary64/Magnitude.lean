/-! Magnitudes of the finite binary64 numbers, counted in units of 2^-1074. The unit is the least
positive number, so every finite magnitude is a whole number of units and the order is the order of
`Nat`. Rounding takes an exact quotient of naturals to the nearest magnitude; nothing is rounded twice. -/
namespace UtilityLayout

def unitBits : Nat := 1074

def wholeBits : Nat := 1024

def unitsPerOne : Nat := Nat.pow 2 unitBits

def unitsLimit : Nat := Nat.pow 2 (unitBits + wholeBits)

structure Magnitude where
  units : Nat
  significant : ∃ significand exponent,
    significand < Nat.pow 2 53 ∧ units = significand * Nat.pow 2 exponent
  bounded : units < unitsLimit
  deriving DecidableEq, Repr

def roundEven (numerator denominator : Nat) : Nat :=
  let quotient := numerator / denominator
  let rest := numerator % denominator
  if 2 * rest < denominator || (2 * rest == denominator && quotient % 2 == 0) then quotient
  else quotient + 1

def roundHalfUp (numerator denominator : Nat) : Nat :=
  (2 * numerator + denominator) / (2 * denominator)

theorem unitsLimitPositive : 0 < unitsLimit := by
  unfold unitsLimit
  generalize unitBits + wholeBits = bits
  exact Nat.two_pow_pos bits

theorem unitsPerOnePositive : 0 < unitsPerOne := by
  unfold unitsPerOne
  generalize unitBits = bits
  exact Nat.two_pow_pos bits

theorem roundEvenUpper (numerator denominator : Nat) :
    roundEven numerator denominator ≤ numerator / denominator + 1 := by
  simp only [roundEven]
  split <;> omega

theorem roundEvenLower (numerator denominator : Nat) :
    numerator / denominator ≤ roundEven numerator denominator := by
  simp only [roundEven]
  split <;> omega

namespace Magnitude

@[ext] theorem unitsExt {a b : Magnitude} (h : a.units = b.units) : a = b := by
  cases a; cases b; cases h; rfl

def zero : Magnitude :=
  ⟨0, ⟨0, 0, by decide, by decide⟩, unitsLimitPositive⟩

def surplusBits (units : Nat) : Nat :=
  units.log2 - 52

def roundUnits (numerator denominator : Nat) : Nat :=
  let surplus := surplusBits (numerator / denominator)
  roundEven numerator (denominator * Nat.pow 2 surplus) * Nat.pow 2 surplus

theorem significandBound (numerator denominator : Nat) :
    roundEven numerator (denominator * Nat.pow 2 (surplusBits (numerator / denominator))) ≤
      Nat.pow 2 53 := by
  simp only [Nat.pow_eq]
  refine Nat.le_trans (roundEvenUpper _ _) ?_
  rw [← Nat.div_div_eq_div_mul]
  have small := @Nat.lt_log2_self (numerator / denominator)
  have wide : numerator / denominator < 2 ^ 53 * 2 ^ surplusBits (numerator / denominator) := by
    rw [← Nat.pow_add]
    refine Nat.lt_of_lt_of_le small (Nat.pow_le_pow_right (by decide) ?_)
    simp only [surplusBits]
    omega
  have := (Nat.div_lt_iff_lt_mul (Nat.two_pow_pos _)).2 wide
  omega

theorem roundUnitsSignificant (numerator denominator : Nat) :
    ∃ significand exponent, significand < Nat.pow 2 53 ∧
      roundUnits numerator denominator = significand * Nat.pow 2 exponent := by
  have le := significandBound numerator denominator
  rcases Nat.lt_or_eq_of_le le with small | full
  · exact ⟨_, _, small, rfl⟩
  · refine ⟨Nat.pow 2 52, surplusBits (numerator / denominator) + 1, by decide, ?_⟩
    simp only [roundUnits, full]
    generalize surplusBits (numerator / denominator) = surplus
    have twice : Nat.pow 2 (surplus + 1) = Nat.pow 2 surplus * 2 := rfl
    rw [twice]
    generalize Nat.pow 2 surplus = step
    simp only [Nat.pow_eq]
    omega

theorem roundUnitsPositive {numerator denominator : Nat} (positive : 0 < denominator)
    (one : denominator ≤ numerator) : 0 < roundUnits numerator denominator := by
  have quotient : numerator / denominator ≠ 0 := Nat.ne_of_gt (Nat.div_pos one positive)
  have below : 2 ^ surplusBits (numerator / denominator) ≤ numerator / denominator :=
    Nat.le_trans (Nat.pow_le_pow_right (by decide) (Nat.sub_le _ _)) (Nat.log2_self_le quotient)
  have rounded := roundEvenLower numerator (denominator * 2 ^ surplusBits (numerator / denominator))
  rw [← Nat.div_div_eq_div_mul] at rounded
  have significand := Nat.lt_of_lt_of_le (Nat.div_pos below (Nat.two_pow_pos _)) rounded
  exact Nat.mul_pos significand (Nat.two_pow_pos _)

def ofQuotient? (numerator denominator : Nat) : Option Magnitude :=
  if bounded : roundUnits numerator denominator < unitsLimit then
    some ⟨_, roundUnitsSignificant numerator denominator, bounded⟩
  else none

theorem roundUnitsExact (m : Magnitude) : roundUnits m.units 1 = m.units := by
  obtain ⟨units, ⟨significand, exponent, small, rfl⟩, bounded⟩ := m
  simp only [roundUnits, Nat.div_one, Nat.one_mul, Nat.pow_eq] at small ⊢
  have divides : 2 ^ surplusBits (significand * 2 ^ exponent) ∣ significand * 2 ^ exponent := by
    rcases Nat.eq_zero_or_pos significand with rfl | pos
    · simp
    refine Nat.dvd_trans (Nat.pow_dvd_pow 2 ?_) (Nat.dvd_mul_left _ _)
    have size : (significand * 2 ^ exponent).log2 < 53 + exponent := by
      rw [Nat.log2_lt (Nat.ne_of_gt (Nat.mul_pos pos (Nat.two_pow_pos _))), Nat.pow_add]
      exact Nat.mul_lt_mul_of_pos_right small (Nat.two_pow_pos _)
    simp only [surplusBits]
    omega
  obtain ⟨quotient, same⟩ := divides
  have positive : 0 < 2 ^ surplusBits (significand * 2 ^ exponent) := Nat.two_pow_pos _
  generalize 2 ^ surplusBits (significand * 2 ^ exponent) = step at same positive
  rw [same]
  simp only [roundEven, Nat.mul_div_cancel_left _ positive, Nat.mul_mod_right]
  simp [positive, Nat.mul_comm]

end Magnitude
end UtilityLayout
