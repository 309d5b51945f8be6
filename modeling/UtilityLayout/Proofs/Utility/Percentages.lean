import Mathlib.Order.Nat
import UtilityLayout.Proofs.Binary64.Rounding
import UtilityLayout.Utility.Reading

/-! Fractions as percentages. The quotient is rounded to a number, a hundred times that is rounded again, and only then
a whole percentage is taken. The two roundings are seen exactly where a half lies between the quotient and their
result. -/
namespace UtilityLayout
open Magnitude (Near)

namespace Expression

def quotientUnits (a b : Nat) : Nat :=
  Magnitude.roundUnits (a * unitsPerOne) b

def percentUnits (a b : Nat) : Nat :=
  Magnitude.roundUnits (100 * quotientUnits a b) 1

def percentTaken (a b : Nat) : Nat :=
  roundHalfUp (percentUnits a b) unitsPerOne

def percentNearest (a b : Nat) : Nat :=
  roundHalfUp (100 * a) b

def percentText (n : Nat) : String :=
  "'" ++ toString n ++ "%'"

section Near
variable {a b : Nat} (positive : 0 < b) (small : b ≤ fineness)
include positive small

theorem quotientNear : Near (quotientUnits a b) (a * unitsPerOne) b := by
  rcases Nat.eq_zero_or_pos a with rfl | some
  · simp [Near, quotientUnits, Magnitude.roundUnitsNone positive]
  · refine Magnitude.roundUnitsNear positive ?_
    have many : Nat.pow 2 105 ≤ unitsPerOne := manyUnits (by decide)
    have least : 1 * unitsPerOne ≤ a * unitsPerOne := Nat.mul_le_mul_right _ some
    simp only [fineness, Nat.pow_eq] at small many ⊢
    omega

theorem percentNear : Near (percentUnits a b) (100 * quotientUnits a b) 1 := by
  have near := @quotientNear a b positive small
  rcases Nat.eq_zero_or_pos a with rfl | some
  · simp [Near, percentUnits, quotientUnits, Magnitude.roundUnitsNone positive, Magnitude.roundUnitsNone Nat.one_pos]
  · refine Magnitude.roundUnitsNear Nat.one_pos ?_
    have many : Nat.pow 2 107 ≤ unitsPerOne := manyUnits (by decide)
    have least : 1 * unitsPerOne ≤ a * unitsPerOne := Nat.mul_le_mul_right _ some
    have wide : quotientUnits a b * b ≤ quotientUnits a b * fineness := Nat.mul_le_mul_left _ small
    have lower := near.2
    simp only [fineness, Nat.pow_eq] at small many lower wide ⊢
    omega

theorem percentBounds :
    fineness * fineness * (percentUnits a b * b) ≤ (fineness + 1) * (fineness + 1) * (100 * (a * unitsPerOne)) ∧
      (fineness - 1) * (fineness - 1) * (100 * (a * unitsPerOne)) ≤ fineness * fineness * (percentUnits a b * b) := by
  have first := @quotientNear a b positive small
  have second := @percentNear a b positive small
  have upper := Nat.mul_le_mul_right b second.1
  have lower := Nat.mul_le_mul_right b second.2
  simp only [Near, fineness, Nat.pow_eq, Nat.mul_one, Nat.mul_assoc] at first upper lower ⊢
  omega

theorem quotientFew (whole : a ≤ fineness) : quotientUnits a b ≤ 2 * (fineness * unitsPerOne) := by
  have near := Magnitude.nearTwice (@quotientNear a b positive small)
  have least : quotientUnits a b ≤ quotientUnits a b * b := Nat.le_mul_of_pos_right _ positive
  have most : a * unitsPerOne ≤ fineness * unitsPerOne := Nat.mul_le_mul_right _ whole
  omega

theorem percentFew (whole : a ≤ fineness) : percentUnits a b ≤ 400 * (fineness * unitsPerOne) := by
  have near := Magnitude.nearTwice (@percentNear a b positive small)
  have few := quotientFew positive small whole
  omega

theorem quotientBounded (whole : a ≤ fineness) : quotientUnits a b < unitsLimit := by
  refine unitsBounded (Nat.le_trans (quotientFew positive small whole) ?_)
  rw [← Nat.mul_assoc]
  exact Nat.mul_le_mul_right _ (by decide)

theorem percentBounded (whole : a ≤ fineness) : percentUnits a b < unitsLimit := by
  refine unitsBounded (Nat.le_trans (percentFew positive small whole) ?_)
  rw [← Nat.mul_assoc]
  exact Nat.mul_le_mul_right _ (by decide)

end Near

theorem digitsUnits {digits : List Char} (small : Text.digitsValue digits ≤ fineness) :
    ∃ m, Numeral.ofDigits digits = .finite false m ∧ m.units = Text.digitsValue digits * unitsPerOne := by
  rw [Numeral.ofDigits, Decimal.wholeNumber]
  exact Binary64.ofNatUnits small

theorem hundredUnits : ∃ m, (100 : Binary64) = .finite false m ∧ m.units = 100 * unitsPerOne :=
  @Binary64.ofNatUnits 100 (by decide)

theorem divUnits {a b : Nat} {m n : Magnitude} (top : m.units = a * unitsPerOne) (bottom : n.units = b * unitsPerOne)
    (positive : 0 < b) (bounded : quotientUnits a b < unitsLimit) :
    ∃ q, Binary64.finite false m / .finite false n = .finite false q ∧ q.units = quotientUnits a b := by
  have some : n.units ≠ 0 := by
    rw [bottom]
    exact Nat.ne_of_gt (Nat.mul_pos positive unitsPerOnePositive)
  have same : Magnitude.roundUnits (m.units * unitsPerOne) n.units = quotientUnits a b := by
    rw [top, bottom, Magnitude.roundUnitsScaled _ _ unitsPerOnePositive, quotientUnits]
  obtain ⟨q, made, units⟩ := Binary64.ofQuotientUnits false (same.symm ▸ bounded)
  refine ⟨q, ?_, units.trans same⟩
  rw [← made]
  exact if_neg some

theorem mulFinite (m n : Magnitude) :
    Binary64.finite false m * .finite false n = .ofQuotient false (m.units * n.units) unitsPerOne := by
  change Binary64.mul _ _ = _
  simp only [Binary64.mul]
  rfl

theorem mulHundredUnits {a b : Nat} {q : Magnitude} (units : q.units = quotientUnits a b)
    (bounded : percentUnits a b < unitsLimit) :
    ∃ p, Binary64.finite false q * 100 = .finite false p ∧ p.units = percentUnits a b := by
  obtain ⟨hundred, number, value⟩ := hundredUnits
  have scaled := Magnitude.roundUnitsScaled (100 * quotientUnits a b) 1 unitsPerOnePositive
  have same : Magnitude.roundUnits (q.units * hundred.units) unitsPerOne = percentUnits a b := by
    rw [units, value, ← Nat.mul_assoc, Nat.mul_comm (quotientUnits a b), percentUnits, ← scaled, Nat.one_mul]
  obtain ⟨p, made, told⟩ := Binary64.ofQuotientUnits false (same.symm ▸ bounded)
  refine ⟨p, ?_, told.trans same⟩
  rw [number, mulFinite, made]

theorem fixedNone (numerator denominator : Nat) :
    fixedText 0 false numerator denominator = toString (roundHalfUp numerator denominator) := by
  simp only [fixedText, Nat.pow_zero, Nat.pow_eq, Nat.mul_one, Nat.div_one, if_true, List.append_nil, Bool.false_and]
  rfl

theorem percentageDigits {numerator denominator : List Char} (positive : 0 < Text.digitsValue denominator)
    (top : Text.digitsValue numerator ≤ fineness) (bottom : Text.digitsValue denominator ≤ fineness) :
    percentage (Numeral.ofDigits numerator / Numeral.ofDigits denominator) =
      percentText (percentTaken (Text.digitsValue numerator) (Text.digitsValue denominator)) := by
  obtain ⟨m, first, units⟩ := digitsUnits top
  obtain ⟨n, second, others⟩ := digitsUnits bottom
  obtain ⟨q, quotient, few⟩ := divUnits units others positive (quotientBounded positive bottom top)
  obtain ⟨p, percent, many⟩ := mulHundredUnits few (percentBounded positive bottom top)
  rw [first, second, quotient, percentage, percent]
  simp only [fixedNone, many]
  rfl

theorem takenPasses (a b k : Nat) :
    k < percentTaken a b ↔ (2 * k + 1) * unitsPerOne ≤ 2 * percentUnits a b :=
  roundHalfUpPasses _ unitsPerOnePositive k

section Halves
variable {a b : Nat} (positive : 0 < b)
include positive

theorem nearestPasses (k : Nat) : k < percentNearest a b ↔ (2 * k + 1) * b ≤ 200 * a := by
  have twice : 2 * (100 * a) = 200 * a := by omega
  rw [percentNearest, roundHalfUpPasses _ positive, twice]

theorem takenNearest : percentTaken a b = percentNearest a b ↔
    ∀ k, (2 * k + 1) * b ≤ 200 * a ↔ (2 * k + 1) * unitsPerOne ≤ 2 * percentUnits a b := by
  constructor
  · intro same k
    rw [← nearestPasses positive, ← takenPasses, same]
  · intro same
    refine eq_of_forall_lt_iff fun k => ?_
    rw [takenPasses, nearestPasses positive]
    exact (same k).symm

end Halves

def FarFromHalves (a b : Nat) : Prop :=
  ∀ k, 200 * a * (2 * fineness + 1) <
    fineness * fineness * ((200 * a - (2 * k + 1) * b) + ((2 * k + 1) * b - 200 * a))

theorem lessScaled {c d e m n r scale : Nat} (less : c * m + d * n < e * r) (positive : 0 < scale) :
    c * (m * scale) + d * (n * scale) < e * (r * scale) := by
  have scaled := Nat.mul_lt_mul_of_pos_right less positive
  simpa only [Nat.add_mul, Nat.mul_assoc] using scaled

section Bounded
variable {a b : Nat} (positive : 0 < b) (small : b ≤ fineness)
include positive small

theorem takenFar (far : FarFromHalves a b) : percentTaken a b = percentNearest a b := by
  rw [takenNearest positive]
  intro k
  have apart := far k
  have ⟨upper, lower⟩ := @percentBounds a b positive small
  have flat : 200 * a * unitsPerOne = 200 * (a * unitsPerOne) := Nat.mul_assoc _ _ _
  have turned : (2 * k + 1) * unitsPerOne * b = (2 * k + 1) * b * unitsPerOne := Nat.mul_right_comm _ _ _
  have twice : 2 * percentUnits a b * b = 2 * (percentUnits a b * b) := Nat.mul_assoc _ _ _
  by_cases below : (2 * k + 1) * b ≤ 200 * a
  · have less : fineness * fineness * ((2 * k + 1) * b) + (2 * fineness + 1) * (200 * a) <
        fineness * fineness * (200 * a) := by
      simp only [fineness, Nat.pow_eq] at apart ⊢
      omega
    have scaled := lessScaled less unitsPerOnePositive
    refine iff_of_true below (Nat.le_of_mul_le_mul_right ?_ positive)
    rw [turned, twice]
    simp only [flat, fineness, Nat.pow_eq] at scaled lower
    omega
  · have less : fineness * fineness * (200 * a) + (2 * fineness + 1) * (200 * a) <
        fineness * fineness * ((2 * k + 1) * b) := by
      simp only [fineness, Nat.pow_eq] at apart ⊢
      omega
    have scaled := lessScaled less unitsPerOnePositive
    refine iff_of_false below fun passed => ?_
    have passed := Nat.mul_le_mul_right b passed
    rw [turned, twice] at passed
    simp only [flat, fineness, Nat.pow_eq] at scaled upper
    omega

theorem takenSmall (few : a ≤ Nat.pow 2 44) (noHalf : ∀ k, 200 * a ≠ (2 * k + 1) * b) :
    percentTaken a b = percentNearest a b := by
  refine takenFar positive small fun k => ?_
  have other := noHalf k
  simp only [fineness, Nat.pow_eq] at few ⊢
  omega

theorem takenWithinOne (few : 100 * a ≤ Nat.pow 2 51 * b) :
    percentTaken a b ≤ percentNearest a b + 1 ∧ percentNearest a b ≤ percentTaken a b + 1 := by
  have ⟨upper, lower⟩ := @percentBounds a b positive small
  have few := Nat.mul_le_mul_right unitsPerOne few
  have some := Nat.mul_pos positive unitsPerOnePositive
  have flat : 200 * a * unitsPerOne = 200 * (a * unitsPerOne) := Nat.mul_assoc _ _ _
  have twice : 2 * percentUnits a b * b = 2 * (percentUnits a b * b) := Nat.mul_assoc _ _ _
  have next (n : Nat) :
      (2 * (n + 1) + 1) * b * unitsPerOne = (2 * n + 1) * b * unitsPerOne + 2 * (b * unitsPerOne) := by
    grind
  have turned (n : Nat) : (2 * n + 1) * unitsPerOne * b = (2 * n + 1) * b * unitsPerOne := Nat.mul_right_comm _ _ _
  simp only [fineness, Nat.pow_eq, Nat.mul_assoc] at upper lower few
  constructor
  · refine Nat.le_of_not_lt fun passed => ?_
    have above := mt (nearestPasses positive _).mpr (Nat.lt_irrefl (percentNearest a b))
    have above := Nat.mul_lt_mul_of_pos_right (Nat.lt_of_not_le above) unitsPerOnePositive
    have passed := Nat.mul_le_mul_right b ((takenPasses a b _).mp passed)
    rw [turned, next, twice] at passed
    rw [flat] at above
    omega
  · refine Nat.le_of_not_lt fun passed => ?_
    have above := mt (takenPasses a b _).mpr (Nat.lt_irrefl (percentTaken a b))
    have above := Nat.mul_lt_mul_of_pos_right (Nat.lt_of_not_le above) positive
    have passed := Nat.mul_le_mul_right unitsPerOne ((nearestPasses positive _).mp passed)
    rw [next, flat] at passed
    rw [turned, twice] at above
    omega

end Bounded

section Eighths
variable {a b c : Nat} (positive : 0 < b) (eighths : 8 * a = b * c) (small : 25 * c < fineness)
include positive eighths small

theorem quotientEighths : 8 * quotientUnits a b = c * unitsPerOne := by
  obtain ⟨rest, bits⟩ : ∃ rest, unitBits = 3 + rest := ⟨1071, rfl⟩
  have eight : unitsPerOne = 8 * Nat.pow 2 rest := unitsSplit bits
  have few : c < fineness := Nat.lt_of_le_of_lt (Nat.le_mul_of_pos_left c (by decide)) small
  have bounded : c * Nat.pow 2 rest < unitsLimit := by
    refine Nat.lt_of_le_of_lt (Nat.mul_le_mul_left c ?_) (wholeBounded (Nat.le_of_lt few))
    omega
  have kept : Magnitude.roundUnits (c * Nat.pow 2 rest) 1 = c * Nat.pow 2 rest :=
    Magnitude.roundUnitsKept rfl few bounded
  have scaled := Magnitude.roundUnitsScaled (c * Nat.pow 2 rest) 1 positive
  rw [quotientUnits, eight]
  generalize Nat.pow 2 rest = step at kept scaled
  have units : a * (8 * step) = c * step * b := by grind
  rw [Nat.one_mul, kept] at scaled
  rw [units, scaled]
  grind

theorem percentEighths : 2 * percentUnits a b = 25 * c * unitsPerOne := by
  obtain ⟨rest, bits⟩ : ∃ rest, unitBits = 1 + rest := ⟨1073, rfl⟩
  have two : unitsPerOne = 2 * Nat.pow 2 rest := unitsSplit bits
  have quotient := quotientEighths positive eighths small
  have units : 100 * quotientUnits a b = 25 * c * Nat.pow 2 rest := by
    rw [two] at quotient
    generalize Nat.pow 2 rest = step at quotient
    grind
  have bounded : 100 * quotientUnits a b < unitsLimit := by
    rw [units]
    refine Nat.lt_of_le_of_lt (Nat.mul_le_mul_left _ ?_) (wholeBounded (Nat.le_of_lt small))
    omega
  rw [percentUnits, Magnitude.roundUnitsKept units small bounded, units, two]
  exact Nat.mul_left_comm _ _ _

end Eighths

theorem takenEighths {a b : Nat} (positive : 0 < b) (eighths : b ∣ 8 * a) (few : 200 * a < fineness * b) :
    percentTaken a b = percentNearest a b := by
  obtain ⟨c, same⟩ := eighths
  have percents : 200 * a = 25 * c * b := by grind
  have small : 25 * c < fineness := by
    rw [percents] at few
    exact Nat.lt_of_mul_lt_mul_right few
  rw [takenNearest positive]
  intro k
  rw [percents, percentEighths positive same small, Nat.mul_le_mul_right_iff positive,
    Nat.mul_le_mul_right_iff unitsPerOnePositive]

end Expression

end UtilityLayout
