import UtilityLayout.Binary64.Decimal

/-! How far rounding goes. A quotient of many units is changed by at most one part in 2^53, and one that is a number
already is not changed at all. -/
namespace UtilityLayout

def fineness : Nat := Nat.pow 2 53

theorem roundEvenNear (numerator : Nat) {denominator : Nat} (positive : 0 < denominator) :
    2 * (roundEven numerator denominator * denominator) ≤ 2 * numerator + denominator ∧
      2 * numerator ≤ 2 * (roundEven numerator denominator * denominator) + denominator := by
  have whole := Nat.div_add_mod' numerator denominator
  have rest := Nat.mod_lt numerator positive
  have next : (numerator / denominator + 1) * denominator = numerator / denominator * denominator + denominator :=
    Nat.succ_mul _ _
  simp only [roundEven]
  split
  · rename_i low
    have low : 2 * (numerator % denominator) ≤ denominator := by
      simp only [Bool.or_eq_true, Bool.and_eq_true, decide_eq_true_eq, beq_iff_eq] at low
      omega
    omega
  · rename_i high
    have high : denominator ≤ 2 * (numerator % denominator) := by
      simp only [Bool.or_eq_true, Bool.and_eq_true, decide_eq_true_eq, beq_iff_eq, not_or] at high
      omega
    omega

theorem roundEvenScaled (numerator denominator : Nat) {scale : Nat} (positive : 0 < scale) :
    roundEven (numerator * scale) (denominator * scale) = roundEven numerator denominator := by
  have twice : 2 * (numerator % denominator * scale) = 2 * (numerator % denominator) * scale :=
    (Nat.mul_assoc _ _ _).symm
  have tie : (2 * (numerator % denominator) * scale == denominator * scale) =
      (2 * (numerator % denominator) == denominator) := by
    rw [Bool.eq_iff_iff, beq_iff_eq, beq_iff_eq]
    exact Nat.mul_right_cancel_iff positive
  simp only [roundEven, Nat.mul_div_mul_right _ _ positive, Nat.mul_mod_mul_right, twice, tie,
    Nat.mul_lt_mul_right positive]

theorem roundHalfUpPasses (numerator : Nat) {denominator : Nat} (positive : 0 < denominator) (k : Nat) :
    k < roundHalfUp numerator denominator ↔ (2 * k + 1) * denominator ≤ 2 * numerator := by
  have product : (k + 1) * (2 * denominator) = (2 * k + 1) * denominator + denominator := by
    grind
  rw [roundHalfUp, ← Nat.succ_le_iff, Nat.succ_eq_add_one, Nat.le_div_iff_mul_le (by omega), product]
  omega

namespace Magnitude

def Near (units numerator denominator : Nat) : Prop :=
  fineness * (units * denominator) ≤ (fineness + 1) * numerator ∧
    (fineness - 1) * numerator ≤ fineness * (units * denominator)

theorem roundUnitsNear {numerator denominator : Nat} (positive : 0 < denominator)
    (many : denominator * Nat.pow 2 52 ≤ numerator) :
    Near (roundUnits numerator denominator) numerator denominator := by
  have quotient : 2 ^ 52 ≤ numerator / denominator := by
    rw [Nat.le_div_iff_mul_le positive, Nat.mul_comm]
    exact many
  have some : numerator / denominator ≠ 0 := by
    have := Nat.two_pow_pos 52
    omega
  have bits : 52 ≤ (numerator / denominator).log2 := (Nat.le_log2 some).mpr quotient
  -- The step of the grid is no more than one part of 2^52 of the quotient.
  have step : denominator * 2 ^ surplusBits (numerator / denominator) * 2 ^ 52 ≤ numerator := by
    have width : surplusBits (numerator / denominator) + 52 = (numerator / denominator).log2 := by
      simp only [surplusBits]
      omega
    rw [Nat.mul_assoc, ← Nat.pow_add, width]
    exact Nat.le_trans (Nat.mul_le_mul_left _ (Nat.log2_self_le some)) (Nat.mul_div_le _ _)
  have near := roundEvenNear numerator (Nat.mul_pos positive (Nat.two_pow_pos (surplusBits (numerator / denominator))))
  have same : roundUnits numerator denominator * denominator =
      roundEven numerator (denominator * 2 ^ surplusBits (numerator / denominator)) *
        (denominator * 2 ^ surplusBits (numerator / denominator)) := by
    simp only [roundUnits, Nat.pow_eq]
    rw [Nat.mul_assoc, Nat.mul_comm (2 ^ _)]
  rw [Near, same]
  simp only [fineness, Nat.pow_eq]
  omega

theorem roundUnitsScaled (numerator denominator : Nat) {scale : Nat} (positive : 0 < scale) :
    roundUnits (numerator * scale) (denominator * scale) = roundUnits numerator denominator := by
  simp only [roundUnits, Nat.mul_div_mul_right _ _ positive]
  rw [Nat.mul_right_comm, roundEvenScaled _ _ positive]

theorem roundUnitsNone {denominator : Nat} (positive : 0 < denominator) : roundUnits 0 denominator = 0 := by
  have step : 0 < denominator * Nat.pow 2 (surplusBits 0) := Nat.mul_pos positive (Nat.two_pow_pos (surplusBits 0))
  have zero : roundEven 0 (denominator * Nat.pow 2 (surplusBits 0)) = 0 := by
    generalize denominator * Nat.pow 2 (surplusBits 0) = width at step ⊢
    simp [roundEven, step]
  rw [roundUnits, Nat.zero_div, zero, Nat.zero_mul]

theorem nearTwice {units numerator denominator : Nat} (near : Near units numerator denominator) :
    units * denominator ≤ 2 * numerator := by
  have upper := near.1
  simp only [fineness, Nat.pow_eq] at upper
  omega

theorem roundUnitsKept {units significand exponent : Nat} (same : units = significand * Nat.pow 2 exponent)
    (small : significand < Nat.pow 2 53) (bounded : units < unitsLimit) : roundUnits units 1 = units :=
  roundUnitsExact ⟨units, ⟨significand, exponent, small, same⟩, bounded⟩

end Magnitude

theorem limitUnits : unitsLimit = unitsPerOne * Nat.pow 2 wholeBits := by
  unfold unitsLimit unitsPerOne
  generalize unitBits = m
  generalize wholeBits = n
  exact Nat.pow_add 2 m n

theorem unitsSplit {few rest : Nat} (bits : unitBits = few + rest) : unitsPerOne = Nat.pow 2 few * Nat.pow 2 rest := by
  unfold unitsPerOne
  rw [bits]
  exact Nat.pow_add 2 few rest

theorem unitsBounded {units : Nat} (few : units ≤ Nat.pow 2 62 * unitsPerOne) : units < unitsLimit := by
  have power : Nat.pow 2 62 < Nat.pow 2 wholeBits := by
    have many : 62 < wholeBits := by decide
    generalize wholeBits = bits at many ⊢
    exact Nat.pow_lt_pow_right (by decide) many
  rw [limitUnits, Nat.mul_comm]
  exact Nat.lt_of_le_of_lt few (Nat.mul_lt_mul_of_pos_right power unitsPerOnePositive)

theorem manyUnits {bits : Nat} (few : bits ≤ unitBits) : Nat.pow 2 bits ≤ unitsPerOne := by
  unfold unitsPerOne
  generalize unitBits = most at few
  exact Nat.pow_le_pow_right (by decide) few

theorem wholeBounded {n : Nat} (small : n ≤ fineness) : n * unitsPerOne < unitsLimit := by
  have power : fineness ≤ Nat.pow 2 62 := by decide
  exact unitsBounded (Nat.mul_le_mul_right _ (Nat.le_trans small power))

theorem wholeKept {n : Nat} (small : n ≤ fineness) : Magnitude.roundUnits (n * unitsPerOne) 1 = n * unitsPerOne := by
  have bounded := wholeBounded small
  rcases Nat.lt_or_eq_of_le small with below | same
  · have power : n * unitsPerOne = n * Nat.pow 2 unitBits := by unfold unitsPerOne; rfl
    exact Magnitude.roundUnitsKept power below bounded
  · have power : n * unitsPerOne = 1 * Nat.pow 2 (53 + unitBits) := by
      rw [same, Nat.one_mul]
      unfold fineness unitsPerOne
      generalize unitBits = bits
      exact (Nat.pow_add 2 53 bits).symm
    exact Magnitude.roundUnitsKept power (by decide) bounded

namespace Binary64

theorem ofQuotientUnits (negative : Bool) {numerator denominator : Nat}
    (bounded : Magnitude.roundUnits numerator denominator < unitsLimit) :
    ∃ m, ofQuotient negative numerator denominator = .finite negative m ∧
      m.units = Magnitude.roundUnits numerator denominator := by
  have found : Magnitude.ofQuotient? numerator denominator =
      some ⟨_, Magnitude.roundUnitsSignificant numerator denominator, bounded⟩ := dif_pos bounded
  unfold ofQuotient
  rw [found]
  exact ⟨_, rfl, rfl⟩

theorem ofQuotientWhole (negative : Bool) {n : Nat} (small : n ≤ fineness) :
    ∃ m, ofQuotient negative (n * unitsPerOne) 1 = .finite negative m ∧ m.units = n * unitsPerOne := by
  have kept := wholeKept small
  obtain ⟨m, same, units⟩ := ofQuotientUnits negative (kept.symm ▸ wholeBounded small)
  exact ⟨m, same, units.trans kept⟩

theorem ofNatUnits {n : Nat} (small : n ≤ fineness) : ∃ m, ofNat n = .finite false m ∧ m.units = n * unitsPerOne := by
  unfold ofNat
  exact ofQuotientWhole false small

end Binary64

theorem Decimal.wholeNumber (n : Nat) : Decimal.toBinary64 ⟨false, n, 0⟩ = .ofNat n := by
  rcases Nat.eq_zero_or_pos n with rfl | some
  · obtain ⟨m, made, units⟩ := Binary64.ofNatUnits (Nat.zero_le fineness)
    have zero : m = .zero := Magnitude.unitsExt (units.trans (Nat.zero_mul _))
    rw [made, zero]
    rfl
  · have inRange : ¬overflowExponent ≤ 0 := by decide
    rw [toBinary64, if_neg (Nat.ne_of_gt some), if_pos (Int.le_refl 0), if_neg inRange]
    simp [Binary64.ofNat]

end UtilityLayout
