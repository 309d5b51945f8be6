import UtilityLayout.Proofs.Numeral.Wholes

/-! Decimals and the numbers that they are rounded to. That number is nearest to the exact value, and of two that are as
near it is the one with the even significand, so that there is only one. The bounds that keep the powers of ten small
change no answer. -/
namespace UtilityLayout

namespace Magnitude

theorem evenApart {m n : Magnitude} (low : m.EvenSignificand) (high : n.EvenSignificand) (less : m.units < n.units) :
    ∃ k : Magnitude, m.units < k.units ∧ k.units < n.units := by
  obtain ⟨first, bits, even, small, wide, units⟩ := low
  obtain ⟨last, others, again, few, _, same⟩ := high
  have step : 0 < Nat.pow 2 bits := Nat.two_pow_pos bits
  have coarse : bits ≤ others := by
    by_contra fine
    rcases wide with rfl | wide
    · exact fine (Nat.zero_le _)
    · -- With the smaller step, the greater number would be below all that have 53 bits of the other.
      have power := Nat.mul_le_mul_left (Nat.pow 2 52) (twiceStep (Nat.lt_of_not_le fine))
      have coarser : 0 < Nat.pow 2 others := Nat.two_pow_pos others
      have most := Nat.mul_lt_mul_of_pos_right few coarser
      have least := Nat.mul_le_mul_right (Nat.pow 2 bits) wide
      rw [← units] at least
      rw [← same] at most
      simp only [Nat.pow_eq] at power most least
      omega
  obtain ⟨more, rfl⟩ := Nat.exists_eq_add_of_le coarse
  have grid : n.units = last * Nat.pow 2 more * Nat.pow 2 bits := by
    have power : Nat.pow 2 (bits + more) = Nat.pow 2 more * Nat.pow 2 bits := Nat.pow_add' 2 bits more
    rw [same, power, Nat.mul_assoc]
  have twice : last * Nat.pow 2 more % 2 = 0 := by rw [Nat.mul_mod, again, Nat.zero_mul, Nat.zero_mod]
  generalize last * Nat.pow 2 more = top at grid twice
  rw [units, grid] at less
  have between : first + 1 < top := by
    have below := Nat.lt_of_mul_lt_mul_right less
    omega
  have beyond : first * Nat.pow 2 bits < (first + 1) * Nat.pow 2 bits :=
    Nat.mul_lt_mul_of_pos_right (Nat.lt_succ_self first) step
  have before : (first + 1) * Nat.pow 2 bits < top * Nat.pow 2 bits := Nat.mul_lt_mul_of_pos_right between step
  have bounded : (first + 1) * Nat.pow 2 bits < unitsLimit := Nat.lt_trans (grid ▸ before) n.bounded
  have fits : first + 1 < Nat.pow 2 53 := by
    simp only [Nat.pow_eq] at small ⊢
    omega
  exact ⟨⟨_, ⟨first + 1, bits, fits, rfl⟩, bounded⟩, units ▸ beyond, grid ▸ before⟩

theorem roundUnitsVanish {numerator denominator : Nat} (few : 2 * numerator < denominator) :
    roundUnits numerator denominator = 0 := by
  have less : numerator < denominator := by omega
  have bits : surplusBits 0 = 0 := by decide
  have one : Nat.pow 2 0 = 1 := rfl
  simp only [roundUnits, roundEven, Nat.div_eq_of_lt less, bits, one, Nat.mul_one, Nat.mod_eq_of_lt less, few,
    decide_true, Bool.true_or, if_true]

end Magnitude

theorem betweenNearer {x low between high : ℚ} (above : low < between) (below : between < high)
    (tie : |x - low| = |x - high|) : |x - between| < |x - low| := by
  have past := pastMiddle (above.trans below) tie.ge
  have before := beforeMiddle (above.trans below) tie.le
  have gap := le_abs_self (x - low)
  exact abs_lt.mpr ⟨by linarith, by linarith⟩

namespace Binary64

theorem exactInjective {negative : Bool} {m n : Magnitude} (same : exact negative m = exact negative n) : m = n := by
  have unit : (unitsPerOne : ℚ) ≠ 0 := by exact_mod_cast unitsPerOnePositive.ne'
  have quotient : (m.units / unitsPerOne : ℚ) = n.units / unitsPerOne := by
    cases negative
    · exact same
    · exact neg_injective same
  refine Magnitude.unitsExt ?_
  exact_mod_cast (div_left_inj' unit).mp quotient

theorem nearestUnique {q : ℚ} {negative : Bool} {m n : Magnitude} (first : Nearest q negative m)
    (second : Nearest q negative n) : m = n := by
  have tie := le_antisymm (first.near negative n) (second.near negative m)
  have ordered {m n : Magnitude} (near : ∀ k, |q - exact negative m| ≤ |q - exact negative k|)
      (tie : |q - exact negative m| = |q - exact negative n|) (low : m.EvenSignificand) (high : n.EvenSignificand) :
      ¬m.units < n.units := by
    intro less
    obtain ⟨k, above, below⟩ := Magnitude.evenApart low high less
    have unit : (0 : ℚ) < unitsPerOne := by exact_mod_cast unitsPerOnePositive
    have above : (m.units / unitsPerOne : ℚ) < k.units / unitsPerOne :=
      div_lt_div_of_pos_right (by exact_mod_cast above) unit
    have below : (k.units / unitsPerOne : ℚ) < n.units / unitsPerOne :=
      div_lt_div_of_pos_right (by exact_mod_cast below) unit
    refine absurd (near k) (not_le.mpr ?_)
    cases negative
    · exact betweenNearer above below tie
    · rw [tie]
      exact betweenNearer (neg_lt_neg below) (neg_lt_neg above) tie.symm
  rcases first.even negative n tie.symm with same | low
  · exact (exactInjective same).symm
  · rcases second.even negative m tie with same | high
    · exact exactInjective same
    · refine Magnitude.unitsExt (Nat.le_antisymm ?_ ?_)
      · exact Nat.le_of_not_lt (ordered (second.near negative) tie.symm high low)
      · exact Nat.le_of_not_lt (ordered (first.near negative) tie low high)

theorem exactZero (negative : Bool) {m : Magnitude} (none : m.units = 0) : exact negative m = 0 := by
  rw [exact, none, Nat.cast_zero, zero_div]
  cases negative
  · exact signedPlain 0
  · exact (signedMinus 0).trans neg_zero

theorem zeroNearest {q : ℚ} (few : 2 * |q| * unitsPerOne ≤ 1) (negative : Bool) : Nearest q negative .zero := by
  have unit : (0 : ℚ) < unitsPerOne := by exact_mod_cast unitsPerOnePositive
  refine ⟨fun sign n => ?_, fun _ _ _ => .inr ⟨0, 0, rfl, by decide, .inl rfl, rfl⟩⟩
  rw [@exactZero negative .zero rfl, sub_zero]
  rcases Nat.eq_zero_or_pos n.units with none | some
  · rw [exactZero sign none, sub_zero]
  · -- Every other number is a unit away from zero at least.
    have size : 1 / unitsPerOne ≤ |exact sign n| := by
      rw [exact, signedSize sign (div_nonneg (Nat.cast_nonneg _) unit.le)]
      exact div_le_div_of_nonneg_right (by exact_mod_cast some) unit.le
    have half : 2 * |q| ≤ 1 / unitsPerOne := (le_div_iff₀ unit).mpr few
    have apart := abs_sub_abs_le_abs_sub (exact sign n) q
    rw [abs_sub_comm] at apart
    linarith

end Binary64

namespace Decimal
open Binary64 (Nearest signed leastInfinite)

def numerator (d : Decimal) : Nat :=
  d.coefficient * Nat.pow 10 d.exponent.toNat

def denominator (d : Decimal) : Nat :=
  Nat.pow 10 (-d.exponent).toNat

def value (d : Decimal) : ℚ :=
  signed d.negative (d.numerator / d.denominator)

theorem denominatorPositive (d : Decimal) : 0 < d.denominator :=
  Nat.pow_pos (by decide)

theorem valueSize (d : Decimal) : |d.value| = d.numerator / d.denominator :=
  Binary64.signedSize d.negative (div_nonneg (Nat.cast_nonneg _) (Nat.cast_nonneg _))

theorem leastInfinitePositive : 0 < leastInfinite := by
  have less : 970 < 1024 := by decide
  unfold leastInfinite
  generalize 970 = few at less ⊢
  generalize 1024 = many at less ⊢
  exact Nat.sub_pos_of_lt (Nat.pow_lt_pow_right (by decide) less)

/- The number that a decimal stands for: a nearest one of the same sign, or from half a step below the limit on the
infinity of that sign. -/
inductive Rounded (d : Decimal) : Binary64 → Prop where
  | finite {m} (below : |d.value| < leastInfinite) (nearest : Nearest d.value d.negative m) :
      Rounded d (.finite d.negative m)
  | infinite (beyond : leastInfinite ≤ |d.value|) : Rounded d (.infinite d.negative)

theorem roundedUnique {d : Decimal} {x y : Binary64} (first : Rounded d x) (second : Rounded d y) : x = y := by
  cases first with
  | finite below nearest =>
    cases second with
    | finite _ other => rw [Binary64.nearestUnique nearest other]
    | infinite beyond => exact absurd below (not_lt.mpr beyond)
  | infinite beyond =>
    cases second with
    | finite below _ => exact absurd below (not_lt.mpr beyond)
    | infinite _ => rfl

theorem roundedZero {d : Decimal} (few : 2 * |d.value| * unitsPerOne ≤ 1) : Rounded d (.finite d.negative .zero) := by
  refine .finite ?_ (Binary64.zeroNearest few d.negative)
  have unit : (1 : ℚ) ≤ unitsPerOne := by exact_mod_cast unitsPerOnePositive
  have some : (1 : ℚ) ≤ leastInfinite := by exact_mod_cast leastInfinitePositive
  have grows : 2 * |d.value| * 1 ≤ 2 * |d.value| * unitsPerOne :=
    mul_le_mul_of_nonneg_left unit (mul_nonneg (by norm_num) (abs_nonneg _))
  linarith

theorem underflowVanishes {coefficient exponent : Nat}
    (few : coefficient.log2 + 1 + (unitBits + 1) < 3 * exponent) :
    2 * (coefficient * unitsPerOne) < Nat.pow 10 exponent := by
  unfold unitsPerOne
  generalize unitBits = bits at few ⊢
  calc 2 * (coefficient * 2 ^ bits)
    _ ≤ 2 * (2 ^ (coefficient.log2 + 1) * 2 ^ bits) :=
        Nat.mul_le_mul_left 2 (Nat.mul_le_mul_right _ (Nat.le_of_lt Nat.lt_log2_self))
    _ = 2 ^ (coefficient.log2 + 1 + (bits + 1)) := by rw [← Nat.pow_add, Nat.mul_comm, ← Nat.pow_succ]; congr 1
    _ < 2 ^ (3 * exponent) := Nat.pow_lt_pow_right (by decide) few
    _ = 8 ^ exponent := Nat.pow_mul 2 3 exponent
    _ ≤ 10 ^ exponent := Nat.pow_le_pow_left (by decide) exponent

theorem overflowReached {coefficient exponent : Nat} (some : 0 < coefficient) (many : 309 ≤ exponent) :
    leastInfinite ≤ coefficient * Nat.pow 10 exponent := by
  have power : Nat.pow 2 1024 ≤ Nat.pow 10 309 := by decide +kernel
  unfold leastInfinite
  generalize 309 = least at many power
  generalize 1024 = top at power ⊢
  calc Nat.pow 2 top - Nat.pow 2 970
    _ ≤ Nat.pow 2 top := Nat.sub_le _ _
    _ ≤ Nat.pow 10 least := power
    _ ≤ Nat.pow 10 exponent := Nat.pow_le_pow_right (by decide) many
    _ ≤ coefficient * Nat.pow 10 exponent := Nat.le_mul_of_pos_left _ some

theorem quotientOverflow {numerator denominator : Nat} (positive : 0 < denominator) :
    Magnitude.ofQuotient? (numerator * unitsPerOne) denominator = none ↔ leastInfinite * denominator ≤ numerator := by
  unfold leastInfinite
  generalize limit : 1024 = whole
  generalize bits : 970 = few
  have same : whole = wholeBits := limit.symm
  have overflow := @Magnitude.ofQuotientOverflow (numerator * unitsPerOne) denominator positive few (bits ▸ rfl)
  rw [overflow, ← Nat.mul_assoc, ← Nat.mul_assoc, ← Nat.add_mul, Nat.sub_mul, Nat.sub_le_iff_le_add, same]
  exact Nat.mul_le_mul_right_iff unitsPerOnePositive

theorem toBinary64Quotient (d : Decimal) :
    d.toBinary64 = .ofQuotient d.negative (d.numerator * unitsPerOne) d.denominator := by
  have vanishes (none : Magnitude.roundUnits (d.numerator * unitsPerOne) d.denominator = 0) :
      .finite d.negative .zero = Binary64.ofQuotient d.negative (d.numerator * unitsPerOne) d.denominator := by
    obtain ⟨m, made, units⟩ := Binary64.ofQuotientUnits d.negative (none ▸ unitsLimitPositive)
    have zero : m = .zero := Magnitude.unitsExt (units.trans none)
    rw [made, zero]
  unfold toBinary64
  split
  · rename_i zero
    refine vanishes ?_
    rw [numerator, zero, Nat.zero_mul, Nat.zero_mul, Magnitude.roundUnitsNone d.denominatorPositive]
  · rename_i some
    split
    · rename_i whole
      have one : d.denominator = 1 := by
        rw [denominator, show (-d.exponent).toNat = 0 by omega]
      split
      · rename_i many
        have infinite : leastInfinite * d.denominator ≤ d.numerator := by
          rw [one, Nat.mul_one]
          unfold overflowExponent at many
          exact overflowReached (Nat.pos_of_ne_zero some) (by omega)
        rw [Binary64.ofQuotientInfinite ((quotientOverflow d.denominatorPositive).mpr infinite)]
      · rw [one, numerator]
    · rename_i fraction
      have plain : d.numerator = d.coefficient := by
        rw [numerator, show d.exponent.toNat = 0 by omega]
        exact Nat.mul_one _
      split
      · rename_i low
        refine vanishes (Magnitude.roundUnitsVanish ?_)
        rw [plain, denominator]
        refine underflowVanishes ?_
        have bits : underflowBits = -(unitBits + 2) := rfl
        omega
      · rw [plain, denominator]

theorem toBinary64Rounded (d : Decimal) : Rounded d d.toBinary64 := by
  have overflow := @quotientOverflow d.numerator d.denominator d.denominatorPositive
  have divisor : (0 : ℚ) < d.denominator := by exact_mod_cast d.denominatorPositive
  have size : leastInfinite ≤ |d.value| ↔ leastInfinite * d.denominator ≤ d.numerator := by
    rw [valueSize, le_div_iff₀ divisor]
    exact_mod_cast Iff.rfl
  rw [toBinary64Quotient]
  cases rounds : Magnitude.ofQuotient? (d.numerator * unitsPerOne) d.denominator with
  | none =>
    rw [Binary64.ofQuotientInfinite rounds]
    exact .infinite (size.mpr (overflow.mp rounds))
  | some m =>
    have below : |d.value| < leastInfinite := by
      rw [← not_le, size, ← overflow, rounds]
      simp
    rw [Binary64.ofQuotientFound rounds]
    refine .finite below ?_
    have unit : (unitsPerOne : ℚ) ≠ 0 := by exact_mod_cast unitsPerOnePositive.ne'
    have nearest := Binary64.roundUnitsSigned d.denominatorPositive (Magnitude.ofQuotientSome rounds) d.negative
    rwa [Nat.cast_mul, div_right_comm, mul_div_cancel_right₀ _ unit] at nearest

end Decimal

end UtilityLayout
