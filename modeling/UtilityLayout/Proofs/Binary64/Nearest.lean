import Mathlib.Algebra.Order.Field.Rat
import Mathlib.Data.Nat.Cast.Order.Field
import Mathlib.Tactic.FieldSimp
import Mathlib.Tactic.Linarith
import Mathlib.Tactic.NormNum
import Mathlib.Tactic.Ring
import UtilityLayout.Proofs.Binary64.Rounding

/-! Rounding told by distances: a quotient is rounded to a number that no other is nearer to, and half way between two
to the one with the even significand. From half a step below the limit on there is no number to round to. -/
namespace UtilityLayout

theorem roundEvenTie {numerator denominator : Nat} (positive : 0 < denominator)
    (tie : 2 * (roundEven numerator denominator * denominator) = 2 * numerator + denominator ∨
      2 * numerator = 2 * (roundEven numerator denominator * denominator) + denominator) :
    roundEven numerator denominator % 2 = 0 := by
  have whole := Nat.div_add_mod' numerator denominator
  have rest := Nat.mod_lt numerator positive
  have next : (numerator / denominator + 1) * denominator = numerator / denominator * denominator + denominator :=
    Nat.succ_mul _ _
  simp only [roundEven] at tie ⊢
  split
  · rename_i low
    rw [if_pos low] at tie
    simp only [Bool.or_eq_true, Bool.and_eq_true, decide_eq_true_eq, beq_iff_eq] at low
    omega
  · rename_i high
    rw [if_neg high] at tie
    simp only [Bool.or_eq_true, Bool.and_eq_true, decide_eq_true_eq, beq_iff_eq, not_or, not_and] at high
    omega

theorem roundEvenBelow {numerator denominator : Nat} (positive : 0 < denominator) {k : Nat} (even : k % 2 = 0) :
    roundEven numerator denominator < k ↔ 2 * numerator + denominator < 2 * (k * denominator) := by
  obtain ⟨upper, lower⟩ := roundEvenNear numerator positive
  have tie := @roundEvenTie numerator denominator positive
  generalize roundEven numerator denominator = r at *
  constructor
  · intro below
    by_cases last : r + 1 = k
    · -- The number before is odd, so that no tie goes to it.
      have product : r * denominator + denominator = k * denominator := by rw [← last, Nat.succ_mul]
      have noTie : 2 * numerator ≠ 2 * (r * denominator) + denominator := by
        intro same
        have := tie (.inr same)
        omega
      omega
    · have fewer : (r + 2) * denominator ≤ k * denominator := Nat.mul_le_mul_right _ (by omega)
      rw [Nat.add_mul] at fewer
      omega
  · intro below
    by_contra above
    have more := Nat.mul_le_mul_right denominator (Nat.le_of_not_lt above)
    omega

structure RoundsEven (x : ℚ) (r : Nat) : Prop where
  half : |x - r| ≤ 1 / 2
  even : |x - r| = 1 / 2 → r % 2 = 0

theorem roundEvenRounds (numerator : Nat) {denominator : Nat} (positive : 0 < denominator) :
    RoundsEven (numerator / denominator) (roundEven numerator denominator) := by
  obtain ⟨upper, lower⟩ := roundEvenNear numerator positive
  have tie := @roundEvenTie numerator denominator positive
  generalize roundEven numerator denominator = r at upper lower tie
  have divisor : (0 : ℚ) < denominator := by exact_mod_cast positive
  have product : (numerator / denominator : ℚ) * denominator = numerator := div_mul_cancel₀ _ divisor.ne'
  have above : 2 * ((r : ℚ) * denominator) ≤ 2 * numerator + denominator := by exact_mod_cast upper
  have below : 2 * (numerator : ℚ) ≤ 2 * (r * denominator) + denominator := by exact_mod_cast lower
  generalize (numerator / denominator : ℚ) = x at product ⊢
  rw [← product] at above below
  refine ⟨abs_le.mpr ⟨?_, ?_⟩, ?_⟩
  · refine le_of_mul_le_mul_right ?_ divisor
    linarith
  · refine le_of_mul_le_mul_right ?_ divisor
    linarith
  · intro far
    refine tie ?_
    rcases (abs_eq (by norm_num)).mp far with beyond | under
    · right
      have same : 2 * (numerator : ℚ) = 2 * (r * denominator) + denominator := by
        rw [← product, sub_eq_iff_eq_add.mp beyond]
        ring
      exact_mod_cast same
    · left
      have same : 2 * ((r : ℚ) * denominator) = 2 * numerator + denominator := by
        rw [← product, sub_eq_iff_eq_add.mp under]
        ring
      exact_mod_cast same

theorem roundsNearest {x : ℚ} {r : Nat} (rounds : RoundsEven x r) (k : Nat) :
    |x - r| ≤ |x - k| ∧ (|x - k| = |x - r| → k = r ∨ r % 2 = 0) := by
  by_cases same : k = r
  · subst same
    exact ⟨le_rfl, fun _ => .inl rfl⟩
  have apart : (1 : ℚ) ≤ |(r : ℚ) - k| := by
    have gap : (1 : Int) ≤ |(r : Int) - k| := Int.one_le_abs (by omega)
    exact_mod_cast gap
  have triangle := abs_sub_le (r : ℚ) x k
  rw [abs_sub_comm (r : ℚ) x] at triangle
  have half := rounds.half
  refine ⟨by linarith, fun tie => .inr (rounds.even (le_antisymm half ?_))⟩
  linarith

namespace Magnitude

theorem oneBitMore (bits : Nat) : Nat.pow 2 53 * Nat.pow 2 bits = Nat.pow 2 52 * Nat.pow 2 (bits + 1) := by
  simp only [Nat.pow_eq]
  rw [← Nat.pow_add, ← Nat.pow_add, show 53 + bits = 52 + (bits + 1) by omega]

theorem onGrid (m : Magnitude) (bits : Nat) :
    (∃ k, m.units = k * Nat.pow 2 bits) ∨ 0 < bits ∧ m.units < Nat.pow 2 52 * Nat.pow 2 bits := by
  obtain ⟨significand, exponent, small, units⟩ := m.significant
  rcases Nat.lt_or_ge exponent bits with coarse | fine
  · refine .inr ⟨Nat.zero_lt_of_lt coarse, ?_⟩
    calc m.units = significand * Nat.pow 2 exponent := units
      _ < Nat.pow 2 53 * Nat.pow 2 exponent := Nat.mul_lt_mul_of_pos_right small (Nat.two_pow_pos _)
      _ = Nat.pow 2 52 * Nat.pow 2 (exponent + 1) := oneBitMore exponent
      _ ≤ Nat.pow 2 52 * Nat.pow 2 bits := Nat.mul_le_mul_left _ (Nat.pow_le_pow_right (by decide) coarse)
  · obtain ⟨more, rfl⟩ := Nat.exists_eq_add_of_le fine
    refine .inl ⟨significand * Nat.pow 2 more, ?_⟩
    have power : Nat.pow 2 (bits + more) = Nat.pow 2 bits * Nat.pow 2 more := Nat.pow_add 2 bits more
    rw [units, power, Nat.mul_comm (Nat.pow 2 bits), Nat.mul_assoc]

/- The significand is even, taken with all its 53 bits where there are so many. -/
def EvenSignificand (m : Magnitude) : Prop :=
  ∃ significand exponent, significand % 2 = 0 ∧ significand < Nat.pow 2 53 ∧
    (exponent = 0 ∨ Nat.pow 2 52 ≤ significand) ∧ m.units = significand * Nat.pow 2 exponent

section
variable {numerator denominator : Nat}

theorem quotientWide (wide : 0 < surplusBits (numerator / denominator)) :
    Nat.pow 2 52 ≤ numerator / (denominator * Nat.pow 2 (surplusBits (numerator / denominator))) := by
  rw [← Nat.div_div_eq_div_mul]
  generalize numerator / denominator = quotient at wide ⊢
  have bits : surplusBits quotient = quotient.log2 - 52 := rfl
  have some : quotient ≠ 0 := by
    rintro rfl
    exact absurd wide (by decide)
  simp only [Nat.pow_eq]
  rw [Nat.le_div_iff_mul_le (Nat.two_pow_pos _), ← Nat.pow_add, show 52 + surplusBits quotient = quotient.log2 by omega]
  exact Nat.log2_self_le some

theorem roundUnitsEven {m : Magnitude} (rounded : m.units = roundUnits numerator denominator)
    (even : roundEven numerator (denominator * Nat.pow 2 (surplusBits (numerator / denominator))) % 2 = 0) :
    m.EvenSignificand := by
  have wide := @quotientWide numerator denominator
  have lower := roundEvenLower numerator (denominator * Nat.pow 2 (surplusBits (numerator / denominator)))
  have le := significandBound numerator denominator
  simp only [roundUnits] at rounded
  generalize surplusBits (numerator / denominator) = bits at *
  rcases Nat.lt_or_eq_of_le le with small | full
  · refine ⟨_, bits, even, small, ?_, rounded⟩
    exact (Nat.eq_zero_or_pos bits).imp_right fun some => Nat.le_trans (wide some) lower
  · refine ⟨Nat.pow 2 52, bits + 1, by decide, by decide, .inr (Nat.le_refl _), ?_⟩
    rw [rounded, full, oneBitMore]

theorem quotientScaled (positive : 0 < denominator) {step : Nat} (width : 0 < step) (k : ℚ) :
    (numerator / denominator : ℚ) - k * step = (numerator / (denominator * step : Nat) - k) * step := by
  have divisor : (denominator : ℚ) ≠ 0 := by exact_mod_cast positive.ne'
  have factor : (step : ℚ) ≠ 0 := by exact_mod_cast width.ne'
  push_cast
  field_simp

theorem roundUnitsNearest (positive : 0 < denominator) {m : Magnitude}
    (rounded : m.units = roundUnits numerator denominator) (n : Magnitude) :
    |(numerator / denominator : ℚ) - m.units| ≤ |(numerator / denominator : ℚ) - n.units| ∧
      (|(numerator / denominator : ℚ) - n.units| = |(numerator / denominator : ℚ) - m.units| →
        n = m ∨ m.EvenSignificand) := by
  have even := roundUnitsEven rounded
  have wide := @quotientWide numerator denominator
  simp only [roundUnits] at rounded
  generalize surplusBits (numerator / denominator) = bits at *
  have steps : 0 < Nat.pow 2 bits := Nat.two_pow_pos bits
  have grid := n.onGrid bits
  generalize Nat.pow 2 bits = step at *
  have rounds := roundEvenRounds numerator (Nat.mul_pos positive steps)
  have lower := roundEvenLower numerator (denominator * step)
  generalize roundEven numerator (denominator * step) = r at *
  have width : (0 : ℚ) < step := by exact_mod_cast steps
  have scaled := @quotientScaled numerator denominator positive step steps
  rcases grid with ⟨k, kth⟩ | ⟨some, few⟩
  · obtain ⟨near, tie⟩ := roundsNearest rounds k
    rw [rounded, kth, Nat.cast_mul, Nat.cast_mul, scaled, scaled, abs_mul, abs_mul]
    refine ⟨mul_le_mul_of_nonneg_right near (abs_nonneg _), fun same => ?_⟩
    rcases tie (mul_right_cancel₀ (abs_ne_zero.mpr width.ne') same) with rfl | halved
    · exact .inl (unitsExt (kth.trans rounded.symm))
    · exact .inr (even halved)
  · -- What is below the numbers of this step is below the least of them, and that is not too great.
    have least : ((Nat.pow 2 52 : Nat) : ℚ) ≤ numerator / (denominator * step : Nat) := by
      rw [le_div_iff₀ (by exact_mod_cast Nat.mul_pos positive steps)]
      exact_mod_cast (Nat.le_div_iff_mul_le (Nat.mul_pos positive steps)).mp (wide some)
    have near := (roundsNearest rounds (Nat.pow 2 52)).1
    rw [abs_of_nonneg (sub_nonneg.mpr least)] at near
    have below : (n.units : ℚ) < (Nat.pow 2 52 : Nat) * step := by exact_mod_cast few
    have far : |(numerator / denominator : ℚ) - m.units| < |(numerator / denominator : ℚ) - n.units| := by
      calc |(numerator / denominator : ℚ) - m.units|
          = |(numerator / (denominator * step : Nat) : ℚ) - r| * step := by
            rw [rounded, Nat.cast_mul, scaled, abs_mul, abs_of_pos width]
        _ ≤ (numerator / (denominator * step : Nat) - (Nat.pow 2 52 : Nat)) * step :=
            mul_le_mul_of_nonneg_right near width.le
        _ = numerator / denominator - (Nat.pow 2 52 : Nat) * step := (scaled _).symm
        _ < numerator / denominator - n.units := sub_lt_sub_left below _
        _ ≤ |(numerator / denominator : ℚ) - n.units| := le_abs_self _
    exact ⟨far.le, fun same => absurd same far.ne'⟩

theorem quotientNarrow (positive : 0 < denominator) :
    numerator < Nat.pow 2 53 * (denominator * Nat.pow 2 (surplusBits (numerator / denominator))) := by
  have bits : (numerator / denominator).log2 < 53 + surplusBits (numerator / denominator) := by
    simp only [surplusBits]
    omega
  have small : numerator / denominator < Nat.pow 2 (53 + surplusBits (numerator / denominator)) :=
    Nat.lt_of_lt_of_le Nat.lt_log2_self (Nat.pow_le_pow_right (by decide) bits)
  rw [Nat.pow_eq, Nat.pow_add] at small
  have product := (Nat.div_lt_iff_lt_mul positive).mp small
  rwa [Nat.mul_assoc, Nat.mul_comm _ denominator] at product

theorem twiceStep {low high : Nat} (less : low < high) : 2 * Nat.pow 2 low ≤ Nat.pow 2 high := by
  rw [Nat.mul_comm]
  change Nat.pow 2 (low + 1) ≤ Nat.pow 2 high
  exact Nat.pow_le_pow_right (by decide) less

theorem roundUnitsBelow (positive : 0 < denominator) (top : Nat) :
    roundUnits numerator denominator < Nat.pow 2 53 * Nat.pow 2 top ↔
      2 * numerator + denominator * Nat.pow 2 top < 2 * (Nat.pow 2 53 * (denominator * Nat.pow 2 top)) := by
  have wide := @quotientWide numerator denominator
  have narrow := @quotientNarrow numerator denominator positive
  have bound := significandBound numerator denominator
  simp only [roundUnits]
  generalize surplusBits (numerator / denominator) = bits at *
  have step : 0 < Nat.pow 2 bits := Nat.two_pow_pos bits
  have width := Nat.mul_pos positive step
  have least := roundEvenLower numerator (denominator * Nat.pow 2 bits)
  rcases Nat.lt_trichotomy bits top with fine | rfl | coarse
  · -- The quotient is below the power by more than a step.
    have power := twiceStep fine
    have product := Nat.mul_le_mul_left denominator power
    have rounded := Nat.mul_le_mul_right (Nat.pow 2 bits) bound
    rw [Nat.mul_left_comm] at product
    simp only [Nat.pow_eq] at *
    omega
  · rw [Nat.mul_lt_mul_right step]
    exact roundEvenBelow width (by decide)
  · -- The quotient is not below the power.
    have power := twiceStep coarse
    have product := Nat.mul_le_mul_left denominator power
    have some := wide (Nat.zero_lt_of_lt coarse)
    have rounded := Nat.mul_le_mul_right (Nat.pow 2 bits) (Nat.le_trans some least)
    rw [Nat.le_div_iff_mul_le width] at some
    rw [Nat.mul_left_comm] at product
    simp only [Nat.pow_eq] at *
    omega

theorem ofQuotientNone : ofQuotient? numerator denominator = none ↔ unitsLimit ≤ roundUnits numerator denominator := by
  rw [ofQuotient?]
  split
  · rename_i bounded
    exact ⟨fun none => (by cases none), fun beyond => absurd bounded (Nat.not_lt_of_le beyond)⟩
  · rename_i beyond
    exact ⟨fun _ => Nat.le_of_not_lt beyond, fun _ => rfl⟩

theorem ofQuotientSome {m : Magnitude} (found : ofQuotient? numerator denominator = some m) :
    m.units = roundUnits numerator denominator := by
  rw [ofQuotient?] at found
  split at found
  · exact (congrArg units (Option.some.inj found)).symm
  · contradiction

theorem ofQuotientOverflow (positive : 0 < denominator) {few : Nat} (bits : wholeBits = 53 + (few + 1)) :
    ofQuotient? numerator denominator = none ↔
      Nat.pow 2 wholeBits * (denominator * unitsPerOne) ≤
        numerator + Nat.pow 2 few * (denominator * unitsPerOne) := by
  have step : Nat.pow 2 (few + 1 + unitBits) = 2 * (Nat.pow 2 few * unitsPerOne) := by
    unfold unitsPerOne
    generalize unitBits = most
    calc Nat.pow 2 (few + 1 + most) = Nat.pow 2 few * 2 * Nat.pow 2 most := Nat.pow_add 2 (few + 1) most
      _ = 2 * (Nat.pow 2 few * Nat.pow 2 most) := by ring
  have top : Nat.pow 2 wholeBits = Nat.pow 2 53 * (2 * Nat.pow 2 few) := by
    rw [bits, Nat.mul_comm 2]
    exact Nat.pow_add 2 53 (few + 1)
  have limit : unitsLimit = Nat.pow 2 53 * Nat.pow 2 (few + 1 + unitBits) := by
    rw [limitUnits, top, step]
    ring
  have below := @roundUnitsBelow numerator denominator positive (few + 1 + unitBits)
  have product : denominator * (2 * (Nat.pow 2 few * unitsPerOne)) =
      2 * (Nat.pow 2 few * (denominator * unitsPerOne)) := by ring
  rw [← limit, step, product] at below
  have power : Nat.pow 2 wholeBits * (denominator * unitsPerOne) =
      Nat.pow 2 53 * (2 * (Nat.pow 2 few * (denominator * unitsPerOne))) := by
    rw [top]
    ring
  rw [ofQuotientNone, ← Nat.not_lt, below, power]
  omega

end

end Magnitude

theorem pastMiddle {x low high : ℚ} (less : low < high) (near : |x - high| ≤ |x - low|) : low + high ≤ 2 * x := by
  by_contra before
  have far : |x - low| < high - x := abs_lt.mpr ⟨by linarith, by linarith⟩
  have gap := neg_le_abs (x - high)
  linarith

theorem beforeMiddle {x low high : ℚ} (less : low < high) (near : |x - low| ≤ |x - high|) : 2 * x ≤ low + high := by
  by_contra past
  have far : |x - high| < x - low := abs_lt.mpr ⟨by linarith, by linarith⟩
  have gap := le_abs_self (x - low)
  linarith

namespace Binary64

def signed (negative : Bool) (q : ℚ) : ℚ :=
  if negative then -q else q

theorem signedPlain (q : ℚ) : signed false q = q := rfl

theorem signedMinus (q : ℚ) : signed true q = -q := rfl

def exact (negative : Bool) (m : Magnitude) : ℚ :=
  signed negative (m.units / unitsPerOne)

/- A finite number that no other is nearer to the value, and if another is as near, then one with an even
significand. -/
structure Nearest (q : ℚ) (negative : Bool) (m : Magnitude) : Prop where
  near : ∀ sign n, |q - exact negative m| ≤ |q - exact sign n|
  even : ∀ sign n, |q - exact sign n| = |q - exact negative m| → exact sign n = exact negative m ∨ m.EvenSignificand

theorem nearestSelf (negative : Bool) (m : Magnitude) : Nearest (exact negative m) negative m := by
  refine ⟨fun sign n => ?_, fun sign n tie => .inl ?_⟩
  · rw [sub_self, abs_zero]
    exact abs_nonneg _
  · rw [sub_self, abs_zero, abs_eq_zero, sub_eq_zero] at tie
    exact tie.symm

theorem nearestExact {sign negative : Bool} {n m : Magnitude} (nearest : Nearest (exact sign n) negative m) :
    exact negative m = exact sign n := by
  have near := nearest.near sign n
  rw [sub_self, abs_zero, abs_nonpos_iff, sub_eq_zero] at near
  exact near.symm

theorem nearestOrdered {p q : ℚ} {first second : Bool} {m n : Magnitude} (left : Nearest p first m)
    (right : Nearest q second n) (less : p < q) : exact first m ≤ exact second n := by
  by_contra above
  have past := pastMiddle (not_le.mp above) (left.near second n)
  have before := beforeMiddle (not_le.mp above) (right.near first m)
  linarith

theorem signedSame (negative : Bool) (p q : ℚ) : |signed negative p - signed negative q| = |p - q| := by
  cases negative
  · rfl
  · change |-p - -q| = |p - q|
    rw [neg_sub_neg, abs_sub_comm]

theorem signedSize (negative : Bool) {q : ℚ} (some : 0 ≤ q) : |signed negative q| = q := by
  cases negative
  · exact abs_of_nonneg some
  · exact (abs_neg q).trans (abs_of_nonneg some)

theorem signedApart (negative sign : Bool) {p q : ℚ} (left : 0 ≤ p) (right : 0 ≤ q) :
    |p - q| ≤ |signed negative p - signed sign q| := by
  have apart := abs_abs_sub_abs_le (signed negative p) (signed sign q)
  rwa [signedSize _ left, signedSize _ right] at apart

theorem signedTie {negative sign : Bool} {p q : ℚ} (left : 0 ≤ p) (right : 0 ≤ q)
    (tie : |signed negative p - signed sign q| = |p - q|) : sign = negative ∨ p = 0 ∨ q = 0 := by
  have opposite (sum : |p + q| = |p - q|) : p = 0 ∨ q = 0 := by
    rw [abs_of_nonneg (add_nonneg left right)] at sum
    rcases abs_cases (p - q) with ⟨same, _⟩ | ⟨same, _⟩
    · exact .inr (by linarith)
    · exact .inl (by linarith)
  cases negative <;> cases sign
  · exact .inl rfl
  · refine .inr (opposite ?_)
    rw [← tie]
    exact congrArg abs (sub_neg_eq_add p q).symm
  · refine .inr (opposite ?_)
    rw [← tie, ← abs_neg]
    exact congrArg abs (neg_add' p q)
  · exact .inl rfl

theorem roundUnitsSigned {numerator denominator : Nat} (positive : 0 < denominator) {m : Magnitude}
    (rounded : m.units = Magnitude.roundUnits numerator denominator) (negative : Bool) :
    Nearest (signed negative (numerator / denominator / unitsPerOne)) negative m := by
  have unit : (0 : ℚ) < unitsPerOne := by exact_mod_cast unitsPerOnePositive
  have some (n : Magnitude) : (0 : ℚ) ≤ n.units / unitsPerOne := div_nonneg (Nat.cast_nonneg _) unit.le
  have quotient : (0 : ℚ) ≤ numerator / denominator / unitsPerOne :=
    div_nonneg (div_nonneg (Nat.cast_nonneg _) (Nat.cast_nonneg _)) unit.le
  have nearest (n : Magnitude) := Magnitude.roundUnitsNearest positive rounded n
  have scaled (n : Magnitude) : |(numerator / denominator / unitsPerOne : ℚ) - n.units / unitsPerOne| =
      |(numerator / denominator : ℚ) - n.units| / unitsPerOne := by
    rw [← sub_div, abs_div, abs_of_pos unit]
  have near (n : Magnitude) : |(numerator / denominator / unitsPerOne : ℚ) - m.units / unitsPerOne| ≤
      |(numerator / denominator / unitsPerOne : ℚ) - n.units / unitsPerOne| := by
    rw [scaled, scaled]
    exact div_le_div_of_nonneg_right (nearest n).1 unit.le
  refine ⟨fun sign n => ?_, fun sign n tie => ?_⟩
  · rw [exact, exact, signedSame]
    exact (near n).trans (signedApart _ _ quotient (some n))
  · rw [exact, exact, signedSame] at tie
    have same := le_antisymm ((signedApart negative sign quotient (some n)).trans tie.le) (near n)
    rw [scaled, scaled] at same
    rcases (nearest n).2 ((div_left_inj' unit.ne').mp same) with rfl | even
    · refine .inl ?_
      rcases signedTie quotient (some n) tie with rfl | none | none
      · rfl
      · -- Only zero is nearest to zero.
        have least := near .zero
        have zero : (Magnitude.zero.units : ℚ) / unitsPerOne = 0 := by rw [Magnitude.zero, Nat.cast_zero, zero_div]
        rw [none, zero, sub_self, abs_zero, zero_sub, abs_neg] at least
        rw [exact, exact, abs_nonpos_iff.mp least]
        simp [signed]
      · rw [exact, exact, none]
        simp [signed]
    · exact .inr even

theorem ofIntOverflow (i : Int) : ofInt? i = none ↔ Nat.pow 2 1024 - Nat.pow 2 970 ≤ i.natAbs := by
  -- The powers stay out of sight, since they are too great to be computed.
  generalize limit : 1024 = whole
  generalize bits : 970 = few
  have same : whole = wholeBits := limit.symm
  have overflow := @Magnitude.ofQuotientOverflow (i.natAbs * unitsPerOne) 1 Nat.one_pos few (bits ▸ rfl)
  rw [ofInt?, Option.map_eq_none_iff, overflow, Nat.one_mul, ← Nat.add_mul, Nat.sub_le_iff_le_add, same]
  exact Nat.mul_le_mul_right_iff unitsPerOnePositive

theorem ofIntNearest {i : Int} {x : Binary64} (rounds : ofInt? i = some x) :
    ∃ negative m, x = .finite negative m ∧ Nearest i negative m := by
  obtain ⟨m, found, rfl⟩ := Option.map_eq_some_iff.mp rounds
  refine ⟨_, m, rfl, ?_⟩
  have nearest := roundUnitsSigned Nat.one_pos (Magnitude.ofQuotientSome found) (decide (i < 0))
  have unit : (unitsPerOne : ℚ) ≠ 0 := by exact_mod_cast unitsPerOnePositive.ne'
  have size : ((i.natAbs * unitsPerOne : Nat) : ℚ) / (1 : Nat) / unitsPerOne = i.natAbs := by
    rw [Nat.cast_one, div_one, Nat.cast_mul, mul_div_assoc, div_self unit, mul_one]
  have value : signed (decide (i < 0)) i.natAbs = (i : ℚ) := by
    by_cases below : i < 0
    · rw [decide_eq_true below]
      change -((i.natAbs : Nat) : ℚ) = i
      rw [Nat.cast_natAbs, abs_of_neg below, Int.cast_neg, neg_neg]
    · rw [decide_eq_false below]
      change ((i.natAbs : Nat) : ℚ) = i
      rw [Nat.cast_natAbs, abs_of_nonneg (not_lt.mp below)]
  rwa [size, value] at nearest

end Binary64

end UtilityLayout
