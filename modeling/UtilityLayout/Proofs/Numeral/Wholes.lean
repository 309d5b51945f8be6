import UtilityLayout.Proofs.Binary64.Nearest
import UtilityLayout.Proofs.Numeral.Acceptance
import UtilityLayout.Proofs.Utility.Forms
import UtilityLayout.Proofs.Utility.Percentages

/-! Whole numbers, from their digits to their texts. The number that is read is whole again, however it was rounded, and
four times a number is a number unless it is too great. -/
namespace UtilityLayout

namespace Magnitude

theorem roundEvenWhole (n : Nat) : roundEven n 1 = n := by
  simp [roundEven, Nat.mod_one]

theorem roundUnitsWhole (n : Nat) : ∃ k, roundUnits (n * unitsPerOne) 1 = k * unitsPerOne := by
  simp only [roundUnits, Nat.one_mul, Nat.div_one]
  generalize surplusBits (n * unitsPerOne) = surplus
  unfold unitsPerOne
  generalize unitBits = bits
  rcases Nat.le_total surplus bits with fine | coarse
  · -- All units are on the grid already.
    obtain ⟨more, rfl⟩ := Nat.exists_eq_add_of_le fine
    have step : 0 < Nat.pow 2 surplus := Nat.two_pow_pos surplus
    have exact := roundEvenScaled (n * Nat.pow 2 more) 1 step
    rw [Nat.one_mul, roundEvenWhole] at exact
    refine ⟨n, ?_⟩
    have power : Nat.pow 2 (surplus + more) = Nat.pow 2 more * Nat.pow 2 surplus := Nat.pow_add' 2 surplus more
    rw [power, ← Nat.mul_assoc, exact]
  · obtain ⟨more, rfl⟩ := Nat.exists_eq_add_of_le coarse
    refine ⟨roundEven (n * Nat.pow 2 bits) (Nat.pow 2 (bits + more)) * Nat.pow 2 more, ?_⟩
    have power : Nat.pow 2 (bits + more) = Nat.pow 2 more * Nat.pow 2 bits := Nat.pow_add' 2 bits more
    rw [power, Nat.mul_assoc]

theorem roundUnitsFour {m : Magnitude} (bounded : 4 * m.units < unitsLimit) :
    roundUnits (4 * m.units) 1 = 4 * m.units := by
  obtain ⟨significand, exponent, small, units⟩ := m.significant
  have shifted : 4 * m.units = significand * Nat.pow 2 (2 + exponent) := by
    have power : Nat.pow 2 (2 + exponent) = Nat.pow 2 2 * Nat.pow 2 exponent := Nat.pow_add 2 2 exponent
    rw [units, power, Nat.mul_left_comm]
  exact roundUnitsKept shifted small bounded

theorem roundUnitsBeyond {units : Nat} (beyond : unitsLimit ≤ units) : unitsLimit ≤ roundUnits units 1 := by
  obtain ⟨few, bits⟩ : ∃ few, wholeBits = 53 + (few + 1) := ⟨970, rfl⟩
  rw [← ofQuotientNone, ofQuotientOverflow Nat.one_pos bits, Nat.one_mul, Nat.mul_comm (Nat.pow 2 wholeBits),
    ← limitUnits]
  exact Nat.le_add_right_of_le beyond

end Magnitude

namespace Binary64

theorem ofQuotientFound {numerator denominator : Nat} {m : Magnitude}
    (found : Magnitude.ofQuotient? numerator denominator = some m) (negative : Bool) :
    ofQuotient negative numerator denominator = .finite negative m := by
  unfold ofQuotient
  rw [found]

theorem ofQuotientInfinite {numerator denominator : Nat} (none : Magnitude.ofQuotient? numerator denominator = none)
    (negative : Bool) : ofQuotient negative numerator denominator = .infinite negative := by
  unfold ofQuotient
  rw [none]

def leastInfinite : Nat :=
  Nat.pow 2 1024 - Nat.pow 2 970

theorem ofIntInfinite (n : Nat) : ofInt? n = none ↔ leastInfinite ≤ n := by
  rw [ofIntOverflow, Int.natAbs_natCast, leastInfinite]

theorem ofNatOverflow {n : Nat} (many : leastInfinite ≤ n) : ofNat n = .infinite false := by
  have none := (ofIntInfinite n).mpr many
  rw [ofInt?, Option.map_eq_none_iff] at none
  exact ofQuotientInfinite none false

theorem ofNatNearest {n : Nat} (few : n < leastInfinite) :
    ∃ k m, ofNat n = .finite false m ∧ m.units = k * unitsPerOne ∧ Nearest n false m := by
  have some := mt (ofIntInfinite n).mp (Nat.not_le_of_lt few)
  obtain ⟨x, rounds⟩ := Option.ne_none_iff_exists'.mp some
  obtain ⟨m, found, made⟩ := Option.map_eq_some_iff.mp rounds
  obtain ⟨negative, own, same, nearest⟩ := ofIntNearest rounds
  obtain ⟨k, whole⟩ := Magnitude.roundUnitsWhole n
  cases made.trans same
  refine ⟨k, m, ?_, (Magnitude.ofQuotientSome found).trans whole, ?_⟩
  · exact ofQuotientFound found false
  · rwa [Int.cast_natCast] at nearest

theorem exactWhole {m : Magnitude} {k : Nat} (units : m.units = k * unitsPerOne) : exact false m = k := by
  have unit : (unitsPerOne : ℚ) ≠ 0 := by exact_mod_cast unitsPerOnePositive.ne'
  rw [exact, signedPlain, units, Nat.cast_mul, mul_div_assoc, div_self unit, mul_one]

theorem wholeBelow {m : Magnitude} {k : Nat} (units : m.units = k * unitsPerOne) : k < Nat.pow 2 wholeBits := by
  have bounded := m.bounded
  rw [units, limitUnits, Nat.mul_comm] at bounded
  exact Nat.lt_of_mul_lt_mul_left bounded

theorem fourUnits : ∃ m, (4 : Binary64) = .finite false m ∧ m.units = 4 * unitsPerOne :=
  @ofNatUnits 4 (by decide)

theorem timesFour (m : Magnitude) :
    Binary64.finite false m * 4 = ofQuotient false (4 * m.units * unitsPerOne) unitsPerOne ∧
      Magnitude.roundUnits (4 * m.units * unitsPerOne) unitsPerOne = Magnitude.roundUnits (4 * m.units) 1 := by
  obtain ⟨four, number, units⟩ := fourUnits
  have scaled := Magnitude.roundUnitsScaled (4 * m.units) 1 unitsPerOnePositive
  rw [Nat.one_mul] at scaled
  refine ⟨?_, scaled⟩
  rw [number, Expression.mulFinite, units, ← Nat.mul_assoc, Nat.mul_comm m.units]

theorem timesFourBounded {m : Magnitude} (bounded : 4 * m.units < unitsLimit) :
    ∃ q, Binary64.finite false m * 4 = .finite false q ∧ q.units = 4 * m.units := by
  obtain ⟨product, scaled⟩ := timesFour m
  have exact := scaled.trans (Magnitude.roundUnitsFour bounded)
  obtain ⟨q, made, units⟩ := ofQuotientUnits false (exact.symm ▸ bounded)
  exact ⟨q, product.trans made, units.trans exact⟩

theorem timesFourBeyond {m : Magnitude} (beyond : unitsLimit ≤ 4 * m.units) :
    Binary64.finite false m * 4 = .infinite false := by
  obtain ⟨product, scaled⟩ := timesFour m
  have overflow := Magnitude.roundUnitsBeyond beyond
  rw [← scaled] at overflow
  exact product.trans (ofQuotientInfinite (Magnitude.ofQuotientNone.mpr overflow) false)

theorem infiniteFour : Binary64.infinite false * 4 = .infinite false := by
  obtain ⟨four, number, units⟩ := fourUnits
  have some : four.units ≠ 0 := by
    rw [units]
    exact Nat.ne_of_gt (Nat.mul_pos (by decide) unitsPerOnePositive)
  rw [number]
  exact if_neg some

end Binary64

namespace Expression
open Binary64 (exact Nearest)

def wholeText (n : Nat) : String :=
  if n < Nat.pow 2 wholeBits then toString n ++ ".0" else infinity

theorem fixedWholeUnits (k : Nat) : fixedText 1 false (k * unitsPerOne) unitsPerOne = toString k ++ ".0" := by
  have tenths : roundHalfUp (k * unitsPerOne * 10) unitsPerOne = 10 * k := by
    have positive := unitsPerOnePositive
    generalize unitsPerOne = unit at positive ⊢
    have split : 2 * (k * unit * 10) + unit = unit + 2 * unit * (10 * k) := by ring
    rw [roundHalfUp, split, Nat.add_mul_div_left _ _ (by omega), Nat.div_eq_of_lt (by omega), Nat.zero_add]
  have sign : Binary64.signText (false && k * unitsPerOne != 0) = [] := rfl
  rw [fixedOnePlace, tenths, sign, Nat.mul_div_cancel_left k (by decide), Nat.mul_mod_right, List.nil_append,
    String.ofList_append]
  rfl

theorem numberWhole {m : Magnitude} {k : Nat} (units : m.units = k * unitsPerOne) :
    number (.finite false m) = wholeText k := by
  rw [number, units, fixedWholeUnits, wholeText, if_pos (Binary64.wholeBelow units)]

theorem numberFour {m : Magnitude} {k : Nat} (units : m.units = k * unitsPerOne) :
    number (.finite false m * 4) = wholeText (4 * k) := by
  have four : 4 * m.units = 4 * k * unitsPerOne := by rw [units, Nat.mul_assoc]
  rcases Nat.lt_or_ge (4 * m.units) unitsLimit with bounded | beyond
  · obtain ⟨q, product, exact⟩ := Binary64.timesFourBounded bounded
    rw [product, numberWhole (exact.trans four)]
  · rw [Binary64.timesFourBeyond beyond, wholeText, if_neg]
    · rfl
    · rw [four, limitUnits, Nat.mul_comm] at beyond
      exact Nat.not_lt_of_le (Nat.le_of_mul_le_mul_left beyond unitsPerOnePositive)

end Expression

namespace Numeral

inductive SpelledWhole : List Char → Nat → Prop where
  | one {c digit} (known : Text.digitValue? c = some digit) : SpelledWhole [c] digit
  | more {digits n c digit} (before : SpelledWhole digits n) (known : Text.digitValue? c = some digit) :
      SpelledWhole (digits ++ [c]) (10 * n + digit)

variable {digits : List Char} {n : Nat}

theorem spelledDigits (spelled : SpelledWhole digits n) :
    digits ≠ [] ∧ AllDigits classStyle digits ∧ Text.digitsValue digits = n := by
  have digit {c : Char} {value : Nat} (known : Text.digitValue? c = some value) : Text.isDigit c = true := by
    rw [Text.isDigit, known]
    rfl
  induction spelled with
  | one known =>
    refine ⟨List.cons_ne_nil _ _, List.forall_mem_singleton.mpr (digit known), ?_⟩
    simp [Text.digitsValue, known]
  | more before known ih =>
    obtain ⟨some, all, value⟩ := ih
    refine ⟨List.append_ne_nil_of_left_ne_nil some _, ?_, ?_⟩
    · exact List.forall_mem_append.mpr ⟨all, List.forall_mem_singleton.mpr (digit known)⟩
    · rw [digitsValueAppend, value, known, Option.getD_some]

theorem numberSpelled (spelled : SpelledWhole digits n) : number? digits = some (.ofNat n) := by
  obtain ⟨some, all, rfl⟩ := spelledDigits spelled
  have clean : digits.getLast? ≠ Option.some '\n' := by
    intro last
    have digit := all _ (List.mem_of_getLast? last)
    revert digit
    decide
  have parts := @Spelled.parts classStyle _ _ _ _ _ _ _ .none (.whole some all) .none
  simp only [List.nil_append, List.append_nil] at parts
  rw [number?, newlineKept clean, (readSpelled classSeparate).mpr parts]
  exact congrArg Option.some (Decimal.wholeNumber _)

end Numeral

end UtilityLayout
