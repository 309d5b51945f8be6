import Mathlib.Data.Nat.Prime.Basic
import UtilityLayout.Proofs.Numeral.Acceptance
import UtilityLayout.Proofs.Numeral.Tenths

/-! Numbers that are written and read again. The number nearest to the tenths that are written has the same tenths, so
that its text is the same, except for tenths of zero with a minus sign, which the number read loses. -/
namespace UtilityLayout

namespace Magnitude

theorem roundUnitsWithin {numerator denominator : Nat} (positive : 0 < denominator) (m : Magnitude) {top : Nat}
    (bits : unitBits + wholeBits = 53 + top)
    (near : 2 * numerator < 2 * (denominator * m.units) + denominator * Nat.pow 2 top) :
    roundUnits numerator denominator < unitsLimit := by
  have limit : unitsLimit = Nat.pow 2 53 * Nat.pow 2 top := by
    unfold unitsLimit
    rw [bits]
    exact Nat.pow_add 2 53 top
  have below := @roundUnitsBelow numerator denominator positive top
  have bounded := m.bounded
  have grid := m.onGrid top
  rw [limit] at bounded ⊢
  rw [below]
  generalize Nat.pow 2 top = step at *
  have last : m.units + step ≤ Nat.pow 2 53 * step := by
    rcases grid with ⟨k, units⟩ | ⟨_, few⟩
    · have less : k < Nat.pow 2 53 := Nat.lt_of_mul_lt_mul_right (units ▸ bounded)
      rw [units, ← Nat.succ_mul]
      exact Nat.mul_le_mul_right _ less
    · simp only [Nat.pow_eq] at few ⊢
      omega
  have scaled := Nat.mul_le_mul_left denominator last
  rw [Nat.mul_add, Nat.mul_left_comm] at scaled
  simp only [Nat.pow_eq] at scaled ⊢
  omega

def tenths (m : Magnitude) : Nat :=
  roundHalfUp (m.units * 10) unitsPerOne

theorem tenthsBounds (m : Magnitude) :
    2 * (m.tenths * unitsPerOne) ≤ 20 * m.units + unitsPerOne ∧
      20 * m.units < 2 * (m.tenths * unitsPerOne) + unitsPerOne := by
  have positive := unitsPerOnePositive
  unfold tenths
  generalize unitsPerOne = unit at positive ⊢
  have passes := roundHalfUpPasses (m.units * 10) positive
  generalize roundHalfUp (m.units * 10) unit = k at passes ⊢
  have next : (2 * k + 1) * unit = 2 * (k * unit) + unit := by ring
  constructor
  · cases k with
    | zero => omega
    | succ j =>
      have passed := (passes j).mp (Nat.lt_succ_self j)
      have last : 2 * ((j + 1) * unit) = (2 * j + 1) * unit + unit := by ring
      omega
  · have above := mt (passes k).mpr (Nat.lt_irrefl k)
    omega

theorem tenthsOfBounds {m : Magnitude} {k : Nat} (low : 2 * (k * unitsPerOne) ≤ 20 * m.units + unitsPerOne)
    (high : 20 * m.units < 2 * (k * unitsPerOne) + unitsPerOne) : m.tenths = k := by
  have positive := unitsPerOnePositive
  obtain ⟨lower, upper⟩ := m.tenthsBounds
  generalize m.tenths = j at lower upper ⊢
  generalize unitsPerOne = unit at *
  rcases Nat.lt_trichotomy j k with less | same | more
  · have apart := Nat.mul_le_mul_right unit less
    rw [Nat.succ_mul] at apart
    omega
  · exact same
  · have apart := Nat.mul_le_mul_right unit more
    rw [Nat.succ_mul] at apart
    omega

theorem unitNotTenfold (n : Nat) : 10 * n ≠ unitsPerOne := by
  intro same
  have power : unitsPerOne = 2 ^ unitBits := by
    unfold unitsPerOne
    generalize unitBits = bits
    rfl
  have five : 5 ∣ 2 ^ unitBits := power ▸ ⟨2 * n, by omega⟩
  have two := Nat.prime_five.dvd_of_dvd_pow five
  revert two
  decide

/- The number nearest to tenths of a number has no other tenths: it is no farther from them than the number itself. Only
if both were half a tenth away, on either side, could they be others, and two numbers are never a tenth apart. -/
theorem tenthsReread (m : Magnitude) {n : Magnitude} (rounded : n.units = roundUnits (m.tenths * unitsPerOne) 10) :
    n.tenths = m.tenths := by
  have apart := unitNotTenfold (n.units - m.units)
  have near := (roundUnitsNearest (by decide) rounded m).1
  obtain ⟨lower, upper⟩ := m.tenthsBounds
  suffices bounds : 2 * (m.tenths * unitsPerOne) ≤ 20 * n.units + unitsPerOne ∧
      20 * n.units < 2 * (m.tenths * unitsPerOne) + unitsPerOne from tenthsOfBounds bounds.1 bounds.2
  generalize m.tenths * unitsPerOne = k at *
  have scaled (units : Nat) : ((((k : Int) - 10 * units).natAbs : Nat) : ℚ) = |(k : ℚ) / (10 : Nat) - units| * 10 := by
    have tenfold : (((k : Int) - 10 * units : Int) : ℚ) = (k / (10 : Nat) - units) * 10 := by
      push_cast
      ring
    rw [Nat.cast_natAbs, Int.cast_abs, tenfold, abs_mul, abs_of_pos (show (0 : ℚ) < 10 by norm_num)]
  have close : ((k : Int) - 10 * n.units).natAbs ≤ ((k : Int) - 10 * m.units).natAbs := by
    have close := mul_le_mul_of_nonneg_right near (show (0 : ℚ) ≤ 10 by norm_num)
    rw [← scaled, ← scaled] at close
    exact_mod_cast close
  -- Both are half a tenth away at most, and a whole one apart if the upper bound were reached.
  omega

end Magnitude

namespace Expression
open Binary64 (exact signed Nearest)
open Numeral (Spelled classStyle number?)

def tenthsText (minus : Bool) (k : Nat) : List Char :=
  Binary64.signText minus ++ Nat.toDigits 10 (k / 10) ++ ['.', Nat.digitChar (k % 10)]

theorem numberText (negative : Bool) (m : Magnitude) :
    number (.finite negative m) = String.ofList (tenthsText (negative && m.units != 0) m.tenths) :=
  fixedOnePlace negative m.units unitsPerOne

theorem tenthsSpelled (minus : Bool) (k : Nat) : Spelled classStyle (tenthsText minus k) ⟨minus, k, -1⟩ := by
  have small : k % 10 < 10 := Nat.mod_lt _ (by decide)
  have whole := Numeral.toDigitsDigits (k / 10)
  have sign : Numeral.Sign minus (Binary64.signText minus) := by
    cases minus
    · exact .none
    · exact .minus
  have place : Numeral.AllDigits classStyle [Nat.digitChar (k % 10)] :=
    List.forall_mem_singleton.mpr (Numeral.asciiIsDigit (Numeral.digitCharAscii small))
  have noExponent : Numeral.Exponent classStyle 0 [] := .none
  have parts := Spelled.parts sign
    (.pointed (.inl whole.1) (fun c inside => Numeral.asciiIsDigit (whole.2 c inside)) place) noExponent
  rw [Numeral.digitsValueSplit, List.append_nil, ← List.append_assoc] at parts
  exact parts

theorem tenthsRead (minus : Bool) (k : Nat) :
    number? (tenthsText minus k) = some (Decimal.toBinary64 ⟨minus, k, -1⟩) := by
  have spelled := tenthsSpelled minus k
  have clean : (tenthsText minus k).getLast? ≠ some '\n' := by
    intro last
    have blank := Numeral.numeralNotBlank spelled '\n' (List.mem_of_getLast? last)
    revert blank
    decide
  rw [number?, Numeral.newlineKept clean, (Numeral.readSpelled Numeral.classSeparate).mpr spelled]
  rfl

theorem tenthsNumber (minus : Bool) (m : Magnitude) :
    ∃ n, Decimal.toBinary64 ⟨minus, m.tenths, -1⟩ = .finite minus n ∧
      n.units = Magnitude.roundUnits (m.tenths * unitsPerOne) 10 := by
  by_cases zero : m.tenths = 0
  · refine ⟨.zero, if_pos zero, ?_⟩
    rw [zero, Nat.zero_mul, Magnitude.roundUnitsNone (by decide)]
    rfl
  · have bounded : Magnitude.roundUnits (m.tenths * unitsPerOne) 10 < unitsLimit := by
      obtain ⟨top, bits⟩ : ∃ top, unitBits + wholeBits = 53 + top := ⟨2045, rfl⟩
      have step : unitsPerOne ≤ Nat.pow 2 top := by
        have many : 53 ≤ wholeBits := by decide
        have few : unitBits ≤ top := by omega
        unfold unitsPerOne
        generalize unitBits = least at few
        exact Nat.pow_le_pow_right (by decide) few
      have lower := m.tenthsBounds.1
      have some : 0 < Nat.pow 2 top := Nat.two_pow_pos top
      refine Magnitude.roundUnitsWithin (by decide) m bits ?_
      generalize m.tenths * unitsPerOne = k at *
      omega
    obtain ⟨n, made, units⟩ := Binary64.ofQuotientUnits minus bounded
    have below : ¬(0 : Int) ≤ -1 := by decide
    have inRange : ¬(m.tenths.log2 : Int) + 1 + 3 * -1 < Decimal.underflowBits := by
      unfold Decimal.underflowBits
      omega
    refine ⟨n, ?_, units⟩
    rw [Decimal.toBinary64, if_neg zero, if_neg below, if_neg inRange]
    exact made

def signedTenths (minus : Bool) (k : Nat) : Int :=
  if minus then -k else k

theorem signedTenthsZero {minus : Bool} {k : Nat} : signedTenths minus k = 0 ↔ k = 0 := by
  cases minus <;> simp [signedTenths]

theorem tenthsTextTenths (minus : Bool) (k : Nat) : Tenths (tenthsText minus k) (signedTenths minus k) := by
  obtain ⟨plain, negated⟩ := digitsTenths k
  cases minus
  · exact plain
  · exact negated

theorem negativeZero (minus : Bool) (k : Nat) :
    String.ofList (tenthsText minus k) = "-0.0" ↔ minus = true ∧ k = 0 := by
  constructor
  · intro same
    have text : tenthsText minus k = "-0.0".toList := by rw [← same, String.toList_ofList]
    have zero : Tenths "-0.0".toList (signedTenths true 0) := tenthsTextTenths true 0
    obtain rfl : k = 0 := signedTenthsZero.mp (tenthsOnce (text ▸ tenthsTextTenths minus k) zero)
    cases minus
    · exact absurd text (by decide)
    · exact ⟨rfl, rfl⟩
  · intro both
    obtain ⟨rfl, rfl⟩ := both
    rfl

theorem noTenths (m : Magnitude) : m.tenths = 0 ↔ 20 * m.units < unitsPerOne := by
  constructor
  · intro none
    have upper := m.tenthsBounds.2
    rwa [none, Nat.zero_mul, Nat.mul_zero, Nat.zero_add] at upper
  · intro few
    refine Magnitude.tenthsOfBounds ?_ ?_
    · rw [Nat.zero_mul]
      exact Nat.zero_le _
    · rwa [Nat.zero_mul, Nat.mul_zero, Nat.zero_add]

theorem tenthsLost (negative : Bool) (m : Magnitude) :
    (negative && m.units != 0) = true ∧ m.tenths = 0 ↔ -1 / 20 < exact negative m ∧ exact negative m < 0 := by
  have unit : (0 : ℚ) < unitsPerOne := by exact_mod_cast unitsPerOnePositive
  cases negative
  · have some : (0 : ℚ) ≤ m.units / unitsPerOne := div_nonneg (Nat.cast_nonneg _) unit.le
    exact iff_of_false (fun both => absurd both.1 Bool.false_ne_true) fun both => absurd both.2 (not_lt.mpr some)
  · have few : -1 / 20 < exact true m ↔ 20 * m.units < unitsPerOne := by
      have turned : -1 / 20 < exact true m ↔ (m.units / unitsPerOne : ℚ) < 1 / 20 := by
        rw [exact, Binary64.signedMinus, neg_div, neg_lt_neg_iff]
      rw [turned, div_lt_div_iff₀ unit (by norm_num), one_mul, mul_comm]
      exact_mod_cast Iff.rfl
    have some : exact true m < 0 ↔ m.units ≠ 0 := by
      rw [exact, Binary64.signedMinus, neg_neg_iff_pos, ← Nat.pos_iff_ne_zero]
      rw [div_pos_iff_of_pos_right unit, Nat.cast_pos]
    rw [few, some, noTenths, Bool.true_and, bne_iff_ne]
    exact and_comm

theorem tenthsNearest {minus : Bool} {k : Nat} {n : Magnitude}
    (rounded : n.units = Magnitude.roundUnits (k * unitsPerOne) 10) : Nearest (signedTenths minus k / 10) minus n := by
  have unit : (unitsPerOne : ℚ) ≠ 0 := by exact_mod_cast unitsPerOnePositive.ne'
  have nearest := Binary64.roundUnitsSigned (by decide) rounded minus
  have value : ((k * unitsPerOne : Nat) : ℚ) / (10 : Nat) / unitsPerOne = k / 10 := by
    push_cast
    field_simp
  have sign : signed minus (k / 10 : ℚ) = signedTenths minus k / 10 := by
    cases minus
    · rw [Binary64.signedPlain, signedTenths, if_neg (by decide), Int.cast_natCast]
    · rw [Binary64.signedMinus, signedTenths, if_pos rfl, Int.cast_neg, Int.cast_natCast, neg_div]
  rwa [value, sign] at nearest

theorem rereadText {minus : Bool} {m n : Magnitude}
    (rounded : n.units = Magnitude.roundUnits (m.tenths * unitsPerOne) 10) :
    number (.finite minus n) = String.ofList (tenthsText (minus && m.tenths != 0) m.tenths) := by
  have same := m.tenthsReread rounded
  have some : (n.units != 0) = (m.tenths != 0) := by
    rw [Bool.eq_iff_iff, bne_iff_ne, bne_iff_ne, not_iff_not]
    constructor
    · intro none
      rw [← same, noTenths, none]
      exact unitsPerOnePositive
    · intro none
      rw [rounded, none, Nat.zero_mul, Magnitude.roundUnitsNone (by decide)]
  rw [numberText, same, some]

/- What is written is read again as a number nearest to the tenths that it says, and that number is written in the same
way. Only numbers less than half a tenth below zero are written as a negative zero, which is not kept. -/
theorem numberReread (negative : Bool) (m : Magnitude) :
    let text := number (.finite negative m)
    ∃ sign n k, number? text.toList = some (.finite sign n) ∧
      Tenths text.toList k ∧ NearestTenths (exact negative m) k ∧ Nearest (k / 10) sign n ∧
      (text = "-0.0" ↔ -1 / 20 < exact negative m ∧ exact negative m < 0) ∧
      (k = 0 → text = "0.0" ∨ text = "-0.0") ∧
      number (.finite sign n) = if text = "-0.0" then "0.0" else text := by
  intro text
  have told : text = String.ofList (tenthsText (negative && m.units != 0) m.tenths) := numberText negative m
  have lost := tenthsLost negative m
  generalize (negative && m.units != 0) = minus at told lost
  have zero := negativeZero minus m.tenths
  obtain ⟨n, read, rounded⟩ := tenthsNumber minus m
  obtain ⟨k, tenths, nearest, _⟩ := numberRounds negative m
  have own := tenthsTextTenths minus m.tenths
  have characters : text.toList = tenthsText minus m.tenths := by rw [told, String.toList_ofList]
  change Tenths text.toList k at tenths
  rw [characters] at tenths
  rw [tenthsOnce tenths own] at nearest
  rw [← told] at zero
  refine ⟨minus, n, signedTenths minus m.tenths, ?_, characters ▸ own, nearest, tenthsNearest rounded, zero.trans lost,
    ?_, ?_⟩
  · rw [characters, tenthsRead, read]
  · intro none
    rw [told, signedTenthsZero.mp none]
    cases minus
    · exact .inl rfl
    · exact .inr rfl
  · rw [rereadText rounded]
    by_cases none : m.tenths = 0
    · -- The sign of a zero is lost now, if it was there.
      cases minus
      · rw [if_neg (by simp [zero]), told, none]
        rfl
      · rw [if_pos (zero.mpr ⟨rfl, none⟩), none]
        rfl
    · have some : (m.tenths != 0) = true := bne_iff_ne.mpr none
      rw [if_neg (by simp [zero, none]), told, some, Bool.and_true]

theorem negativeZeroWritten : ∃ m : Magnitude, number? "-0.04".toList = some (.finite true m) ∧
    number (.finite true m) = "-0.0" ∧ (number? "-0.0".toList).map number = some "0.0" := by
  let m : Magnitude := ⟨5764607523034235 * Nat.pow 2 1017,
    ⟨5764607523034235, 1017, by decide +kernel, by decide +kernel⟩, by decide +kernel⟩
  exact ⟨m, by decide +kernel, by decide +kernel, by decide +kernel⟩

end Expression

end UtilityLayout
