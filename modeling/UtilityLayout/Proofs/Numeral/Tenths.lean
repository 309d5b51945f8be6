import Mathlib.Data.Int.Cast.Lemmas
import UtilityLayout.Proofs.Binary64.Nearest
import UtilityLayout.Proofs.Utility.Forms

/-! Numbers as they are written: the exact value is rounded to tenths, and nothing else is lost. -/
namespace UtilityLayout.Expression
open Binary64 (exact signed Nearest)
open Numeral (IsDigits)

/- So many tenths: a minus sign or none, digits, a point and one digit. The digits before the point begin with a zero
only if there is no other. -/
inductive Tenths : List Char → Int → Prop where
  | plain {whole place} (digits : IsDigits whole) (proper : whole.head? = some '0' → whole = ['0'])
      (digit : Text.isAsciiDigit place = true) : Tenths (whole ++ ['.', place]) (Text.digitsValue (whole ++ [place]))
  | minus {whole place} (digits : IsDigits whole) (proper : whole.head? = some '0' → whole = ['0'])
      (digit : Text.isAsciiDigit place = true) :
      Tenths ('-' :: (whole ++ ['.', place])) (-Text.digitsValue (whole ++ [place]))

structure NearestTenths (q : ℚ) (k : Int) : Prop where
  near : ∀ other : Int, |q - k / 10| ≤ |q - other / 10|
  away : ∀ other : Int, |q - other / 10| = |q - k / 10| → |other| ≤ |k|

theorem signNoDigit {whole : List Char} (digits : IsDigits whole) (place : Char) :
    (whole ++ ['.', place]).head? ≠ some '-' := by
  obtain ⟨first, rest, rfl⟩ := List.exists_cons_of_ne_nil digits.1
  intro same
  cases same
  have minus := digits.2 '-' List.mem_cons_self
  contradiction

theorem pointSplit {whole other : List Char} {place last : Char} (same : whole ++ ['.', place] = other ++ ['.', last]) :
    whole ++ [place] = other ++ [last] := by
  obtain ⟨rfl, ends⟩ := List.append_inj' same rfl
  cases ends
  rfl

theorem tenthsOnce {text : List Char} {k l : Int} (first : Tenths text k) (second : Tenths text l) : k = l := by
  generalize again : text = copy at second
  cases first with
  | plain digits proper digit =>
    cases second with
    | plain => rw [pointSplit again]
    | minus => exact absurd (congrArg List.head? again) (signNoDigit digits _)
  | minus =>
    cases second with
    | plain digits proper digit => exact absurd (congrArg List.head? again.symm) (signNoDigit digits _)
    | minus => rw [pointSplit (List.cons.inj again).2]

theorem tenthsRounded {q : ℚ} (some : 0 ≤ q) {k : Nat} (low : 2 * k - 1 ≤ 20 * q) (high : 20 * q < 2 * k + 1) :
    NearestTenths q k := by
  have half : |q - (k : Int) / 10| ≤ 1 / 20 := by
    rw [Int.cast_natCast]
    exact abs_le.mpr ⟨by linarith, by linarith⟩
  have beyond {other : Int} (more : k < other) : 1 / 20 < |q - other / 10| := by
    have next : (k : ℚ) + 1 ≤ other := by exact_mod_cast more
    have gap := neg_le_abs (q - other / 10)
    linarith
  have before {other : Int} (less : other < k) : 1 / 20 ≤ |q - other / 10| := by
    have next : (other : ℚ) + 1 ≤ k := by exact_mod_cast less
    have gap := le_abs_self (q - other / 10)
    linarith
  refine ⟨fun other => ?_, fun other tie => ?_⟩
  · rcases lt_trichotomy other k with less | rfl | more
    · exact half.trans (before less)
    · exact le_rfl
    · exact half.trans (beyond more).le
  · have within : |q - other / 10| ≤ 1 / 20 := tie.trans_le half
    have few : other ≤ k := not_lt.mp fun more => absurd within (not_le.mpr (beyond more))
    -- Half a tenth below zero is no tenth.
    have positive : 0 ≤ other := by
      by_contra negative
      have below : (other : ℚ) + 1 ≤ 0 := by exact_mod_cast not_le.mp negative
      have gap := (le_abs_self _).trans within
      linarith
    rw [abs_of_nonneg positive, abs_of_nonneg (positive.trans few)]
    exact few

theorem tenthsNegated {q : ℚ} {k : Int} (nearest : NearestTenths q k) : NearestTenths (-q) (-k) := by
  have mirror (n : Int) : |-q - n / 10| = |q - (-n : Int) / 10| := by
    rw [← abs_neg, Int.cast_neg]
    congr 1
    ring
  refine ⟨fun other => ?_, fun other tie => ?_⟩
  · rw [mirror, mirror, neg_neg]
    exact nearest.near _
  · rw [mirror, mirror, neg_neg] at tie
    have less := nearest.away _ tie
    rwa [abs_neg] at less ⊢

theorem tenthsOrdered {p q : ℚ} {k l : Int} (first : NearestTenths p k) (second : NearestTenths q l) (ordered : p ≤ q) :
    k ≤ l := by
  by_contra above
  have less : (l / 10 : ℚ) < k / 10 := by
    have less : (l : ℚ) < k := by exact_mod_cast not_le.mp above
    linarith
  have past := pastMiddle less (first.near l)
  have before := beforeMiddle less (second.near k)
  -- Both values are in the middle of the two tenths, so that these are equally far from zero, which is the middle.
  have same : p = q := by linarith
  subst same
  have tie : |p - l / 10| = |p - k / 10| := by
    rw [← abs_neg]
    congr 1
    linarith
  have far : |k| = |l| := le_antisymm (second.away k tie.symm) (first.away l tie)
  rcases abs_eq_abs.mp far with rfl | rfl
  · exact above le_rfl
  · have zero := first.near 0
    rw [Int.cast_neg] at less past before zero
    have middle : p = 0 := by linarith
    rw [middle, Int.cast_zero, zero_div, sub_zero, abs_zero, abs_nonpos_iff] at zero
    linarith

theorem halfUpTenths (numerator : Nat) {denominator : Nat} (positive : 0 < denominator) :
    NearestTenths (numerator / denominator) (roundHalfUp (numerator * 10) denominator : Nat) := by
  have passes := roundHalfUpPasses (numerator * 10) positive
  generalize roundHalfUp (numerator * 10) denominator = k at passes
  have divisor : (0 : ℚ) < denominator := by exact_mod_cast positive
  have scaled : 20 * (numerator / denominator : ℚ) = (2 * (numerator * 10) : Nat) / denominator := by
    push_cast
    ring
  refine tenthsRounded (div_nonneg (Nat.cast_nonneg _) (Nat.cast_nonneg _)) ?_ ?_
  · cases k with
    | zero =>
      have some : (0 : ℚ) ≤ numerator / denominator := div_nonneg (Nat.cast_nonneg _) (Nat.cast_nonneg _)
      rw [Nat.cast_zero]
      linarith
    | succ j =>
      rw [scaled, le_div_iff₀ divisor]
      have passed : ((2 * j + 1) * denominator : ℚ) ≤ (2 * (numerator * 10) : Nat) := by
        exact_mod_cast (passes j).mp (Nat.lt_succ_self j)
      push_cast at passed ⊢
      linarith
  · rw [scaled, div_lt_iff₀ divisor]
    exact_mod_cast not_le.mp fun passed => absurd ((passes k).mpr passed) (Nat.lt_irrefl k)

theorem digitsTenths (k : Nat) : Tenths (Nat.toDigits 10 (k / 10) ++ ['.', Nat.digitChar (k % 10)]) k ∧
    Tenths ('-' :: (Nat.toDigits 10 (k / 10) ++ ['.', Nat.digitChar (k % 10)])) (-k) := by
  have small : k % 10 < 10 := Nat.mod_lt _ (by decide)
  have proper : (Nat.toDigits 10 (k / 10)).head? = some '0' → Nat.toDigits 10 (k / 10) = ['0'] := by
    intro zero
    by_cases none : k / 10 = 0
    · rw [none]
      rfl
    · exact absurd zero (Numeral.toDigitsLeading none)
  have plain := Tenths.plain (Numeral.toDigitsDigits (k / 10)) proper (Numeral.digitCharAscii small)
  have minus := Tenths.minus (Numeral.toDigitsDigits (k / 10)) proper (Numeral.digitCharAscii small)
  rw [Numeral.digitsValueSplit] at plain minus
  exact ⟨plain, minus⟩

def Rounds (text : List Char) (q : ℚ) : Prop :=
  ∃ k, Tenths text k ∧ NearestTenths q k ∧ (k < 0 → text.head? = some '-') ∧ (0 ≤ q → text.head? ≠ some '-')

theorem numberRounds (negative : Bool) (m : Magnitude) :
    Rounds (number (.finite negative m)).toList (exact negative m) := by
  have nearest := halfUpTenths m.units unitsPerOnePositive
  obtain ⟨plain, minus⟩ := digitsTenths (roundHalfUp (m.units * 10) unitsPerOne)
  have unsigned := signNoDigit (Numeral.toDigitsDigits (roundHalfUp (m.units * 10) unitsPerOne / 10))
    (Nat.digitChar (roundHalfUp (m.units * 10) unitsPerOne % 10))
  rw [number, fixedOnePlace, String.toList_ofList, exact]
  generalize roundHalfUp (m.units * 10) unitsPerOne = k at *
  have unsignedText : Rounds (Nat.toDigits 10 (k / 10) ++ ['.', Nat.digitChar (k % 10)]) (m.units / unitsPerOne) :=
    ⟨k, plain, nearest, fun below => absurd below (not_lt.mpr (Int.natCast_nonneg k)), fun _ => unsigned⟩
  by_cases signless : (negative && m.units != 0) = false
  · have same : Binary64.signed negative (m.units / unitsPerOne) = m.units / unitsPerOne := by
      rcases Bool.and_eq_false_iff.mp signless with rfl | zero
      · exact Binary64.signedPlain _
      · -- An exact zero loses its sign.
        rw [bne_eq_false_iff_eq.mp zero, Nat.cast_zero, zero_div]
        cases negative
        · exact Binary64.signedPlain 0
        · exact (Binary64.signedMinus 0).trans neg_zero
    have text : Binary64.signText false = [] := rfl
    rw [signless, text, List.nil_append, same]
    exact unsignedText
  · rw [Bool.not_eq_false] at signless
    have text : Binary64.signText true = ['-'] := rfl
    obtain ⟨rfl, some⟩ := Bool.and_eq_true_iff.mp signless
    have positive : (0 : ℚ) < m.units / unitsPerOne :=
      div_pos (by exact_mod_cast Nat.pos_of_ne_zero (bne_iff_ne.mp some)) (by exact_mod_cast unitsPerOnePositive)
    rw [signless, text, List.append_assoc, List.singleton_append, Binary64.signedMinus]
    refine ⟨-k, minus, tenthsNegated nearest, fun _ => rfl, fun least => ?_⟩
    exact absurd least (not_le.mpr (neg_neg_of_pos positive))

end UtilityLayout.Expression

namespace UtilityLayout

def Numeric.exact? : Numeric → Option ℚ
  | .whole i => some i
  | .real (.finite negative m) => some (Binary64.exact negative m)
  | .real _ => none

namespace Expression
open Binary64 (exact Nearest)

theorem numericWhole (i : Int) : numeric? (.whole i) = (Binary64.ofInt? i).map number := rfl

theorem numericNearest {a : Numeric} {q : ℚ} {text : String} (value : a.exact? = some q)
    (written : numeric? a = some text) : ∃ negative m, Nearest q negative m ∧ text = number (.finite negative m) := by
  cases a with
  | whole i =>
    cases value
    rw [numericWhole] at written
    obtain ⟨x, rounds, rfl⟩ := Option.map_eq_some_iff.mp written
    obtain ⟨negative, m, rfl, nearest⟩ := Binary64.ofIntNearest rounds
    exact ⟨negative, m, nearest, rfl⟩
  | real x =>
    cases x with
    | finite negative m =>
      cases value
      cases written
      exact ⟨negative, m, Binary64.nearestSelf negative m, rfl⟩
    | _ => cases value

theorem exactSame {a b : Numeric} {q : ℚ} (left : a.exact? = some q) (right : b.exact? = some q) :
    a = b ∨ ∃ negative m, q = exact negative m := by
  cases a with
  | whole i =>
    cases b with
    | whole j =>
      cases left
      have same : (j : ℚ) = i := Option.some.inj right
      rw [Int.cast_injective same]
      exact .inl rfl
    | real y =>
      cases y with
      | finite negative m => exact .inr ⟨negative, m, (Option.some.inj right).symm⟩
      | _ => cases right
  | real x =>
    cases x with
    | finite negative m => exact .inr ⟨negative, m, (Option.some.inj left).symm⟩
    | _ => cases left

theorem numericOrdered {a b : Numeric} {p q : ℚ} {first second : String} {k l : Int} (left : a.exact? = some p)
    (right : b.exact? = some q) (here : numeric? a = some first) (there : numeric? b = some second)
    (low : Tenths first.toList k) (high : Tenths second.toList l) (ordered : p ≤ q) : k ≤ l := by
  obtain ⟨s, m, near, written⟩ := numericNearest left here
  obtain ⟨t, n, far, rewritten⟩ := numericNearest right there
  obtain ⟨_, told, nearest, _⟩ := numberRounds s m
  obtain ⟨_, again, farthest, _⟩ := numberRounds t n
  rw [← written] at told
  rw [← rewritten] at again
  cases tenthsOnce low told
  cases tenthsOnce high again
  rcases ordered.lt_or_eq with less | rfl
  · exact tenthsOrdered nearest farthest (Binary64.nearestOrdered near far less)
  · rcases exactSame left right with rfl | ⟨negative, r, rfl⟩
    · rw [here] at there
      cases there
      exact (tenthsOnce told again).le
    · rw [Binary64.nearestExact near] at nearest
      rw [Binary64.nearestExact far] at farthest
      exact tenthsOrdered nearest farthest le_rfl

theorem numberNearestTenths :
    (∀ negative m, Rounds (number (.finite negative m)).toList (exact negative m)) ∧
    (∀ i, (numeric? (.whole i) = none ↔ Nat.pow 2 1024 - Nat.pow 2 970 ≤ i.natAbs) ∧
      ∀ text, numeric? (.whole i) = some text →
        ∃ negative m, Nearest i negative m ∧ text = number (.finite negative m)) ∧
    ∀ a b p q first second k l, a.exact? = some p → b.exact? = some q → numeric? a = some first →
      numeric? b = some second → Tenths first.toList k → Tenths second.toList l → p ≤ q → k ≤ l := by
  refine ⟨numberRounds, fun i => ⟨?_, fun text written => @numericNearest (.whole i) i text rfl written⟩, ?_⟩
  · rw [numericWhole, Option.map_eq_none_iff, Binary64.ofIntOverflow]
  · intro a b p q first second k l left right here there low high ordered
    exact numericOrdered left right here there low high ordered

theorem numberNearestTenthsHalfway :
    ∃ m : Magnitude, 4 * m.units = unitsPerOne ∧
      Rounds "-0.3".toList (exact true m) ∧
      numeric? (.whole 9007199254740993) = some "9007199254740992.0" ∧
      (∃ negative n, Nearest (9007199254740993 : Int) negative n ∧ "9007199254740992.0" = number (.finite negative n)) ∧
      exact true m ≤ ((9007199254740993 : Int) : ℚ) ∧ Tenths "-0.3".toList (-3) ∧
      Tenths "9007199254740992.0".toList 90071992547409920 ∧ (-3 : Int) ≤ 90071992547409920 := by
  let m : Magnitude := ⟨Nat.pow 2 1072, ⟨1, 1072, by decide +kernel, by decide +kernel⟩, by decide +kernel⟩
  have quarter : 4 * m.units = unitsPerOne := by decide +kernel
  have real : numeric? (.real (.finite true m)) = some "-0.3" := by decide +kernel
  have whole : numeric? (.whole 9007199254740993) = some "9007199254740992.0" := by decide +kernel
  have low : Tenths "-0.3".toList (-3) := (digitsTenths 3).2
  have high : Tenths "9007199254740992.0".toList 90071992547409920 := (digitsTenths 90071992547409920).1
  clear_value m
  have ordered : exact true m ≤ ((9007199254740993 : Int) : ℚ) := by
    have some : (0 : ℚ) ≤ m.units / unitsPerOne := div_nonneg (Nat.cast_nonneg _) (Nat.cast_nonneg _)
    rw [exact, Binary64.signedMinus]
    exact (neg_nonpos.mpr some).trans (by norm_num)
  obtain ⟨rounds, nearest, monotone⟩ := numberNearestTenths
  have text := rounds true m
  rw [Option.some.inj real] at text
  refine ⟨m, quarter, text, whole, (nearest _).2 _ whole, ordered, low, high, ?_⟩
  exact monotone (.real (.finite true m)) (.whole 9007199254740993) _ _ _ _ _ _ rfl rfl real whole low high ordered

end Expression

end UtilityLayout
