import UtilityLayout.Json.Printer
import UtilityLayout.Proofs.Json.Outside

/-! The texts of numbers in the grammar. The shortest digits of a number other than zero begin with another digit than
zero, because zero does not read back as that number; so no text of them has a superfluous zero. -/
namespace UtilityLayout

namespace Binary64.Shortest

theorem stepAtMost {m : Magnitude} (positive : m.units ≠ 0) :
    Nat.pow 2 (Magnitude.surplusBits m.units) ≤ m.units := by
  have fewer : Magnitude.surplusBits m.units ≤ m.units.log2 := Nat.sub_le _ _
  exact Nat.le_trans (Nat.pow_le_pow_right (by decide) fewer) (Nat.log2_self_le positive)

theorem lowPositive {m : Magnitude} (positive : m.units ≠ 0) : 0 < (interval m).low := by
  have step := stepAtMost positive
  simp only [interval]
  split <;> omega

theorem containsPositive {i : Interval} {numerator denominator : Nat} (low : 0 < i.low)
    (positive : 0 < denominator) (inside : i.contains numerator denominator = true) : numerator ≠ 0 := by
  have least : 0 < i.low * denominator := Nat.mul_pos low positive
  intro zero
  subst zero
  unfold Interval.contains at inside
  split at inside
  · simp only [Bool.and_eq_true, decide_eq_true_eq] at inside
    omega
  · simp only [Bool.and_eq_true, decide_eq_true_eq] at inside
    omega

theorem gridPositive {m : Magnitude} {length n : Nat} {exponent : Int} (positive : m.units ≠ 0)
    (found : onGrid? m length = some (n, exponent)) : n ≠ 0 := by
  have reads (lower unit denominator : Nat) (some : 0 < denominator)
      (inside : (interval m).contains (2 * lower * unit) denominator = true) : lower ≠ 0 := by
    have product := containsPositive (lowPositive positive) some inside
    intro zero
    subst zero
    simp at product
  have denominator (exponent : Int) : 0 < (scaled unitsPerOne exponent).2 := Nat.pow_pos (by decide)
  unfold onGrid? at found
  simp only at found
  split at found
  · rename_i lower _
    have some := reads _ _ _ (denominator _) lower
    rw [← (Prod.mk.inj (Option.some.inj found)).1]
    split
    · exact Nat.succ_ne_zero _
    · exact some
  · rename_i lower _
    rw [← (Prod.mk.inj (Option.some.inj found)).1]
    exact reads _ _ _ (denominator _) lower
  · rw [← (Prod.mk.inj (Option.some.inj found)).1]
    exact Nat.succ_ne_zero _
  · contradiction

theorem searchPositive {m : Magnitude} (positive : m.units ≠ 0) (more length : Nat) :
    (search m more length).1 ≠ 0 := by
  induction more generalizing length with
  | zero =>
    rw [search]
    cases found : onGrid? m length with
    | none => exact positive
    | some pair => exact gridPositive positive found
  | succ more ih =>
    rw [search]
    split
    · rename_i pair found
      exact gridPositive positive found
    · exact ih (length + 1)

theorem dropTrailingParts (digits : List Char) :
    ∃ zeros, digits = dropTrailingZeros digits ++ zeros ∧ ∀ c ∈ zeros, c = '0' := by
  refine ⟨(digits.reverse.takeWhile (· == '0')).reverse, ?_, ?_⟩
  · rw [dropTrailingZeros, ← List.reverse_append, List.takeWhile_append_dropWhile, List.reverse_reverse]
  · intro c inside
    have zero := List.all_takeWhile (p := (· == '0')) (l := digits.reverse)
    rw [List.all_eq_true] at zero
    simpa using zero c (List.mem_reverse.mp inside)

theorem dropTrailingDigits {n : Nat} (positive : n ≠ 0) :
    Numeral.IsDigits (dropTrailingZeros (Nat.toDigits 10 n)) ∧
      (dropTrailingZeros (Nat.toDigits 10 n)).head? ≠ some '0' := by
  have digits := Numeral.toDigitsDigits n
  have leading := Numeral.toDigitsLeading positive
  obtain ⟨zeros, whole, zero⟩ := dropTrailingParts (Nat.toDigits 10 n)
  generalize Nat.toDigits 10 n = written at *
  -- All digits would be dropped only if the first one was zero.
  have kept : dropTrailingZeros written ≠ [] := by
    intro nothing
    rw [nothing, List.nil_append] at whole
    obtain ⟨c, rest, same⟩ := List.exists_cons_of_ne_nil digits.1
    rw [same, zero c (by rw [← whole, same]; exact List.mem_cons_self)] at leading
    contradiction
  refine ⟨⟨kept, fun c inside => digits.2 c ?_⟩, ?_⟩
  · rw [whole]
    exact List.mem_append_left _ inside
  · obtain ⟨c, rest, same⟩ := List.exists_cons_of_ne_nil kept
    rw [whole, same] at leading
    rw [same]
    exact leading

end Binary64.Shortest

namespace Binary64
open Numeral (IsDigits)
open Json.Grammar

def Digits.Proper (d : Digits) : Prop :=
  IsDigits d.digits ∧ d.digits.head? ≠ some '0' ∨ d = ⟨['0'], 0⟩

theorem shortestProper (m : Magnitude) : (shortestDigits m).Proper := by
  unfold shortestDigits
  split
  · exact .inr rfl
  · rename_i positive
    have some := Shortest.searchPositive positive 16 1
    generalize Shortest.search m 16 1 = found at some
    obtain ⟨n, exponent⟩ := found
    exact .inl (Shortest.dropTrailingDigits some)

theorem zerosDigits (count : Nat) : ∀ c ∈ List.replicate count '0', Text.isAsciiDigit c = true := by
  intro c inside
  rw [List.eq_of_mem_replicate inside]
  decide

theorem digitsAppend {first second : List Char} (one : ∀ c ∈ first, Text.isAsciiDigit c = true)
    (two : ∀ c ∈ second, Text.isAsciiDigit c = true) (some : first ≠ [] ∨ second ≠ []) :
    IsDigits (first ++ second) := by
  refine ⟨?_, fun c inside => ?_⟩
  · rcases some with some | some
    · exact List.append_ne_nil_of_left_ne_nil some _
    · exact List.append_ne_nil_of_right_ne_nil _ some
  · rcases List.mem_append.mp inside with inside | inside
    · exact one c inside
    · exact two c inside

theorem zerosBefore {digits : List Char} (written : IsDigits digits) (count : Nat) :
    IsDigits (List.replicate count '0' ++ digits) :=
  digitsAppend (zerosDigits count) written.2 (.inr written.1)

theorem zerosAfter {digits : List Char} (written : IsDigits digits) (count : Nat) :
    IsDigits (digits ++ List.replicate count '0') :=
  digitsAppend written.2 (zerosDigits count) (.inl written.1)

def IsUnsigned (text : List Char) : Prop :=
  ∃ whole fraction exponent, IsWhole whole ∧ IsFraction fraction ∧ IsExponent exponent ∧
    text = whole ++ fraction ++ exponent

theorem belowOneText {digits : List Char} (written : IsDigits digits) (zeros : Nat) :
    IsUnsigned (['0', '.'] ++ List.replicate zeros '0' ++ digits) := by
  refine ⟨['0'], '.' :: (List.replicate zeros '0' ++ digits), [], .inl rfl, ?_, .inl rfl, by simp⟩
  exact .inr ⟨_, zerosBefore written zeros, rfl⟩

theorem positionalText {digits : List Char} (written : IsDigits digits) (leading : digits.head? ≠ some '0')
    (last : Nat) :
    IsUnsigned (digits.take (last + 1) ++ ['.'] ++
      if (digits.drop (last + 1)).isEmpty then ['0'] else digits.drop (last + 1)) := by
  have whole : IsWhole (digits.take (last + 1)) := by
    refine .inr ⟨⟨?_, fun c inside => written.2 c (List.mem_of_mem_take inside)⟩, ?_⟩
    · simpa using written.1
    · simpa [List.head?_take] using leading
  have fraction : IsDigits (if (digits.drop (last + 1)).isEmpty then ['0'] else digits.drop (last + 1)) := by
    split
    · exact Numeral.zeroDigits
    · rename_i some
      exact ⟨by simpa using some, fun c inside => written.2 c (List.mem_of_mem_drop inside)⟩
  exact ⟨_, _, [], whole, .inr ⟨_, fraction, rfl⟩, .inl rfl, by simp⟩

theorem scientificText {digits significand : List Char}
    (parts : significand = match digits with
      | first :: second :: rest => first :: '.' :: second :: rest
      | short => short)
    (written : IsDigits digits) (leading : digits.head? ≠ some '0') {sign : Char}
    (signed : sign = '-' ∨ sign = '+') (exponent : Nat) :
    IsUnsigned (significand ++ ['e', sign] ++ padLeft 2 (Nat.toDigits 10 exponent)) := by
  have exponential : IsExponent ('e' :: [sign] ++ padLeft 2 (Nat.toDigits 10 exponent)) := by
    refine .inr ⟨'e', by simp, [sign], ?_, _, zerosBefore (Numeral.toDigitsDigits exponent) _, rfl⟩
    rcases signed with rfl | rfl <;> decide
  subst parts
  match digits with
  | [] => exact absurd rfl written.1
  | [first] => exact ⟨[first], [], _, .inr ⟨written, leading⟩, .inl rfl, exponential, by simp⟩
  | first :: second :: rest =>
    have whole : IsDigits [first] := ⟨by simp, by simpa using written.2 first List.mem_cons_self⟩
    have fraction : IsDigits (second :: rest) :=
      ⟨by simp, fun c inside => written.2 c (List.mem_cons_of_mem _ inside)⟩
    exact ⟨[first], '.' :: second :: rest, _, .inr ⟨whole, leading⟩, .inr ⟨_, fraction, rfl⟩, exponential,
      by simp⟩

theorem digitsText {d : Digits} (proper : d.Proper) : IsUnsigned (d.text Json.floatStyle) := by
  rcases proper with ⟨digits, leading⟩ | rfl
  · unfold Digits.text
    split
    · split
      · exact belowOneText digits _
      · refine positionalText (zerosAfter digits _) ?_ _
        obtain ⟨first, rest, same⟩ := List.exists_cons_of_ne_nil digits.1
        rw [same] at leading ⊢
        exact leading
    · refine scientificText rfl digits leading ?_ _
      split
      · exact .inl rfl
      · exact .inr rfl
  · exact ⟨['0'], ['.', '0'], [], .inl rfl, .inr ⟨['0'], Numeral.zeroDigits, rfl⟩, .inl rfl, by decide⟩

theorem finiteText (negative : Bool) (m : Magnitude) :
    IsNumber ((Binary64.finite negative m).text Json.floatStyle).toList := by
  obtain ⟨whole, fraction, exponent, wholly, fractional, exponential, same⟩ := digitsText (shortestProper m)
  refine ⟨signText negative, whole, fraction, exponent, signTextCases negative, wholly, fractional,
    exponential, ?_⟩
  rw [text, String.toList_ofList, same]
  simp

theorem otherText {x : Binary64} (other : x.isFinite = false) :
    placeAfter? .outside (x.text Json.floatStyle).toList = none := by
  cases x with
  | nan => decide
  | infinite negative => cases negative <;> decide
  | finite => contradiction

end Binary64

end UtilityLayout
