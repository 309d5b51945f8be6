import UtilityLayout.Proofs.Numeral.Acceptance
import UtilityLayout.Proofs.Text.Ending
import UtilityLayout.Proofs.Text.Words
import UtilityLayout.Utility.Reading

/-! The parts of a class name that the rules look at: its first and its last segment, the name of a size and the name of
a radius. A name has been trimmed, so none of these ends in a line feed, and the patterns for numbers apply to them
as they stand. -/
namespace UtilityLayout.Utility
open Text (EndsClean join)

def nameOf (written : List Char) : List Char :=
  Text.lower (Text.trim written)

def Starts (name : List Char) (word : String) : Prop :=
  (segments name).head? = some word.toList

instance (name : List Char) (word : String) : Decidable (Starts name word) := by
  unfold Starts; infer_instance

def lastSegment (name : List Char) : List Char :=
  (segments name).getLastD []

def sizeName (name : List Char) : List Char :=
  hyphenated ((segments name).drop 2)

def radiusName (name : List Char) : List Char :=
  let rest := hyphenated ((segments name).drop 1)
  if rest.isEmpty then defaultRadiusName else rest

theorem segmentsCons (name : List Char) : ∃ first rest, segments name = first :: rest :=
  List.exists_cons_of_ne_nil (Text.splitNonempty _ name)

theorem nameEndsClean (written : List Char) : EndsClean (nameOf written) :=
  Text.lowerEndsClean (Text.trimEndsClean written)

theorem hyphenatedSegments (name : List Char) : hyphenated (segments name) = name :=
  Text.joinSplit '-' name

theorem sizeEndsClean {name : List Char} (clean : EndsClean name) : EndsClean (sizeName name) := by
  refine Text.suffixEndsClean clean ?_
  have dropped := Text.joinDropSuffix ['-'] (segments name) 2
  rwa [← hyphenated, ← hyphenated, hyphenatedSegments] at dropped

theorem lastEndsClean {name : List Char} (clean : EndsClean name) : EndsClean (lastSegment name) := by
  refine Text.suffixEndsClean clean ?_
  obtain ⟨first, rest, same⟩ := segmentsCons name
  have last : (segments name).getLast? = some (lastSegment name) := by
    rw [lastSegment, same, List.getLast?_cons, List.getLastD_cons, List.getLastD_eq_getLast?]
  have suffix := Text.joinLastSuffix ['-'] last
  rwa [← hyphenated, hyphenatedSegments] at suffix

section Cut
variable {name first : List Char} {rest : List (List Char)} (cut : segments name = first :: rest)
include cut

theorem startsCut (word : String) : Starts name word ↔ first = word.toList := by
  rw [Starts, cut, List.head?_cons, Option.some.injEq]

theorem isCut (word : String) : is first word = true ↔ Starts name word := by
  rw [startsCut cut, is, beq_iff_eq]

theorem lastCut : lastSegment name = rest.getLastD first := by
  rw [lastSegment, cut, List.getLastD_cons]

theorem sizeCut : sizeName name = hyphenated (rest.drop 1) := by
  rw [sizeName, cut, List.drop_succ_cons]

theorem radiusCut (theme : Theme) :
    ofRadius? theme rest = (theme.radii.find? (.ofChars (radiusName name))).map .radius := by
  rw [radiusName, cut]
  rfl

theorem boundCut : (bound? first).isSome = true ↔ Starts name "min" ∨ Starts name "max" := by
  rw [← isCut cut, ← isCut cut, bound?]
  cases is first "max" <;> cases is first "min" <;> simp

end Cut

theorem numberOfClean {text : List Char} (clean : EndsClean text) :
    (Numeral.number? text).isSome = true ↔ Numeral.IsNumeral text := by
  rw [Numeral.numberIsSome, Numeral.newlineKept (Text.cleanNoNewline clean)]

theorem numberNone {text : List Char} (clean : EndsClean text) :
    Numeral.number? text = none ↔ ¬Numeral.IsNumeral text := by
  rw [← numberOfClean clean, Option.not_isSome_iff_eq_none]

def IsFraction (text numerator denominator : List Char) : Prop :=
  text = numerator ++ '/' :: denominator ∧
    (numerator ≠ [] ∧ Numeral.AllDigits Numeral.classStyle numerator) ∧
    denominator ≠ [] ∧ Numeral.AllDigits Numeral.classStyle denominator

theorem digitNoSlash {digits : List Char} (all : Numeral.AllDigits Numeral.classStyle digits) :
    ∀ c ∈ digits, (c == '/') = false := by
  intro c inside
  have digit := all c inside
  rw [beq_eq_false_iff_ne]
  rintro rfl
  revert digit
  decide

theorem fractionRead {text numerator denominator : List Char} :
    fraction? text = some (numerator, denominator) ↔
      IsFraction (Numeral.dropFinalNewline text) numerator denominator := by
  unfold fraction? IsFraction
  constructor
  · intro read
    split at read
    · rename_i before after pieces
      split at read
      · rename_i digits
        cases read
        have joined := Text.joinSplit '/' (Numeral.dropFinalNewline text)
        rw [pieces] at joined
        simp only [Bool.and_eq_true, Bool.not_eq_true', List.isEmpty_eq_false_iff, List.all_eq_true] at digits
        obtain ⟨⟨⟨some, all⟩, someAfter⟩, allAfter⟩ := digits
        refine ⟨?_, ⟨some, all⟩, someAfter, allAfter⟩
        simpa [join] using joined.symm
      · contradiction
    · contradiction
  · intro written
    obtain ⟨same, ⟨some, all⟩, someAfter, allAfter⟩ := written
    have pieces : Text.split (· == '/') (Numeral.dropFinalNewline text) = [numerator, denominator] := by
      rw [same, Text.splitAppend (by decide), Text.splitClean (digitNoSlash all),
        Text.splitClean (digitNoSlash allAfter)]
      rfl
    have digits : numerator.all Text.isDigit = true ∧ denominator.all Text.isDigit = true :=
      ⟨List.all_eq_true.mpr all, List.all_eq_true.mpr allAfter⟩
    simp [pieces, some, someAfter, digits]

theorem fractionOfClean {text numerator denominator : List Char} (clean : EndsClean text) :
    fraction? text = some (numerator, denominator) ↔ IsFraction text numerator denominator := by
  rw [fractionRead, Numeral.newlineKept (Text.cleanNoNewline clean)]

theorem fractionNoNumeral {text numerator denominator : List Char}
    (written : IsFraction text numerator denominator) : ¬Numeral.IsNumeral text := by
  intro numeral
  obtain ⟨decimal, spelled⟩ := numeral
  have inside : '/' ∈ text := by
    rw [written.1]
    simp
  rcases (Numeral.spelledCharacters spelled).2 '/' inside with digit | mark | other
  · revert digit
    decide
  · revert mark
    decide
  · revert other
    decide

theorem digitsZero (digits : List Char) :
    (Numeral.ofDigits digits).isZero = true ↔ Text.digitsValue digits = 0 := by
  by_cases zero : Text.digitsValue digits = 0
  · simp [Numeral.ofDigits, Decimal.toBinary64, zero, Binary64.isZero, Magnitude.zero]
  · have units : 0 < Text.digitsValue digits * Nat.pow 10 0 * unitsPerOne :=
      Nat.mul_pos (Nat.mul_pos (Nat.pos_of_ne_zero zero) (by decide)) unitsPerOnePositive
    have positive := Binary64.ofQuotientNotZero Nat.one_pos units false
    have number : Numeral.ofDigits digits =
        .ofQuotient false (Text.digitsValue digits * Nat.pow 10 0 * unitsPerOne) 1 := by
      simp [Numeral.ofDigits, Decimal.toBinary64, zero, Decimal.overflowExponent]
    rw [number, positive]
    simp [zero]

example : (Numeral.ofDigits "0٠०".toList).isZero = true := by decide +kernel

end UtilityLayout.Utility
