import UtilityLayout.Layout.Composition
import UtilityLayout.Proofs.Numeral.Wholes
import UtilityLayout.Proofs.Updates
import UtilityLayout.Proofs.Utility.Entries
import UtilityLayout.Proofs.Utility.Fractions

/-! Classes that end in a whole number, under the built-in tables: a spacing, the width of a border, a size constraint.
Up to 2^53 the number is the one that is spelled, beyond that it is the nearest one; spacings and constraints are four
times as long. -/
namespace UtilityLayout

namespace Utility
open Numeral (SpelledWhole spelledDigits numberSpelled)

theorem entryMissed {α : Type} {table : Table Text α}
    (others : ∀ key ∈ table.keys, key.chars.getLast?.any Text.isDigit = false) (front : List Char)
    {digits : List Char} (filled : digits ≠ []) (all : Numeral.AllDigits Numeral.classStyle digits) :
    table.find? (.ofChars (front ++ digits)) = none := by
  rw [Table.findNone]
  intro inside
  have chars : (Text.ofChars (front ++ digits)).chars = front ++ digits := List.map_map.trans (List.map_id _)
  have last := List.getLast?_eq_some_getLast filled
  generalize digits.getLast filled = c at last
  have digit : Text.isDigit c = true := all c (List.mem_of_getLast? last)
  have other := others _ inside
  rw [chars, List.getLast?_append_of_ne_nil _ filled, last, Option.any_some, digit] at other
  contradiction

theorem borderWidthBare {text : List Char} {x : Binary64} (bare : bracketed? text = none)
    (read : Numeral.number? text = some x) : borderWidth text = x := by
  rw [borderWidth, bare, read]
  rfl

section Spelled
variable {digits : List Char} {n : Nat} (spelled : SpelledWhole digits n)
include spelled

theorem spelledPlain : ∀ c ∈ digits, Text.isDigit c = true ∨ c = '/' :=
  fun c inside => .inl ((spelledDigits spelled).2.1 c inside)

theorem spelledEndsClean : Text.EndsClean digits :=
  fun c last => tailNoBlank (spelledPlain spelled) c (List.mem_of_getLast? last)

theorem spelledApart {word : List Char} (other : word.any (fun c => !Text.isDigit c) = true) : digits ≠ word := by
  rintro rfl
  obtain ⟨c, inside, noDigit⟩ := List.any_eq_true.mp other
  have digit : Text.isDigit c = true := (spelledDigits spelled).2.1 c inside
  rw [digit] at noDigit
  contradiction

theorem spelledNoBlank {front : List Char} (clean : Text.NoBlank (front ++ ['-'])) :
    Text.NoBlank (front ++ '-' :: digits) := by
  rw [List.append_cons]
  exact List.forall_mem_append.mpr ⟨clean, tailNoBlank (spelledPlain spelled)⟩

theorem readSpelled {front first : List Char} {rest : List (List Char)} (clean : Text.NoBlank (front ++ ['-']))
    (kept : Text.lower front = front) (cut : segments (front ++ '-' :: digits) = first :: rest) :
    read? Theme.builtIn (front ++ '-' :: digits) = ofSegments? Theme.builtIn first rest := by
  obtain ⟨filled, all, _⟩ := spelledDigits spelled
  have name : front ++ '-' :: digits = front ++ ['-'] ++ digits := List.append_cons ..
  have keyword : Theme.builtIn.keywords.find? (.ofChars (front ++ '-' :: digits)) = none := by
    rw [name]
    exact entryMissed (by decide) _ filled all
  rw [readNamed (spelledNoBlank spelled clean), Text.lowerParted Text.hyphenParts, kept,
    tailLower (spelledPlain spelled), ofName?, keyword, cut]
  simp

theorem ofLastSpelled (theme : Theme) :
    ofLast? theme digits = some (.spacing (.ofNat n * theme.spacingUnit)) := by
  have read := numberSpelled spelled
  have numeral := (numberOfClean (spelledEndsClean spelled)).mp (Option.isSome_of_eq_some read)
  have noPixel : is digits "px" = false := beq_eq_false_iff_ne.mpr (spelledApart spelled (by decide))
  have noFraction : fraction? digits = none := by
    rw [Option.eq_none_iff_forall_ne_some]
    intro parts found
    exact fractionNoNumeral ((fractionOfClean (spelledEndsClean spelled)).mp found) numeral
  rw [ofLast?, noPixel, noFraction, read]
  simp only [Option.map_some, Bool.false_eq_true, if_false]

theorem bareSpelled : bracketed? digits = none := by
  rw [bracketed?, Numeral.newlineKept (Text.cleanNoNewline (spelledEndsClean spelled))]
  split
  · rename_i rest
    have bracket := (spelledDigits spelled).2.1 '[' List.mem_cons_self
    exact absurd bracket (by decide)
  · rfl

theorem noLetterSpelled : sidesOfLetter? digits = none := by
  unfold sidesOfLetter?
  split <;> first | rfl | exact absurd rfl (spelledApart spelled (by decide))

theorem spacingSpelled :
    read? Theme.builtIn ("p".toList ++ '-' :: digits) = some (.spacing (.ofNat n * 4)) := by
  have cut : segments ("p".toList ++ '-' :: digits) = ["p".toList, digits] := by
    rw [segmentsAfter (by decide), tailSegments (spelledPlain spelled)]
  have border : is "p".toList "border" = false := by decide
  have bound : bound? "p".toList = none := by decide
  have rounded : is "p".toList "rounded" = false := by decide
  rw [readSpelled spelled (Text.noBlankOfAny rfl) (by decide +kernel) cut, ofSegments?, border, bound, rounded]
  exact ofLastSpelled spelled Theme.builtIn

theorem borderSpelled :
    read? Theme.builtIn ("border".toList ++ '-' :: digits) = some (.border .full (.ofNat n)) := by
  have cut : segments ("border".toList ++ '-' :: digits) = ["border".toList, digits] := by
    rw [segmentsAfter (by decide), tailSegments (spelledPlain spelled)]
  have border : is "border".toList "border" = true := by decide
  rw [readSpelled spelled (Text.noBlankOfAny rfl) (by decide +kernel) cut, ofSegments?, border, if_pos rfl, ofBorder,
    noLetterSpelled spelled]
  simp only [borderWidthBare (bareSpelled spelled) (numberSpelled spelled)]

theorem maxWidthSpelled :
    read? Theme.builtIn ("max-w".toList ++ '-' :: digits) =
      some (.constraint ⟨.greatest, .width⟩ (.number (.ofNat n * 4))) := by
  obtain ⟨filled, all, _⟩ := spelledDigits spelled
  have cut : segments ("max-w".toList ++ '-' :: digits) = ["max".toList, "w".toList, digits] := by
    have whole := maxWidthSegments digits
    rw [tailSegments (spelledPlain spelled)] at whole
    exact whole
  have border : is "max".toList "border" = false := by decide
  have bound : bound? "max".toList = some .greatest := by decide
  have axis : axisOf "w".toList = .width := by decide
  have size : Theme.builtIn.sizes.find? (.ofChars digits) = none := entryMissed (by decide) [] filled all
  have limit : ofConstraint? Theme.builtIn .greatest ["w".toList, digits] =
      some (.constraint ⟨.greatest, .width⟩ (.number (.ofNat n * 4))) := by
    have single : hyphenated [digits] = digits := rfl
    have unit : Theme.builtIn.spacingUnit = 4 := rfl
    rw [ofConstraint?, single, size, numberSpelled spelled, axis, unit]
    simp only [Option.map_some]
  rw [readSpelled spelled (Text.noBlankOfAny rfl) (by decide +kernel) cut, ofSegments?, border, bound]
  simp only [Option.bind_some, limit, Bool.false_eq_true, if_false]

end Spelled

end Utility

namespace Theme
open Utility
open Numeral (SpelledWhole spelledDigits numberSpelled)
open Expression (wholeText infinity)
open Binary64 (exact Nearest leastInfinite)

def Converts (name text : String) : Prop :=
  builtIn.convert name = ⟨text, .single, [.ofString text]⟩

structure Lengths (digits : List Char) (length fourfold : String) : Prop where
  spacing : Converts ("p-" ++ String.ofList digits) fourfold
  border : Converts ("border-" ++ String.ofList digits) ("Border.all(width: " ++ length ++ ")")
  limit : Converts ("max-w-" ++ String.ofList digits) ("BoxConstraints(maxWidth: " ++ fourfold ++ ")")

theorem convertSingle {written : List Char} {u : Utility} (clean : Text.NoBlank written)
    (read : read? builtIn written = some u) (name : String) (same : name.toList = written) :
    builtIn.convert name = (Layout.ofUtilities [u]).compose := by
  have some : written ≠ [] := by
    rintro rfl
    contradiction
  rw [convert, utilities, same, Text.wordsSingle some clean, List.filterMap_cons, read]
  rfl

theorem composeSpacing (x : Binary64) : (Layout.ofUtilities [.spacing x]).compose =
    ⟨Expression.number x, .single, [.ofString (Expression.number x)]⟩ :=
  rfl

theorem composeBorder (x : Binary64) :
    let text := "Border.all(width: " ++ Expression.number x ++ ")"
    (Layout.ofUtilities [.border .full x]).compose = ⟨text, .single, [.ofString text]⟩ :=
  rfl

theorem composeLimit (x : Binary64) :
    let text := "BoxConstraints(maxWidth: " ++ Expression.number x ++ ")"
    let limit : Utility := .constraint ⟨.greatest, .width⟩ (.number x)
    (Layout.ofUtilities [limit]).compose = ⟨text, .single, [.ofString text]⟩ := by
  intro text limit
  have entry : Text.ofString text = Text.ofString "BoxConstraints(" ++
      (Text.ofString "maxWidth: " ++ Text.ofString (Expression.number x)) ++ Text.ofString ")" := by
    have front : Text.ofString "BoxConstraints(maxWidth: " =
        Text.ofString "BoxConstraints(" ++ Text.ofString "maxWidth: " := by decide
    rw [Text.ofStringAppend, Text.ofStringAppend, front]
    ext1
    simp
  rw [entry]
  rfl

theorem lengthsSpelled {digits : List Char} {n : Nat} (spelled : SpelledWhole digits n) :
    Lengths digits (Expression.number (.ofNat n)) (Expression.number (.ofNat n * 4)) := by
  have clean {front : List Char} (plain : Text.NoBlank (front ++ ['-'])) := spelledNoBlank spelled plain
  have written (front : String) : (front ++ String.ofList digits).toList = front.toList ++ digits := by
    rw [String.toList_append, String.toList_ofList]
  constructor
  · rw [Converts, convertSingle (clean (Text.noBlankOfAny rfl)) (spacingSpelled spelled) _ (written "p-")]
    exact composeSpacing _
  · rw [Converts, convertSingle (clean (Text.noBlankOfAny rfl)) (borderSpelled spelled) _ (written "border-")]
    exact composeBorder _
  · rw [Converts, convertSingle (clean (Text.noBlankOfAny rfl)) (maxWidthSpelled spelled) _ (written "max-w-")]
    exact composeLimit _

theorem wholesConvert {digits : List Char} {n : Nat} (spelled : SpelledWhole digits n) :
    (n ≤ Nat.pow 2 53 → Lengths digits (toString n ++ ".0") (toString (4 * n) ++ ".0")) ∧
    (n < leastInfinite → ∃ (k : Nat) (m : Magnitude), Nearest n false m ∧ exact false m = k ∧
      Lengths digits (wholeText k) (wholeText (4 * k))) ∧
    (leastInfinite ≤ n → Lengths digits infinity infinity) := by
  have lengths := lengthsSpelled spelled
  refine ⟨fun small => ?_, fun few => ?_, fun many => ?_⟩
  · obtain ⟨m, made, units⟩ := Binary64.ofNatUnits small
    have limit : 4 * Nat.pow 2 53 < Nat.pow 2 wholeBits := by
      have many : 55 < wholeBits := by decide
      generalize wholeBits = bits at many ⊢
      exact Nat.lt_of_le_of_lt (by decide : 4 * Nat.pow 2 53 ≤ Nat.pow 2 55) (Nat.pow_lt_pow_right (by decide) many)
    have text {k : Nat} (few : k ≤ 4 * Nat.pow 2 53) : wholeText k = toString k ++ ".0" :=
      if_pos (Nat.lt_of_le_of_lt few limit)
    have once := text (Nat.le_trans small (Nat.le_mul_of_pos_left _ (by decide)))
    have fourfold := text (Nat.mul_le_mul_left 4 small)
    rw [made, Expression.numberWhole units, Expression.numberFour units, once, fourfold] at lengths
    exact lengths
  · obtain ⟨k, m, made, units, nearest⟩ := Binary64.ofNatNearest few
    rw [made, Expression.numberWhole units, Expression.numberFour units] at lengths
    exact ⟨k, m, nearest, Binary64.exactWhole units, lengths⟩
  · rw [Binary64.ofNatOverflow many, Binary64.infiniteFour] at lengths
    exact lengths

theorem wholesConvertMixed : SpelledWhole "0٤٢".toList 42 ∧ Lengths "0٤٢".toList "42.0" "168.0" := by
  have zero : Text.digitValue? '0' = some 0 := by decide
  have four : Text.digitValue? '٤' = some 4 := by decide
  have two : Text.digitValue? '٢' = some 2 := by decide
  have spelled : SpelledWhole "0٤٢".toList 42 := .more (.more (.one zero) four) two
  exact ⟨spelled, (wholesConvert spelled).1 (by decide)⟩

end Theme

end UtilityLayout
