import UtilityLayout.Utility.Reading
import UtilityLayout.Proofs.Numeral.Digits

/-! What a class name can say under the built-in tables. Its expression is a number with one decimal place, a name that
stands for a number, a literal of the tables, or a percentage; the limit of a constraint is a number or the size of the
screen along its own axis. The length of a spacing step is of no importance. -/
namespace UtilityLayout

namespace Expression

inductive IsNumber : Text → Prop where
  | digits {sign whole place} (signed : sign = [] ∨ sign = ['-']) (digits : Numeral.IsDigits whole)
      (digit : Text.isAsciiDigit place = true) : IsNumber (.ofChars (sign ++ whole ++ ['.', place]))
  | infinite {sign} (signed : sign = [] ∨ sign = ['-']) : IsNumber (.ofChars (sign ++ infinity.toList))
  | notNumber : IsNumber notNumber

def screenAlong (axis : Axis) : String :=
  screenSize ++ "." ++ axis.name

def literals : List String :=
  [infinity, screenAlong .width, screenAlong .height, "BoxShape.circle"]

inductive IsValue : Text → Prop where
  | number {text} (number : IsNumber text) : IsValue text
  | literal {name} (known : name ∈ literals) : IsValue (.ofString name)
  | percentage {whole} (digits : Numeral.IsDigits whole) : IsValue (.ofChars (['\''] ++ whole ++ ['%', '\'']))

inductive IsLimit (axis : Axis) : Text → Prop where
  | number {text} (number : IsNumber text) : IsLimit axis text
  | screen : IsLimit axis (screenAlong axis)

theorem fixedOnePlace (negative : Bool) (numerator denominator : Nat) :
    fixedText 1 negative numerator denominator =
      String.ofList (Binary64.signText (negative && numerator != 0) ++
        Nat.toDigits 10 (roundHalfUp (numerator * 10) denominator / 10) ++
          ['.', Nat.digitChar (roundHalfUp (numerator * 10) denominator % 10)]) := by
  simp [fixedText, Nat.toDigits_of_lt_base (Nat.mod_lt _ _), Binary64.padLeft]

theorem fixedTenths (negative : Bool) (numerator denominator : Nat) :
    IsNumber (fixedText 1 negative numerator denominator) := by
  rw [fixedOnePlace, Text.ofString, String.toList_ofList]
  exact .digits (Binary64.signTextCases _) (Numeral.toDigitsDigits _)
    (Numeral.digitCharAscii (Nat.mod_lt _ (by decide)))

theorem fixedWhole (numerator denominator : Nat) :
    ∃ n, fixedText 0 false numerator denominator = String.ofList (Nat.toDigits 10 n) :=
  ⟨_, congrArg String.ofList (List.append_nil _)⟩

theorem numberFormed (x : Binary64) : IsNumber (number x) := by
  cases x with
  | nan => exact .notNumber
  | infinite negative =>
    cases negative
    · exact .infinite (.inl rfl)
    · exact .infinite (.inr rfl)
  | finite negative m => exact fixedTenths negative m.units unitsPerOne

end Expression

namespace Binary64

inductive Unsigned : Binary64 → Prop where
  | nan : Unsigned .nan
  | infinite : Unsigned (.infinite false)
  | finite (m : Magnitude) : Unsigned (.finite false m)

theorem unsignedQuotient (numerator denominator : Nat) : Unsigned (ofQuotient false numerator denominator) := by
  unfold ofQuotient
  split
  · exact .finite _
  · exact .infinite

theorem unsignedNat (n : Nat) : Unsigned (ofNat n) :=
  unsignedQuotient _ _

theorem unsignedMul {x y : Binary64} (first : Unsigned x) (second : Unsigned y) : Unsigned (mul x y) := by
  cases first with
  | nan => exact .nan
  | infinite =>
    cases second with
    | nan => exact .nan
    | infinite => exact .infinite
    | finite n =>
      simp only [mul]
      split
      · exact .nan
      · exact .infinite
  | finite m =>
    cases second with
    | nan => exact .nan
    | infinite =>
      simp only [mul]
      split
      · exact .nan
      · exact .infinite
    | finite n =>
      simp only [mul]
      exact unsignedQuotient _ _

theorem unsignedDiv {x y : Binary64} (first : Unsigned x) (second : Unsigned y) : Unsigned (div x y) := by
  cases first with
  | nan => exact .nan
  | infinite =>
    cases second with
    | nan => exact .nan
    | infinite => exact .nan
    | finite n => exact .infinite
  | finite m =>
    cases second with
    | nan => exact .nan
    | infinite => exact .finite _
    | finite n =>
      simp only [div]
      split
      · split
        · exact .nan
        · exact .infinite
      · exact unsignedQuotient _ _

theorem unsignedDecimal {d : Decimal} (plus : d.negative = false) : Unsigned d.toBinary64 := by
  unfold Decimal.toBinary64
  rw [plus]
  split
  · exact .finite _
  · split
    · split
      · exact .infinite
      · exact unsignedQuotient _ _
    · split
      · exact .finite _
      · exact unsignedQuotient _ _

theorem unsignedDigits (digits : List Char) : Unsigned (Numeral.ofDigits digits) :=
  unsignedDecimal rfl

end Binary64

namespace Expression

theorem percentageFormed {fraction : Binary64} (unsigned : fraction.Unsigned) :
    IsValue (percentage fraction) := by
  have percent : (fraction * 100).Unsigned := Binary64.unsignedMul unsigned (Binary64.unsignedNat 100)
  unfold percentage
  generalize fraction * 100 = x at percent
  cases percent with
  | nan => exact .number .notNumber
  | infinite => exact .number (.infinite (.inl rfl))
  | finite m =>
    obtain ⟨n, whole⟩ := fixedWhole m.units unitsPerOne
    have text : ("'" ++ String.ofList (Nat.toDigits 10 n) ++ "%'").toList =
        ['\''] ++ Nat.toDigits 10 n ++ ['%', '\''] := by simp
    simp only [whole, Text.ofString, text]
    exact .percentage (Numeral.toDigitsDigits n)

end Expression

def LayoutValue.literal? : LayoutValue → Option Text
  | .number _ => none
  | .literal text => some text

def Theme.withSpacing (unit : Binary64) : Theme :=
  { Theme.builtIn with spacingUnit := unit }

example : Theme.withSpacing Theme.defaultSpacingUnit = Theme.builtIn := rfl

namespace Utility
open Expression

def Formed : Utility → Prop
  | keyword text => IsValue text
  | border .. | spacing _ => True
  | constraint key limit => IsLimit key.axis (Expression.value limit)
  | radius value | other value => IsValue (Expression.value value)

theorem keywordFormed {name text : Text} (found : Theme.defaultKeywords.find? name = some text) :
    IsValue text := by
  have all : ∀ text ∈ Theme.defaultKeywords.values, ∃ name ∈ literals, text = .ofString name := by decide
  obtain ⟨literal, known, rfl⟩ := all text ((Table.memberValues _).mpr ⟨name, found⟩)
  exact .literal known

theorem literalOfFind {table : Table Text LayoutValue} {name text : Text}
    (found : table.find? name = some (.literal text)) : text ∈ table.values.filterMap LayoutValue.literal? :=
  List.mem_filterMap.mpr ⟨_, (Table.memberValues _).mpr ⟨name, found⟩, rfl⟩

theorem sizeFormed {name : Text} {size : LayoutValue} (found : Theme.defaultSizes.find? name = some size)
    (axis : Axis) : IsLimit axis (Expression.value (narrowed axis size)) := by
  cases size with
  | number x => exact .number (numberFormed x)
  | literal text =>
    have known : Theme.defaultSizes.values.filterMap LayoutValue.literal? =
      [.ofString infinity, .ofString screenSize] := by decide
    have member := literalOfFind found
    rw [known, List.mem_cons, List.mem_singleton] at member
    rcases member with rfl | rfl
    · exact .number (.infinite (.inl rfl))
    · exact .screen

theorem radiusFormed {name : Text} {value : LayoutValue} (found : Theme.defaultRadii.find? name = some value) :
    IsValue (Expression.value value) := by
  cases value with
  | number x => exact .number (numberFormed x)
  | literal text =>
    have known : Theme.defaultRadii.values.filterMap LayoutValue.literal? =
      [.ofString "BoxShape.circle"] := by decide
    have member := literalOfFind found
    rw [known, List.mem_singleton] at member
    subst member
    exact .literal (by simp [literals])

variable {unit : Binary64}

theorem ofBorderFormed (rest : List (List Char)) : Formed (ofBorder rest) := by
  cases rest with
  | nil => exact trivial
  | cons segment more =>
    simp only [ofBorder]
    split <;> exact trivial

theorem ofConstraintFormed {bound : Bound} {rest : List (List Char)} {u : Utility}
    (made : ofConstraint? (.withSpacing unit) bound rest = some u) : Formed u := by
  cases rest with
  | nil => contradiction
  | cons segment more =>
    simp only [ofConstraint?] at made
    split at made
    · rename_i size found
      cases made
      exact sizeFormed found _
    · obtain ⟨n, _, rfl⟩ := Option.map_eq_some_iff.mp made
      exact .number (numberFormed _)

theorem ofRadiusFormed {rest : List (List Char)} {u : Utility}
    (made : ofRadius? (.withSpacing unit) rest = some u) : Formed u := by
  obtain ⟨value, found, rfl⟩ := Option.map_eq_some_iff.mp made
  exact radiusFormed found

theorem ofLastFormed {segment : List Char} {u : Utility}
    (made : ofLast? (.withSpacing unit) segment = some u) : Formed u := by
  unfold ofLast? at made
  split at made
  · cases made
    exact trivial
  · split at made
    · rename_i numerator denominator _
      dsimp only at made
      split at made
      · contradiction
      · cases made
        exact percentageFormed (Binary64.unsignedDiv (Binary64.unsignedDigits numerator)
          (Binary64.unsignedDigits denominator))
    · obtain ⟨n, _, rfl⟩ := Option.map_eq_some_iff.mp made
      exact trivial

theorem ofSegmentsFormed {first : List Char} {rest : List (List Char)} {u : Utility}
    (made : ofSegments? (.withSpacing unit) first rest = some u) : Formed u := by
  unfold ofSegments? at made
  split at made
  · cases made
    exact ofBorderFormed rest
  · split at made
    · rename_i found
      cases made
      obtain ⟨bound, _, constraint⟩ := Option.bind_eq_some_iff.mp found
      exact ofConstraintFormed constraint
    · split at made
      · exact ofRadiusFormed made
      · exact ofLastFormed made

theorem readFormed {written : List Char} {u : Utility}
    (read : read? (.withSpacing unit) written = some u) : Formed u := by
  unfold read? ofName? at read
  split at read
  · contradiction
  · split at read
    · rename_i text found
      cases read
      exact keywordFormed found
    · split at read
      · contradiction
      · exact ofSegmentsFormed read

end Utility

end UtilityLayout
