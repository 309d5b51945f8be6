import UtilityLayout.Proofs.Binary64.Rounding
import UtilityLayout.Proofs.Layout.LastWins
import UtilityLayout.Proofs.Utility.Forms

/-! No hyphen of a class name is the sign of a number: a name is cut at every hyphen before any number is read. So a
border is never narrower than zero, nor a spacing where the spacing step is longer than zero. -/
namespace UtilityLayout

namespace Binary64

def AtLeastZero (x : Binary64) : Prop :=
  x ≠ .nan ∧ x.Unsigned

theorem atLeastZeroNat (n : Nat) : AtLeastZero (ofNat n) :=
  ⟨ofNatNotNan n, unsignedNat n⟩

/- Zero times infinity is the one product to fear; no factor that is above zero and finite can make it. -/
theorem atLeastZeroScaled {x : Binary64} {m : Magnitude} (least : AtLeastZero x) (positive : 0 < m.units) :
    AtLeastZero (x * .finite false m) := by
  refine ⟨?_, unsignedMul least.2 (.finite m)⟩
  change mul x (.finite false m) ≠ .nan
  cases x with
  | nan => exact absurd rfl least.1
  | infinite negative => simp [mul, Nat.ne_of_gt positive]
  | finite negative n =>
    simp only [mul]
    exact ofQuotientNotNan _ _ _

end Binary64

namespace Numeral

theorem signAbsent {text : List Char} (plain : '-' ∉ text) : (takeSign text).1 = false := by
  unfold takeSign
  split
  · simp at plain
  · rfl
  · rfl

theorem readUnsigned {style : NumeralStyle} {text : List Char} {d : Decimal} (plain : '-' ∉ text)
    (read : read? style text = some d) : d.negative = false := by
  have plus := signAbsent plain
  simp only [read?] at read
  split at read
  · contradiction
  · obtain ⟨exponent, _, rfl⟩ := Option.map_eq_some_iff.mp read
    exact plus

theorem dropFinalNewlineSubset (text : List Char) : dropFinalNewline text ⊆ text := by
  unfold dropFinalNewline
  split
  · exact List.dropLast_subset text
  · exact List.Subset.refl text

theorem numberAtLeastZero {text : List Char} {x : Binary64} (plain : '-' ∉ text)
    (read : number? text = some x) : x.AtLeastZero := by
  refine ⟨Utility.numberNotNan read, ?_⟩
  obtain ⟨d, spelled, rfl⟩ := Option.map_eq_some_iff.mp read
  have without : '-' ∉ dropFinalNewline text := fun inside => plain (dropFinalNewlineSubset text inside)
  exact Binary64.unsignedDecimal (readUnsigned without spelled)

end Numeral

namespace Utility
open Binary64 (AtLeastZero)

theorem bracketedSubset {text inner : List Char} (found : bracketed? text = some inner) : inner ⊆ text := by
  have shorter := Numeral.dropFinalNewlineSubset text
  unfold bracketed? at found
  split at found
  · rename_i rest brackets
    rw [brackets] at shorter
    dsimp only at found
    split at found
    · cases found
      intro c inside
      exact shorter (List.mem_cons_of_mem _ (List.dropLast_subset rest inside))
    · contradiction
  · contradiction

theorem withoutPixelsSubset {text rest : List Char} (found : withoutPixels? text = some rest) : rest ⊆ text := by
  unfold withoutPixels? at found
  split at found
  · rename_i before reversed
    cases found
    intro c inside
    rw [← List.mem_reverse, reversed]
    exact List.mem_cons_of_mem _ (List.mem_cons_of_mem _ (List.mem_reverse.mp inside))
  · contradiction

theorem numberOrDefaultAtLeastZero {text : List Char} (plain : '-' ∉ text) :
    ((Numeral.number? text).getD defaultBorderWidth).AtLeastZero := by
  cases read : Numeral.number? text with
  | none =>
    rw [Option.getD_none]
    exact Binary64.atLeastZeroNat 1
  | some x => exact Numeral.numberAtLeastZero plain read

theorem borderWidthAtLeastZero {text : List Char} (plain : '-' ∉ text) : (borderWidth text).AtLeastZero := by
  unfold borderWidth
  split
  · rename_i inner brackets
    have inside : '-' ∉ inner := fun hyphen => plain (bracketedSubset brackets hyphen)
    split
    · rename_i width pixels
      obtain ⟨number, unit, read⟩ := Option.bind_eq_some_iff.mp pixels
      exact Numeral.numberAtLeastZero (fun hyphen => inside (withoutPixelsSubset unit hyphen)) read
    · exact numberOrDefaultAtLeastZero inside
  · exact numberOrDefaultAtLeastZero plain

theorem segmentPlain {name segment : List Char} (inside : segment ∈ segments name) : '-' ∉ segment := by
  intro hyphen
  have clean := Text.splitPieceClean inside hyphen
  contradiction

theorem borderReadAtLeastZero {theme : Theme} {written : List Char} {sides : SideSet} {width : Binary64}
    (read : read? theme written = some (.border sides width)) : width.AtLeastZero := by
  obtain ⟨name, first, rest, cut, made⟩ := borderOfRead read
  obtain ⟨text, among | default, rfl⟩ := ofBorderWidth made
  · refine borderWidthAtLeastZero (@segmentPlain name text ?_)
    rw [cut]
    exact List.mem_cons_of_mem _ among
  · subst default
    exact borderWidthAtLeastZero (by decide)

theorem ofBorderNoSpacing {rest : List (List Char)} {x : Binary64} : ofBorder rest ≠ .spacing x := by
  cases rest with
  | nil => simp [ofBorder]
  | cons segment more =>
    simp only [ofBorder]
    split <;> simp

theorem ofConstraintNoSpacing {theme : Theme} {bound : Bound} {rest : List (List Char)} {x : Binary64} :
    ofConstraint? theme bound rest ≠ some (.spacing x) := by
  cases rest with
  | nil => simp [ofConstraint?]
  | cons segment more =>
    simp only [ofConstraint?]
    split <;> simp

theorem spacingOfSegments {theme : Theme} {first : List Char} {rest : List (List Char)} {x : Binary64}
    (read : ofSegments? theme first rest = some (.spacing x)) :
    ofLast? theme (rest.getLastD first) = some (.spacing x) := by
  unfold ofSegments? at read
  split at read
  · exact absurd (Option.some.inj read) ofBorderNoSpacing
  · split at read
    · rename_i utility found
      obtain ⟨bound, _, made⟩ := Option.bind_eq_some_iff.mp found
      exact absurd (made.trans read) ofConstraintNoSpacing
    · split at read
      · simp [ofRadius?] at read
      · exact read

theorem spacingOfRead {theme : Theme} {written : List Char} {x : Binary64}
    (read : read? theme written = some (.spacing x)) :
    ∃ name, ∃ segment ∈ segments name, ofLast? theme segment = some (.spacing x) := by
  unfold read? ofName? at read
  split at read
  · contradiction
  · split at read
    · cases read
    · split at read
      · contradiction
      · rename_i cut
        refine ⟨Text.lower (Text.trim written), _, ?_, spacingOfSegments read⟩
        rw [cut]
        exact List.getLastD_mem_cons

theorem ofLastAtLeastZero {theme : Theme} {m : Magnitude} (finite : theme.spacingUnit = .finite false m)
    (positive : 0 < m.units) {segment : List Char} (plain : '-' ∉ segment) {x : Binary64}
    (read : ofLast? theme segment = some (.spacing x)) : x.AtLeastZero := by
  unfold ofLast? at read
  split at read
  · rw [← spacing.inj (Option.some.inj read)]
    exact Binary64.atLeastZeroNat 1
  · split at read
    · dsimp only at read
      split at read <;> simp at read
    · obtain ⟨n, number, made⟩ := Option.map_eq_some_iff.mp read
      cases made
      rw [finite]
      exact Binary64.atLeastZeroScaled (Numeral.numberAtLeastZero plain number) positive

theorem spacingReadAtLeastZero {theme : Theme} {m : Magnitude} (finite : theme.spacingUnit = .finite false m)
    (positive : 0 < m.units) {written : List Char} {x : Binary64}
    (read : read? theme written = some (.spacing x)) : x.AtLeastZero := by
  obtain ⟨name, segment, inside, last⟩ := spacingOfRead read
  exact ofLastAtLeastZero finite positive (segmentPlain inside) last

end Utility

namespace Theme

theorem widthAtLeastZero {theme : Theme} {classes : String} {side : Side} {width : Binary64}
    (set : (Layout.ofUtilities (theme.utilities classes)).borders.width? side = some width) :
    width.AtLeastZero := by
  rw [Declared.widthOfUtilities] at set
  obtain ⟨sides, member⟩ := Declared.widthOfMember set
  obtain ⟨word, _, read⟩ := List.mem_filterMap.mp member
  exact Utility.borderReadAtLeastZero read

/- Whatever the theme and the class, a border is on some side and no width or spacing is below zero, a negative zero or
not-a-number, as long as the spacing step is finite and above zero; yet a numeral by itself may have a minus. -/
theorem neverBelowZero (theme : Theme) :
    (∀ written sides width, Utility.read? theme written = some (.border sides width) →
      (∃ side, sides.contains side = true) ∧ width.AtLeastZero) ∧
    (∀ m, theme.spacingUnit = .finite false m → 0 < m.units → ∀ written x,
      Utility.read? theme written = some (.spacing x) → x.AtLeastZero) ∧
    (∀ classes side width, (Layout.ofUtilities (theme.utilities classes)).borders.width? side = some width →
      width.AtLeastZero) ∧
    Numeral.number? "-3".toList = some (-3) := by
  refine ⟨?_, ?_, fun _ _ _ => widthAtLeastZero, by decide +kernel⟩
  · intro written sides width read
    obtain ⟨_, _, rest, _, made⟩ := Utility.borderOfRead read
    exact ⟨Utility.ofBorderSides made, Utility.borderReadAtLeastZero read⟩
  · intro m finite positive written x read
    exact Utility.spacingReadAtLeastZero finite positive read

theorem neverBelowZeroHyphens :
    Utility.read? builtIn "border-[-3px]".toList = some (.border .full 1) ∧ (1 : Binary64).AtLeastZero ∧
      Utility.read? builtIn "m--5".toList = some (.spacing 20) ∧ (20 : Binary64).AtLeastZero := by
  have border : Utility.read? builtIn "border-[-3px]".toList = some (.border .full 1) := by decide +kernel
  have spacing : Utility.read? builtIn "m--5".toList = some (.spacing 20) := by decide +kernel
  obtain ⟨m, step, units⟩ : ∃ m, builtIn.spacingUnit = .finite false m ∧ m.units = 4 * unitsPerOne := by
    have step : builtIn.spacingUnit = defaultSpacingUnit := rfl
    have four : defaultSpacingUnit = .ofNat 4 := rfl
    rw [step, four, Binary64.ofNat]
    exact Binary64.ofQuotientWhole false (by decide)
  have positive : 0 < m.units := by
    rw [units]
    exact Nat.mul_pos (by decide) unitsPerOnePositive
  obtain ⟨borders, spacings, _⟩ := neverBelowZero builtIn
  exact ⟨border, (borders _ _ _ border).2, spacing, spacings m step positive _ _ spacing⟩

end Theme
end UtilityLayout
