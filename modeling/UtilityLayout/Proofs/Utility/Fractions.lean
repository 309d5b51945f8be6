import UtilityLayout.Proofs.Text.Lowering
import UtilityLayout.Proofs.Utility.Percentages
import UtilityLayout.Proofs.Utility.Rules

/-! Classes that end in a fraction. Where no earlier rule reads the class, it says the percentage of the fraction,
whatever stands before and in whatever script the digits are. -/
namespace UtilityLayout.Utility
open Expression
open Text (EndsClean)

structure LeftToLast (theme : Theme) (name : List Char) : Prop where
  keyword : theme.keywords.find? (.ofChars name) = none
  border : ¬Starts name "border"
  limit : ¬Rule.limit.Applies theme name
  radius : ¬Starts name "rounded"

theorem leftPlain {theme : Theme} {name : List Char} (keyword : theme.keywords.find? (.ofChars name) = none)
    (plain : ∀ word ∈ ["border", "min", "max", "rounded"], ¬Starts name word) : LeftToLast theme name where
  keyword := keyword
  border := plain "border" (by decide)
  limit := fun applies => applies.1.elim (plain "min" (by decide)) (plain "max" (by decide))
  radius := plain "rounded" (by decide)

theorem readLast {theme : Theme} {written : List Char} (some : nameOf written ≠ [])
    (left : LeftToLast theme (nameOf written)) :
    read? theme written = ofLast? theme (lastSegment (nameOf written)) := by
  obtain ⟨first, rest, cut⟩ := segmentsCons (nameOf written)
  have whole : read? theme written = ofName? theme (nameOf written) := rfl
  rw [whole, ofName?, if_neg (by simpa using some), left.keyword, cut]
  simp only [ofSegments?]
  rw [if_neg (mt (isCut cut "border").mp left.border), (limitNone (nameEndsClean written) cut).mpr left.limit]
  simp only
  rw [if_neg (mt (isCut cut "rounded").mp left.radius), ← lastCut cut]

theorem lastOfFraction {theme : Theme} {text numerator denominator : List Char} (clean : Text.EndsClean text)
    (written : IsFraction text numerator denominator) (positive : 0 < Text.digitsValue denominator) :
    ofLast? theme text =
      some (.other (.literal (percentage (Numeral.ofDigits numerator / Numeral.ofDigits denominator)))) := by
  have noPixel : is text "px" = false := by
    rw [is, beq_eq_false_iff_ne]
    intro same
    have slash : '/' ∈ text := by
      rw [written.1]
      simp
    rw [same] at slash
    revert slash
    decide
  have some := mt (digitsZero denominator).mp (Nat.ne_of_gt positive)
  rw [ofLast?, noPixel, (fractionOfClean clean).mpr written]
  simp only [some, Bool.false_eq_true, if_false]

theorem digitKept {c : Char} (digit : Text.isDigit c = true) : c ≠ 'Σ' ∧ Text.lowerChar c = [c] := by
  have plain : (c == 'Σ' || c == '\u0130' || c.toLower != c) = false :=
    @Text.digitLacks (fun c => c == 'Σ' || c == '\u0130' || c.toLower != c) (by decide +kernel) c digit
  simp only [Bool.or_eq_false_iff, beq_eq_false_iff_ne, bne_eq_false_iff_eq] at plain
  obtain ⟨⟨noSigma, noDot⟩, ascii⟩ := plain
  have apart : ∀ run ∈ Text.lowerRuns, ∀ start ∈ Text.digitZeros, run.last < start ∨ start + 10 ≤ run.first := by
    decide +kernel
  have noRun : Text.lowerRuns.find? (·.contains c) = none := by
    rw [List.find?_eq_none]
    intro run known inside
    obtain ⟨start, zero, low, high⟩ := Text.digitRange digit
    have beside := apart run known start zero
    simp only [Text.CaseRun.contains, Bool.and_eq_true, decide_eq_true_eq] at inside
    omega
  rw [Text.lowerChar, ascii, if_neg noDot, noRun, ite_self]
  exact ⟨noSigma, rfl⟩

theorem digitNoHyphen {c : Char} (digit : Text.isDigit c = true) : (c == '-') = false :=
  @Text.digitLacks (· == '-') (by decide +kernel) c digit

section Written
variable {tail : List Char} (plain : ∀ c ∈ tail, Text.isDigit c = true ∨ c = '/')
include plain

theorem tailNoBlank : Text.NoBlank tail := by
  intro c inside
  rcases plain c inside with digit | rfl
  · exact Text.digitNotBlank digit
  · decide

theorem tailLower : Text.lower tail = tail := by
  refine Text.lowerKept fun c inside => ?_
  rcases plain c inside with digit | rfl
  · exact digitKept digit
  · decide

theorem tailSegments : segments tail = [tail] := by
  refine Text.splitClean fun c inside => ?_
  rcases plain c inside with digit | rfl
  · exact digitNoHyphen digit
  · decide

theorem tailName (front : List Char) :
    nameOf (front ++ '-' :: tail) = Text.lower (front.dropWhile Text.isBlank) ++ '-' :: tail := by
  have ends : EndsClean ('-' :: tail) := by
    intro c last
    rcases List.mem_cons.mp (List.mem_of_getLast? last) with rfl | inside
    · decide
    · exact tailNoBlank plain c inside
  rw [nameOf, Text.trimFront front (by decide) ends, Text.lowerParted Text.hyphenParts, tailLower plain]

theorem tailLast (front : List Char) : lastSegment (nameOf (front ++ '-' :: tail)) = tail := by
  rw [tailName plain, lastSegment, segments, Text.splitAppend (by decide), ← segments, ← segments, tailSegments plain]
  simp

end Written

section Fraction
variable {tail numerator denominator : List Char} (written : IsFraction tail numerator denominator)
include written

theorem fractionCharacters : ∀ c ∈ tail, Text.isDigit c = true ∨ c = '/' := by
  intro c inside
  obtain ⟨rfl, ⟨_, digits⟩, _, others⟩ := written
  rcases List.mem_append.mp inside with first | second
  · exact .inl (digits c first)
  · rcases List.mem_cons.mp second with slash | last
    · exact .inr slash
    · exact .inl (others c last)

theorem fractionName (front : List Char) :
    nameOf (front ++ '-' :: tail) = Text.lower (front.dropWhile Text.isBlank) ++ '-' :: tail :=
  tailName (fractionCharacters written) front

theorem fractionLast (front : List Char) : lastSegment (nameOf (front ++ '-' :: tail)) = tail :=
  tailLast (fractionCharacters written) front

end Fraction

/- A class that ends in a fraction says the percentage that two roundings leave. It is the nearest one to the fraction
exactly if they pass no half: so where no half is near, for numerators up to 2^44 where the fraction is no half itself,
and for eighths. It is one off at most, up to 2^51 percent. -/
theorem fractionPercentage (theme : Theme) {front tail numerator denominator : List Char}
    (written : IsFraction tail numerator denominator) (positive : 0 < Text.digitsValue denominator)
    (few : Text.digitsValue numerator ≤ fineness) (fewer : Text.digitsValue denominator ≤ fineness)
    (left : LeftToLast theme (nameOf (front ++ '-' :: tail))) :
    let a := Text.digitsValue numerator
    let b := Text.digitsValue denominator
    read? theme (front ++ '-' :: tail) = some (.other (.literal (percentText (percentTaken a b)))) ∧
      (percentTaken a b = percentNearest a b ↔
        ∀ k, (2 * k + 1) * b ≤ 200 * a ↔ (2 * k + 1) * unitsPerOne ≤ 2 * percentUnits a b) ∧
      (FarFromHalves a b → percentTaken a b = percentNearest a b) ∧
      (a ≤ Nat.pow 2 44 → (∀ k, 200 * a ≠ (2 * k + 1) * b) → percentTaken a b = percentNearest a b) ∧
      (b ∣ 8 * a → 200 * a < fineness * b → percentTaken a b = percentNearest a b) ∧
      (100 * a ≤ Nat.pow 2 51 * b →
        percentTaken a b ≤ percentNearest a b + 1 ∧ percentNearest a b ≤ percentTaken a b + 1) := by
  intro a b
  have some : nameOf (front ++ '-' :: tail) ≠ [] := by
    rw [fractionName written]
    simp
  have clean : EndsClean tail := by
    have ends := lastEndsClean (nameEndsClean (front ++ '-' :: tail))
    rwa [fractionLast written] at ends
  refine ⟨?_, takenNearest positive, takenFar positive fewer, takenSmall positive fewer,
    takenEighths positive, takenWithinOne positive fewer⟩
  rw [readLast some left, fractionLast written, lastOfFraction clean written positive,
    percentageDigits positive few fewer]

theorem fractionPercentageEighth :
    IsFraction "1/8".toList ['1'] ['8'] ∧ LeftToLast .builtIn (nameOf "w-1/8".toList) ∧
      read? .builtIn "w-1/8".toList = some (.other (.literal "'13%'")) := by
  have one : Numeral.AllDigits Numeral.classStyle ['1'] := List.forall_mem_singleton.mpr (by decide)
  have eight : Numeral.AllDigits Numeral.classStyle ['8'] := List.forall_mem_singleton.mpr (by decide)
  have written : IsFraction "1/8".toList ['1'] ['8'] := ⟨rfl, ⟨by decide, one⟩, by decide, eight⟩
  have left : LeftToLast .builtIn (nameOf "w-1/8".toList) := leftPlain (by decide +kernel) (by decide +kernel)
  obtain ⟨read, _, _, _, eighths, _⟩ :=
    @fractionPercentage .builtIn "w".toList _ _ _ written (by decide) (by decide) (by decide) left
  rw [eighths (by decide) (by decide)] at read
  exact ⟨written, left, read⟩

theorem fractionPercentageBelow :
    LeftToLast .builtIn (nameOf "w-29/200".toList) ∧ percentNearest 29 200 = 15 ∧
      read? .builtIn "w-29/200".toList = some (.other (.literal "'14%'")) :=
  ⟨leftPlain (by decide +kernel) (by decide +kernel), by decide, by decide +kernel⟩

end UtilityLayout.Utility
