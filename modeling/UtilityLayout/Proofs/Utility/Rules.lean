import UtilityLayout.Proofs.Utility.Segments

/-! Which rule reads a class name. Each rule has a condition of its own, told without running the others; a name is read
by the first rule whose condition it meets. An unknown radius and a fraction over zero say nothing, and no later
rule is asked about them. -/
namespace UtilityLayout.Utility
open Text (EndsClean)

inductive Rule where
  | keyword
  | border
  | limit
  | radius
  | pixel
  | fraction
  | number
  deriving DecidableEq, Repr

namespace Rule

def all : List Rule := [keyword, border, limit, radius, pixel, fraction, number]

def Applies (theme : Theme) (name : List Char) : Rule → Prop
  | keyword => theme.keywords.find? (.ofChars name) ≠ none
  | border => Starts name "border"
  | limit => (Starts name "min" ∨ Starts name "max") ∧ 2 ≤ (segments name).length ∧
      (theme.sizes.find? (.ofChars (sizeName name)) ≠ none ∨ Numeral.IsNumeral (sizeName name))
  | radius => Starts name "rounded" ∧ theme.radii.find? (.ofChars (radiusName name)) ≠ none
  | pixel => lastSegment name = "px".toList
  | fraction => ∃ numerator denominator,
      IsFraction (lastSegment name) numerator denominator ∧ Text.digitsValue denominator ≠ 0
  | number => Numeral.IsNumeral (lastSegment name)

def before (rule : Rule) : List Rule :=
  all.takeWhile (· ≠ rule)

def IsFirst (theme : Theme) (name : List Char) (rule : Rule) : Prop :=
  rule.Applies theme name ∧ ∀ earlier ∈ rule.before, ¬earlier.Applies theme name

def Makes (theme : Theme) (name : List Char) : Rule → Utility → Prop
  | keyword, u => ∃ text, theme.keywords.find? (.ofChars name) = some text ∧ u = .keyword text
  | border, u => ∃ sides width, u = .border sides width
  | limit, u => ∃ key value, u = .constraint key value
  | radius, u => ∃ value, theme.radii.find? (.ofChars (radiusName name)) = some value ∧ u = .radius value
  | pixel, u => u = .spacing 1
  | fraction, u => ∃ numerator denominator, IsFraction (lastSegment name) numerator denominator ∧
      u = .other (.literal (Expression.percentage (Numeral.ofDigits numerator / Numeral.ofDigits denominator)))
  | number, u => ∃ x, Numeral.number? (lastSegment name) = some x ∧ u = .spacing (x * theme.spacingUnit)

end Rule

theorem missedToo {theme : Theme} {name : List Char} {rule : Rule}
    (none : ∀ earlier ∈ rule.before, ¬earlier.Applies theme name) (misses : ¬rule.Applies theme name) :
    ∀ earlier ∈ rule.before ++ [rule], ¬earlier.Applies theme name :=
  List.forall_mem_append.mpr ⟨none, List.forall_mem_singleton.mpr misses⟩

theorem ofConstraintNone {theme : Theme} {bound : Bound} {rest : List (List Char)} :
    ofConstraint? theme bound rest = none ↔ rest = [] ∨
      theme.sizes.find? (.ofChars (hyphenated (rest.drop 1))) = none ∧
        Numeral.number? (hyphenated (rest.drop 1)) = none := by
  cases rest with
  | nil => simp [ofConstraint?]
  | cons segment more =>
    simp only [ofConstraint?, List.drop_succ_cons, List.drop_zero, reduceCtorEq, false_or]
    cases theme.sizes.find? (.ofChars (hyphenated more)) <;> simp

theorem ofConstraintMakes {theme : Theme} {bound : Bound} {rest : List (List Char)} {u : Utility}
    (made : ofConstraint? theme bound rest = some u) : ∃ key value, u = .constraint key value := by
  cases rest with
  | nil => contradiction
  | cons segment more =>
    simp only [ofConstraint?] at made
    split at made
    · cases made
      exact ⟨_, _, rfl⟩
    · obtain ⟨n, _, rfl⟩ := Option.map_eq_some_iff.mp made
      exact ⟨_, _, rfl⟩

theorem ofBorderMakes (rest : List (List Char)) : ∃ sides width, ofBorder rest = .border sides width := by
  cases rest with
  | nil => exact ⟨_, _, rfl⟩
  | cons segment more =>
    simp only [ofBorder]
    split <;> exact ⟨_, _, rfl⟩

theorem limitNone {theme : Theme} {name first : List Char} {rest : List (List Char)} (clean : EndsClean name)
    (cut : segments name = first :: rest) :
    (bound? first).bind (ofConstraint? theme · rest) = none ↔ ¬Rule.limit.Applies theme name := by
  have numeral := numberNone (sizeEndsClean clean)
  rw [Option.bind_eq_none_iff, Rule.Applies, ← boundCut cut, cut, List.length_cons]
  simp only [ofConstraintNone, ← sizeCut cut, numeral]
  cases bound? first with
  | none => simp
  | some bound => cases rest <;> simp

theorem ofLastRead (theme : Theme) {name : List Char} (clean : EndsClean (lastSegment name)) :
    (Rule.pixel.Applies theme name ∧ ofLast? theme (lastSegment name) = some (.spacing 1)) ∨
    (¬Rule.pixel.Applies theme name ∧ Rule.fraction.Applies theme name ∧
      ∃ u, Rule.fraction.Makes theme name u ∧ ofLast? theme (lastSegment name) = some u) ∨
    (¬Rule.pixel.Applies theme name ∧ ¬Rule.fraction.Applies theme name ∧
      ofLast? theme (lastSegment name) =
        (Numeral.number? (lastSegment name)).map fun n => .spacing (n * theme.spacingUnit)) := by
  have pixel : is (lastSegment name) "px" = true ↔ Rule.pixel.Applies theme name := beq_iff_eq
  by_cases one : Rule.pixel.Applies theme name
  · exact .inl ⟨one, by rw [ofLast?, if_pos (pixel.mpr one)]⟩
  · rw [ofLast?, if_neg (mt pixel.mp one)]
    cases found : fraction? (lastSegment name) with
    | none =>
      refine .inr (.inr ⟨one, ?_, rfl⟩)
      intro applies
      obtain ⟨numerator, denominator, written, _⟩ := applies
      rw [(fractionOfClean clean).mpr written] at found
      contradiction
    | some parts =>
      obtain ⟨numerator, denominator⟩ := parts
      have written := (fractionOfClean clean).mp found
      by_cases zero : Text.digitsValue denominator = 0
      · refine .inr (.inr ⟨one, ?_, ?_⟩)
        · intro applies
          obtain ⟨_, other, again, notZero⟩ := applies
          rw [(fractionOfClean clean).mpr again] at found
          cases found
          exact notZero zero
        · rw [(numberNone clean).mpr (fractionNoNumeral written)]
          simp only [(digitsZero denominator).mpr zero, if_true, Option.map_none]
      · refine .inr (.inl ⟨one, ⟨numerator, denominator, written, zero⟩, _,
          ⟨numerator, denominator, written, rfl⟩, ?_⟩)
        simp only [mt (digitsZero denominator).mp zero, if_false, Bool.false_eq_true]

theorem ofLastNone (theme : Theme) {name : List Char} (clean : EndsClean (lastSegment name)) :
    ofLast? theme (lastSegment name) = none ↔ ¬Rule.pixel.Applies theme name ∧
      ¬Rule.fraction.Applies theme name ∧ ¬Rule.number.Applies theme name := by
  rcases ofLastRead theme clean with ⟨pixel, read⟩ | ⟨_, fraction, u, _, read⟩ | ⟨pixel, fraction, read⟩
  · simp [read, pixel]
  · simp [read, fraction]
  · rw [read, Option.map_eq_none_iff, numberNone clean]
    exact ⟨fun number => ⟨pixel, fraction, number⟩, fun all => all.2.2⟩

theorem ofLastFirst {theme : Theme} {name : List Char} (clean : EndsClean (lastSegment name)) {u : Utility}
    (read : ofLast? theme (lastSegment name) = some u)
    (others : ∀ rule ∈ Rule.pixel.before, ¬rule.Applies theme name) :
    ∃ rule ∈ [Rule.pixel, .fraction, .number], rule.IsFirst theme name ∧ rule.Makes theme name u := by
  rcases ofLastRead theme clean with ⟨pixel, same⟩ | ⟨pixel, fraction, v, makes, same⟩ | ⟨pixel, fraction, same⟩
  · rw [same] at read
    cases read
    exact ⟨.pixel, by decide, ⟨pixel, others⟩, rfl⟩
  · rw [same] at read
    cases read
    exact ⟨.fraction, by decide, ⟨fraction, missedToo others pixel⟩, makes⟩
  · rw [same] at read
    obtain ⟨n, number, rfl⟩ := Option.map_eq_some_iff.mp read
    have applies : Rule.number.Applies theme name := (numberOfClean clean).mp (by rw [number]; rfl)
    have noPixel : ∀ rule ∈ Rule.fraction.before, ¬rule.Applies theme name := missedToo others pixel
    exact ⟨.number, by decide, ⟨applies, missedToo noPixel fraction⟩, ⟨n, number, rfl⟩⟩

theorem startsOnce {name : List Char} {word other : String} (starts : Starts name word)
    (differs : word.toList ≠ other.toList) : ¬Starts name other := by
  intro again
  rw [Starts, starts] at again
  exact differs (Option.some.inj again)

theorem ofSegmentsNone {theme : Theme} {name first : List Char} {rest : List (List Char)} (clean : EndsClean name)
    (cut : segments name = first :: rest) :
    ofSegments? theme first rest = none ↔ ¬Starts name "border" ∧
      (Starts name "rounded" ∧ theme.radii.find? (.ofChars (radiusName name)) = none ∨
        ¬Starts name "rounded" ∧ ¬Rule.limit.Applies theme name ∧ ¬Rule.pixel.Applies theme name ∧
          ¬Rule.fraction.Applies theme name ∧ ¬Rule.number.Applies theme name) := by
  have limit := @limitNone theme _ _ _ clean cut
  unfold ofSegments?
  by_cases border : Starts name "border"
  · simp [(isCut cut "border").mpr border, border]
  · rw [if_neg (mt (isCut cut "border").mp border)]
    split
    · rename_i utility found
      have applies : Rule.limit.Applies theme name := by
        refine Classical.byContradiction fun misses => ?_
        rw [limit.mpr misses] at found
        contradiction
      have notRounded : ¬Starts name "rounded" := by
        rcases applies.1 with starts | starts
        · exact startsOnce starts (by decide)
        · exact startsOnce starts (by decide)
      simp [applies, notRounded]
    · rename_i missed
      have misses := limit.mp missed
      by_cases rounded : Starts name "rounded"
      · rw [if_pos ((isCut cut "rounded").mpr rounded), radiusCut cut, Option.map_eq_none_iff]
        simp [border, rounded]
      · rw [if_neg (mt (isCut cut "rounded").mp rounded), ← lastCut cut, ofLastNone theme (lastEndsClean clean)]
        simp [border, rounded, misses]

theorem ofSegmentsFirst {theme : Theme} {name first : List Char} {rest : List (List Char)} (clean : EndsClean name)
    (cut : segments name = first :: rest) (keyword : ¬Rule.keyword.Applies theme name) {u : Utility}
    (read : ofSegments? theme first rest = some u) :
    ∃ rule : Rule, rule.IsFirst theme name ∧ rule.Makes theme name u := by
  have none : ∀ rule ∈ Rule.border.before, ¬rule.Applies theme name := List.forall_mem_singleton.mpr keyword
  unfold ofSegments? at read
  split at read
  · rename_i border
    cases read
    exact ⟨.border, ⟨(isCut cut "border").mp border, none⟩, ofBorderMakes rest⟩
  · rename_i other
    have border : ¬Rule.border.Applies theme name := mt (isCut cut "border").mpr other
    have none : ∀ rule ∈ Rule.limit.before, ¬rule.Applies theme name := missedToo none border
    split at read
    · rename_i utility found
      cases read
      obtain ⟨bound, _, made⟩ := Option.bind_eq_some_iff.mp found
      have applies : Rule.limit.Applies theme name := by
        refine Classical.byContradiction fun misses => ?_
        rw [(limitNone clean cut).mpr misses] at found
        contradiction
      exact ⟨.limit, ⟨applies, none⟩, ofConstraintMakes made⟩
    · rename_i missed
      have limit : ¬Rule.limit.Applies theme name := (limitNone clean cut).mp missed
      have none : ∀ rule ∈ Rule.radius.before, ¬rule.Applies theme name := missedToo none limit
      split at read
      · rename_i rounded
        rw [radiusCut cut] at read
        obtain ⟨value, found, rfl⟩ := Option.map_eq_some_iff.mp read
        have known : theme.radii.find? (.ofChars (radiusName name)) ≠ Option.none := by simp [found]
        exact ⟨.radius, ⟨⟨(isCut cut "rounded").mp rounded, known⟩, none⟩, value, found, rfl⟩
      · rename_i plain
        rw [← lastCut cut] at read
        have radius : ¬Rule.radius.Applies theme name :=
          fun applies => plain ((isCut cut "rounded").mpr applies.1)
        obtain ⟨rule, _, first, makes⟩ := ofLastFirst (lastEndsClean clean) read
          (missedToo none radius)
        exact ⟨rule, first, makes⟩

theorem boundMissed {theme : Theme} {name : List Char} (bound : Starts name "min" ∨ Starts name "max")
    (keyword : ¬Rule.keyword.Applies theme name) (limit : ¬Rule.limit.Applies theme name) {rule : Rule} {u : Utility}
    (applies : rule.Applies theme name) (makes : rule.Makes theme name u) :
    (∃ x, u = .spacing x) ∨ ∃ x, u = .other (.literal (Expression.percentage x)) := by
  have noWord {word : String} (least : "min".toList ≠ word.toList) (greatest : "max".toList ≠ word.toList) :
      ¬Starts name word := by
    rcases bound with starts | starts
    · exact startsOnce starts least
    · exact startsOnce starts greatest
  cases rule with
  | keyword => exact absurd applies keyword
  | border => exact absurd applies (noWord (by decide) (by decide))
  | limit => exact absurd applies limit
  | radius => exact absurd applies.1 (noWord (by decide) (by decide))
  | pixel => exact .inl ⟨_, makes⟩
  | fraction =>
    obtain ⟨numerator, denominator, _, same⟩ := makes
    exact .inr ⟨_, same⟩
  | number =>
    obtain ⟨n, _, same⟩ := makes
    exact .inl ⟨_, same⟩

theorem readByFirstRule (theme : Theme) (written : List Char) :
    let name := nameOf written
    (read? theme written = none ↔ name = [] ∨
      theme.keywords.find? (.ofChars name) = none ∧ ¬Starts name "border" ∧
        (Starts name "rounded" ∧ theme.radii.find? (.ofChars (radiusName name)) = none ∨
          ¬Starts name "rounded" ∧
            ¬((Starts name "min" ∨ Starts name "max") ∧ 2 ≤ (segments name).length ∧
              (theme.sizes.find? (.ofChars (sizeName name)) ≠ none ∨ Numeral.IsNumeral (sizeName name))) ∧
            lastSegment name ≠ "px".toList ∧
            (¬∃ numerator denominator, IsFraction (lastSegment name) numerator denominator ∧
              Text.digitsValue denominator ≠ 0) ∧
            ¬Numeral.IsNumeral (lastSegment name))) ∧
    (∀ u, read? theme written = some u → ∃ rule : Rule, rule.IsFirst theme name ∧ rule.Makes theme name u) ∧
    (Starts name "min" ∨ Starts name "max" → theme.keywords.find? (.ofChars name) = none →
      ¬Rule.limit.Applies theme name → ∀ u, read? theme written = some u →
        (∃ x, u = .spacing x) ∨ ∃ x, u = .other (.literal (Expression.percentage x))) := by
  intro name
  have clean : EndsClean name := nameEndsClean written
  have whole : read? theme written = ofName? theme name := rfl
  obtain ⟨first, rest, cut⟩ := segmentsCons name
  have byRule : ∀ u, read? theme written = some u →
      ∃ rule : Rule, rule.IsFirst theme name ∧ rule.Makes theme name u := by
    intro u read
    rw [whole, ofName?] at read
    split at read
    · contradiction
    · split at read
      · rename_i text found
        cases read
        have applies : Rule.keyword.Applies theme name := by simp [Rule.Applies, found]
        exact ⟨.keyword, ⟨applies, by simp [Rule.before, Rule.all]⟩, text, found, rfl⟩
      · rename_i missing
        rw [cut] at read
        exact ofSegmentsFirst clean cut (fun applies => applies missing) read
  refine ⟨?_, byRule, ?_⟩
  · rw [whole, ofName?]
    by_cases empty : name = []
    · simp [empty]
    · rw [if_neg (by simpa using empty)]
      cases found : theme.keywords.find? (.ofChars name) with
      | some text => simp [empty]
      | none =>
        have segments := @ofSegmentsNone theme _ _ _ clean cut
        simp only [Rule.Applies, cut] at segments
        simp only [cut, empty, false_or, true_and]
        exact segments
  · intro bound missing limit u read
    obtain ⟨rule, ⟨applies, _⟩, makes⟩ := byRule u read
    exact boundMissed bound (fun known => known missing) limit applies makes

example : read? .builtIn "rounded-4".toList = none := by decide +kernel

end UtilityLayout.Utility
