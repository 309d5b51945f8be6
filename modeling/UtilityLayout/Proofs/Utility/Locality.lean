import UtilityLayout.Proofs.Utility.Segments

/-! How much of a theme a class name can see: one entry of each table at most, and the length of a spacing step. Two
themes that agree on those entries read the name alike; the length counts only where a number stands for steps, and
then as a factor. -/
namespace UtilityLayout.Utility

structure AgreeAt (a b : Theme) (name : List Char) : Prop where
  keywords : a.keywords.find? (.ofChars name) = b.keywords.find? (.ofChars name)
  sizes : Starts name "min" ∨ Starts name "max" → 2 ≤ (segments name).length →
    a.sizes.find? (.ofChars (sizeName name)) = b.sizes.find? (.ofChars (sizeName name))
  radii : Starts name "rounded" →
    a.radii.find? (.ofChars (radiusName name)) = b.radii.find? (.ofChars (radiusName name))

inductive Told (a b : Theme) (name : List Char) : Option Utility → Option Utility → Prop where
  | same (u? : Option Utility) : Told a b name u? u?
  | steps {n : Binary64} (last : Numeral.number? (lastSegment name) = some n) :
      Told a b name (some (.spacing (n * a.spacingUnit))) (some (.spacing (n * b.spacingUnit)))
  | limit {key : ConstraintKey} {n : Binary64} (missing : a.sizes.find? (.ofChars (sizeName name)) = none)
      (number : Numeral.number? (sizeName name) = some n) :
      Told a b name (some (.constraint key (.number (n * a.spacingUnit))))
        (some (.constraint key (.number (n * b.spacingUnit))))

variable {a b : Theme} {name first : List Char} {rest : List (List Char)}

theorem ofConstraintTold (agree : AgreeAt a b name) (cut : segments name = first :: rest) :
    Told a b name ((bound? first).bind (ofConstraint? a · rest))
      ((bound? first).bind (ofConstraint? b · rest)) := by
  have bounded := boundCut cut
  have size := sizeCut cut
  have long := congrArg List.length cut
  cases found : bound? first with
  | none => exact .same none
  | some bound =>
    cases rest with
    | nil => exact .same none
    | cons segment more =>
      have starts := bounded.mp (by rw [found]; rfl)
      have same := agree.sizes starts (by rw [long]; simp)
      rw [List.drop_succ_cons, List.drop_zero] at size
      simp only [Option.bind_some, ofConstraint?, ← size, ← same]
      cases hit : a.sizes.find? (.ofChars (sizeName name)) with
      | some value => exact .same _
      | none =>
        cases number : Numeral.number? (sizeName name) with
        | none => exact .same none
        | some n => exact .limit hit number

theorem ofRadiusTold (agree : AgreeAt a b name) (cut : segments name = first :: rest)
    (rounded : Starts name "rounded") : Told a b name (ofRadius? a rest) (ofRadius? b rest) := by
  rw [radiusCut cut, radiusCut cut, agree.radii rounded]
  exact .same _

theorem ofLastTold (a b : Theme) (name : List Char) :
    Told a b name (ofLast? a (lastSegment name)) (ofLast? b (lastSegment name)) := by
  unfold ofLast?
  split
  · exact .same _
  · split
    · exact .same _
    · cases last : Numeral.number? (lastSegment name) with
      | none => exact .same none
      | some n => exact .steps last

theorem ofSegmentsTold (agree : AgreeAt a b name) (cut : segments name = first :: rest) :
    Told a b name (ofSegments? a first rest) (ofSegments? b first rest) := by
  unfold ofSegments?
  split
  · exact .same _
  · have limits := ofConstraintTold agree cut
    revert limits
    generalize (bound? first).bind (ofConstraint? a · rest) = one
    generalize (bound? first).bind (ofConstraint? b · rest) = two
    intro limits
    -- A bound that fails under one theme fails under the other, and leaves the name to the next rule.
    cases limits with
    | steps last => exact .steps last
    | limit missing number => exact .limit missing number
    | same =>
      cases one with
      | some u => exact .same _
      | none =>
        dsimp only
        split
        · rename_i rounded
          exact ofRadiusTold agree cut ((isCut cut "rounded").mp rounded)
        · rw [← lastCut cut]
          exact ofLastTold a b name

/- Themes that agree where a class looks tell the same of it, up to the length of a spacing step. -/
theorem readLocally {written : List Char} (agree : AgreeAt a b (nameOf written)) :
    Told a b (nameOf written) (read? a written) (read? b written) := by
  obtain ⟨first, rest, cut⟩ := segmentsCons (nameOf written)
  change Told a b (nameOf written) (ofName? a (nameOf written)) (ofName? b (nameOf written))
  unfold ofName?
  split
  · exact .same none
  · rw [agree.keywords]
    cases b.keywords.find? (.ofChars (nameOf written)) with
    | some text => exact .same _
    | none =>
      simp only [cut]
      exact ofSegmentsTold agree cut

theorem readLocallyLimit :
    let a : Theme := Theme.builtIn
    let b : Theme := ⟨"b", "other", 2, .ofList [("p-1", "x")], .ofList [("lg", .number 1)], ∅⟩
    let written := " Max-W-96 ".toList
    Told a b (nameOf written) (read? a written) (read? b written) ∧
      read? a written = some (.constraint ⟨.greatest, .width⟩ (.number 384)) ∧
      read? b written = some (.constraint ⟨.greatest, .width⟩ (.number 192)) := by
  intro a b written
  have agree : AgreeAt a b (nameOf written) := by
    refine ⟨by decide +kernel, fun _ _ => by decide +kernel, fun rounded => ?_⟩
    have other : ¬Starts (nameOf written) "rounded" := by decide +kernel
    exact absurd rounded other
  exact ⟨readLocally agree, by decide +kernel, by decide +kernel⟩

end UtilityLayout.Utility
