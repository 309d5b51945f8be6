import UtilityLayout.Proofs.Layout.Families
import UtilityLayout.Proofs.Layout.Merging

/-! The parts of a layout. The borders and the limits of a layout are those of its borders and limits alone, each family
with one entry for all; every other utility has its own. -/
namespace UtilityLayout

namespace Layout
open Declared (key? expression?)
open Utility (only)

def entryOf? (l : Layout) : Family → Option Text
  | .limit => Constraints.text? l.constraints
  | .border => l.borders.text?.map Text.ofString
  | .other => none

theorem entriesParts (l : Layout) :
    l.entries = (l.entryOf? .limit).toList ++ (l.entryOf? .border).toList ++ l.others :=
  rfl

theorem bordersKept (l : Layout) {utilities : List Utility} (elsewhere : ∀ u ∈ utilities, u.family ≠ .border) :
    (utilities.foldl add l).borders = l.borders := by
  induction utilities generalizing l with
  | nil => rfl
  | cons u rest ih =>
    obtain ⟨here, others⟩ := List.forall_mem_cons.mp elsewhere
    rw [List.foldl_cons, ih _ others]
    cases u with
    | border sides width => exact absurd rfl here
    | _ => rfl

theorem constraintsKept (l : Layout) {utilities : List Utility} (elsewhere : ∀ u ∈ utilities, u.family ≠ .limit) :
    (utilities.foldl add l).constraints = l.constraints := by
  induction utilities generalizing l with
  | nil => rfl
  | cons u rest ih =>
    obtain ⟨here, others⟩ := List.forall_mem_cons.mp elsewhere
    rw [List.foldl_cons, ih _ others]
    cases u with
    | constraint key value => exact absurd rfl here
    | _ => rfl

theorem onlyApart {f g : Family} (apart : f ≠ g) (utilities : List Utility) :
    ∀ u ∈ only f utilities, u.family ≠ g :=
  fun _ inside same => apart ((Utility.onlyFamily inside).symm.trans same)

theorem partsOnly (utilities : List Utility) :
    (ofUtilities utilities).borders = (ofUtilities (only .border utilities)).borders ∧
      (ofUtilities utilities).constraints = (ofUtilities (only .limit utilities)).constraints := by
  have sorted : ofUtilities utilities =
      ((ofUtilities (only .border utilities)).merge (ofUtilities (only .limit utilities))).merge
        (ofUtilities (only .other utilities)) := by
    rw [← ofUtilitiesAppend, ← ofUtilitiesAppend]
    exact runByFamily empty utilities
  have borders {f : Family} (apart : f ≠ .border) : (ofUtilities (only f utilities)).borders = ∅ :=
    bordersKept empty (onlyApart apart utilities)
  have constraints {f : Family} (apart : f ≠ .limit) : (ofUtilities (only f utilities)).constraints = ∅ :=
    constraintsKept empty (onlyApart apart utilities)
  rw [sorted]
  simp only [merge]
  constructor
  · rw [borders (f := .limit) (by decide), borders (f := .other) (by decide), BorderWidths.mergeEmpty,
      BorderWidths.mergeEmpty]
  · rw [constraints (f := .border) (by decide), constraints (f := .other) (by decide), Table.emptyUpdate]
    rfl

theorem entryOnly (f : Family) (utilities : List Utility) :
    (ofUtilities utilities).entryOf? f = (ofUtilities (only f utilities)).entryOf? f := by
  obtain ⟨borders, constraints⟩ := partsOnly utilities
  cases f with
  | border => simp only [entryOf?, borders]
  | limit => simp only [entryOf?, constraints]
  | other => rfl

def Sided (utilities : List Utility) : Prop :=
  ∀ sides width, Utility.border sides width ∈ utilities → ∃ side, sides.contains side = true

theorem noneOfCount {α : Type} {o : Option α} {p : Prop} [Decidable p]
    (count : o.toList.length = if p then 0 else 1) : o = none ↔ p := by
  by_cases holds : p
  · rw [if_pos holds, List.length_eq_zero_iff, Option.toList_eq_nil_iff] at count
    simp [count, holds]
  · rw [if_neg holds] at count
    cases o with
    | none => contradiction
    | some a => simp [holds]

theorem entryNone {f : Family} (shared : f ≠ .other) {utilities : List Utility} (sided : Sided utilities) :
    (ofUtilities utilities).entryOf? f = none ↔ ∀ u ∈ utilities, u.family ≠ f := by
  have border (u : Utility) : u.isBorder = false ↔ u.family ≠ .border := by
    cases u <;> simp [Utility.isBorder, Utility.family]
  have limit (u : Utility) : u.isConstraint = false ↔ u.family ≠ .limit := by
    cases u <;> simp [Utility.isConstraint, Utility.family]
  cases f with
  | border =>
    rw [entryOf?, Option.map_eq_none_iff, noneOfCount (bordersCount _), resolvedEmpty]
    simp only [Declared.widthOfUtilities, Declared.widthsEmpty sided, List.any_eq_false, Bool.not_eq_true, border]
  | limit =>
    rw [entryOf?, noneOfCount (constraintsCount _), Declared.keysOfUtilities, Declared.keysEmpty, List.any_eq_false]
    simp only [Bool.not_eq_true, limit]
  | other => contradiction

theorem expressionNone {u : Utility} : expression? u = none ↔ u.family ≠ .other := by
  cases u <;> simp [expression?, Utility.family]

def around (l : Layout) : Family → List Text × List Text
  | .limit => ([], (l.entryOf? .border).toList ++ l.others)
  | .border => ((l.entryOf? .limit).toList, l.others)
  | .other => ((l.entryOf? .limit).toList ++ (l.entryOf? .border).toList, l.others)

theorem entriesAround (l : Layout) (f : Family) :
    l.entries = (l.around f).1 ++ (l.entryOf? f).toList ++ (l.around f).2 := by
  rw [entriesParts]
  cases f <;> simp [around, entryOf?]

end Layout
end UtilityLayout
