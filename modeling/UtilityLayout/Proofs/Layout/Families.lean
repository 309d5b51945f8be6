import UtilityLayout.Layout.Composition

/-! Utilities that may change places. Borders, limits and all other utilities have a part of the layout each, so two
utilities of different families commute. What counts is the order inside each family, and a class that says nothing
does not count. -/
namespace UtilityLayout

inductive Family where
  | border
  | limit
  | other
  deriving DecidableEq, Repr

namespace Utility

def family : Utility → Family
  | border .. => .border
  | constraint .. => .limit
  | keyword _ | radius _ | spacing _ | other _ => .other

def only (f : Family) (utilities : List Utility) : List Utility :=
  utilities.filter fun u => u.family = f

def byFamily (utilities : List Utility) : List Utility :=
  only .border utilities ++ only .limit utilities ++ only .other utilities

theorem onlyFamily {f : Family} {utilities : List Utility} {u : Utility} (inside : u ∈ only f utilities) :
    u.family = f := by
  simpa using (List.mem_filter.mp inside).2

theorem onlyHere {f : Family} {u : Utility} (family : u.family = f) (rest : List Utility) :
    only f (u :: rest) = u :: only f rest := by
  simp [only, family]

theorem onlyElsewhere {f : Family} {u : Utility} (apart : u.family ≠ f) (rest : List Utility) :
    only f (u :: rest) = only f rest := by
  simp [only, apart]

theorem onlyAppend (f : Family) (first second : List Utility) :
    only f (first ++ second) = only f first ++ only f second :=
  List.filter_append ..

theorem onlySwapped {u v : Utility} (apart : u.family ≠ v.family) (f : Family) (rest : List Utility) :
    only f (u :: v :: rest) = only f (v :: u :: rest) := by
  by_cases here : u.family = f
  · have elsewhere : v.family ≠ f := fun there => apart (here.trans there.symm)
    rw [onlyHere here, onlyElsewhere elsewhere, onlyElsewhere elsewhere, onlyHere here]
  · rw [onlyElsewhere here]
    by_cases there : v.family = f
    · rw [onlyHere there, onlyHere there, onlyElsewhere here]
    · rw [onlyElsewhere there, onlyElsewhere there, onlyElsewhere here]

end Utility

namespace Layout
open Utility (only byFamily onlyFamily onlyHere onlyElsewhere)

theorem addSwapped (l : Layout) {u v : Utility} (apart : u.family ≠ v.family) :
    (l.add u).add v = (l.add v).add u := by
  cases u <;> cases v <;> first | rfl | exact absurd rfl apart

theorem runMoved (l : Layout) {u : Utility} {before : List Utility}
    (apart : ∀ v ∈ before, v.family ≠ u.family) (after : List Utility) :
    (before ++ u :: after).foldl add l = (before ++ after).foldl add (l.add u) := by
  induction before generalizing l with
  | nil => rfl
  | cons v rest ih =>
    obtain ⟨first, others⟩ := List.forall_mem_cons.mp apart
    calc (v :: rest ++ u :: after).foldl add l
        = (rest ++ u :: after).foldl add (l.add v) := rfl
      _ = (rest ++ after).foldl add ((l.add v).add u) := ih (l.add v) others
      _ = (rest ++ after).foldl add ((l.add u).add v) := by rw [addSwapped l first]

theorem runByFamily (l : Layout) (utilities : List Utility) :
    utilities.foldl add l = (byFamily utilities).foldl add l := by
  induction utilities generalizing l with
  | nil => rfl
  | cons u rest ih =>
    have elsewhere {f : Family} (differs : f ≠ u.family) : only f (u :: rest) = only f rest :=
      onlyElsewhere differs.symm rest
    have past {f : Family} (differs : f ≠ u.family) : ∀ v ∈ only f rest, v.family ≠ u.family := by
      intro v inside same
      exact differs ((onlyFamily inside).symm.trans same)
    have front : (byFamily (u :: rest)).foldl add l = (byFamily rest).foldl add (l.add u) := by
      cases family : u.family with
      | border =>
        rw [byFamily, onlyHere family, elsewhere (by simp [family]), elsewhere (by simp [family])]
        rfl
      | limit =>
        have before := @past .border (by simp [family])
        rw [byFamily, elsewhere (by simp [family]), onlyHere family, elsewhere (by simp [family]), List.append_assoc,
          List.cons_append, runMoved l before, ← List.append_assoc]
        rfl
      | other =>
        have before := List.forall_mem_append.mpr ⟨@past .border (by simp [family]),
          @past .limit (by simp [family])⟩
        rw [byFamily, elsewhere (by simp [family]), elsewhere (by simp [family]), onlyHere family, runMoved l before]
        rfl
    rw [List.foldl_cons, ih, front]

theorem ofFamilies {first second : List Utility} (same : ∀ f, only f first = only f second) :
    ofUtilities first = ofUtilities second := by
  rw [ofUtilities, ofUtilities, runByFamily, runByFamily empty second]
  simp only [byFamily, same]

end Layout

namespace Theme
open Utility (read? only)

/- Lists of classes that differ in places only: a class that says nothing is there or not, and neighbours of
different families are the other way round. -/
inductive Rearranged (theme : Theme) : List (List Char) → List (List Char) → Prop where
  | refl (words) : Rearranged theme words words
  | silent {word} (nothing : read? theme word = none) (before after) :
      Rearranged theme (before ++ word :: after) (before ++ after)
  | swap {first second u v} (one : read? theme first = some u) (two : read? theme second = some v)
      (apart : u.family ≠ v.family) (before after) :
      Rearranged theme (before ++ first :: second :: after) (before ++ second :: first :: after)
  | symm {first second} (same : Rearranged theme first second) : Rearranged theme second first
  | trans {first second third} (one : Rearranged theme first second) (two : Rearranged theme second third) :
      Rearranged theme first third

theorem rearrangedFamilies {theme : Theme} {first second : List (List Char)}
    (rearranged : Rearranged theme first second) (f : Family) :
    only f (first.filterMap (read? theme)) = only f (second.filterMap (read? theme)) := by
  induction rearranged with
  | refl => rfl
  | silent nothing before after => simp [nothing]
  | swap one two apart before after =>
    simp only [List.filterMap_append, List.filterMap_cons, one, two, Utility.onlyAppend,
      Utility.onlySwapped apart]
  | symm _ ih => exact ih.symm
  | trans _ _ first second => exact first.trans second

theorem convertInterleaved (theme : Theme) (first second : String) :
    ((∀ f, only f (theme.utilities first) = only f (theme.utilities second)) →
      theme.convert first = theme.convert second) ∧
    (Rearranged theme (Text.words first.toList) (Text.words second.toList) →
      theme.convert first = theme.convert second) := by
  have byFamilies (same : ∀ f, only f (theme.utilities first) = only f (theme.utilities second)) :
      theme.convert first = theme.convert second := by
    rw [convert, convert, Layout.ofFamilies same]
  exact ⟨byFamilies, fun rearranged => byFamilies (rearrangedFamilies rearranged)⟩

theorem convertInterleavedFamilies :
    let first := "p-4 max-w-lg ? border-t-2 min-h-1 rounded"
    let second := "border-t-2 p-4 rounded max-w-lg min-h-1"
    (∀ f, only f (builtIn.utilities first) = only f (builtIn.utilities second)) ∧
      builtIn.convert first = builtIn.convert second := by
  intro first second
  have same : ∀ f, only f (builtIn.utilities first) = only f (builtIn.utilities second) := by
    intro f
    cases f <;> decide +kernel
  exact ⟨same, (convertInterleaved builtIn first second).1 same⟩

end Theme

end UtilityLayout
