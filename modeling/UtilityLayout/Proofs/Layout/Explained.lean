import UtilityLayout.Proofs.Layout.LastWins
import UtilityLayout.Proofs.Text.Words
import UtilityLayout.Proofs.Utility.Revival

/-! The layout of a class text and the report on its words. What the report says, written and read back, adds up to
the same layout; and one can count in it how many entries the layout has. -/
namespace UtilityLayout

namespace Utility

def isConstraint : Utility → Bool
  | constraint .. => true
  | _ => false

def isBorder : Utility → Bool
  | border .. => true
  | _ => false

end Utility

namespace Declared
open Utility

theorem keysEmpty (utilities : List Utility) :
    keys utilities = [] ↔ utilities.any isConstraint = false := by
  have none (u : Utility) : key? u = none ↔ isConstraint u = false := by
    cases u <;> simp [key?, isConstraint]
  have empty : keys utilities = [] ↔ utilities.filterMap key? = [] := by
    simp only [List.eq_nil_iff_forall_not_mem, keys, List.mem_eraseDups]
  rw [empty, List.filterMap_eq_nil_iff, List.any_eq_false]
  simp only [none, Bool.not_eq_true]

theorem widthsEmpty {utilities : List Utility}
    (sided : ∀ sides width, border sides width ∈ utilities → ∃ side, sides.contains side = true) :
    (∀ side, width? utilities side = none) ↔ utilities.any isBorder = false := by
  have silent (side : Side) : width? utilities side = none ↔ ∀ u ∈ utilities, widthOn? side u = none := by
    rw [width?, last?, List.getLast?_eq_none_iff, List.filterMap_eq_nil_iff]
  simp only [silent, List.any_eq_false, Bool.not_eq_true]
  constructor
  · intro nowhere u inside
    cases u with
    | border sides width =>
      obtain ⟨side, on⟩ := sided sides width inside
      have off := nowhere side _ inside
      rw [widthOn?, if_pos on] at off
      contradiction
    | _ => rfl
  · intro never side u inside
    have other := never u inside
    cases u with
    | border sides width => contradiction
    | _ => rfl

theorem expressionsCount (utilities : List Utility) :
    (utilities.filterMap expression?).length =
      utilities.countP fun u => !isConstraint u && !isBorder u := by
  rw [List.length_filterMap_eq_countP]
  refine List.countP_congr fun u _ => ?_
  cases u <;> simp [expression?, isConstraint, isBorder]

end Declared

namespace Layout

theorem constraintsCount (c : Constraints) :
    (Constraints.text? c).toList.length = if c.keys = [] then 0 else 1 := by
  rw [Constraints.text?, Table.isEmpty, Table.keys]
  cases c.entries with
  | nil => rfl
  | cons entry rest => rfl

theorem resolvedEmpty (b : BorderWidths) : b.resolved = [] ↔ ∀ side, b.width? side = none := by
  rw [BorderWidths.resolved, List.filterMap_eq_nil_iff]
  constructor
  · intro none side
    have all : side ∈ Side.all := by cases side <;> decide
    exact Option.map_eq_none_iff.mp (none side all)
  · intro none side _
    rw [none side]
    rfl

theorem bordersCount (b : BorderWidths) :
    b.text?.toList.length = if b.resolved = [] then 0 else 1 := by
  rw [BorderWidths.text?, BorderWidths.isEmpty]
  cases b.resolved with
  | nil => rfl
  | cons side rest =>
    cases b.uniform? <;> rfl

theorem entriesCount {utilities : List Utility}
    (sided : ∀ sides width, Utility.border sides width ∈ utilities →
      ∃ side, sides.contains side = true) :
    (ofUtilities utilities).entries.length =
      (if utilities.any Utility.isConstraint then 1 else 0) +
        (if utilities.any Utility.isBorder then 1 else 0) +
          utilities.countP fun u => !u.isConstraint && !u.isBorder := by
  have constraints := Declared.keysEmpty utilities
  have borders := Declared.widthsEmpty sided
  simp only [entries, List.length_append, constraintsCount, Option.toList_map, List.length_map,
    bordersCount, resolvedEmpty, Declared.keysOfUtilities, Declared.widthOfUtilities,
    Declared.othersOfUtilities, Declared.expressionsCount, constraints, borders]
  cases utilities.any Utility.isConstraint <;> cases utilities.any Utility.isBorder <;> rfl

theorem entriesNone {utilities : List Utility}
    (sided : ∀ sides width, Utility.border sides width ∈ utilities →
      ∃ side, sides.contains side = true) :
    (ofUtilities utilities).entries = [] ↔ utilities = [] := by
  rw [← List.length_eq_zero_iff, entriesCount sided]
  cases utilities with
  | nil => simp
  | cons u rest => cases u <;> simp [Utility.isConstraint, Utility.isBorder]

theorem shapeEmpty (entries : List Text) :
    (Composition.ofEntries entries).shape = .empty ↔ entries = [] := by
  match entries with
  | [] => simp [Composition.ofEntries]
  | [_] => simp [Composition.ofEntries]
  | _ :: _ :: _ => simp [Composition.ofEntries]

theorem ofEntriesEntries (entries : List Text) : (Composition.ofEntries entries).entries = entries := by
  match entries with
  | [] => rfl
  | [_] => rfl
  | _ :: _ :: _ => rfl

end Layout

namespace Theme

def retold? (readings : List Reading) : Option Layout.Composition :=
  ((readings.filterMap Reading.utility?).mapM Utility.revived?).map fun utilities =>
    (Layout.ofUtilities utilities).compose

theorem explainUtilities (theme : Theme) (classes : String) :
    (theme.explain classes).filterMap Reading.utility? = theme.utilities classes := by
  rw [explain, List.filterMap_map]
  rfl

theorem explainWritten (theme : Theme) (classes : String) :
    (theme.explain classes).map (fun reading => reading.written.toList) = Text.words classes.toList := by
  rw [explain, List.map_map]
  exact List.map_id'' (fun word => String.toList_ofList) _

theorem explainDropped (theme : Theme) (classes : String) :
    (∀ reading ∈ theme.explain classes, reading.utility? = none) ↔ theme.utilities classes = [] := by
  rw [← explainUtilities, List.filterMap_eq_nil_iff]

theorem utilitiesSided (theme : Theme) (classes : String) {sides : SideSet} {width : Binary64}
    (inside : Utility.border sides width ∈ theme.utilities classes) :
    ∃ side, sides.contains side = true := by
  obtain ⟨word, _, read⟩ := List.mem_filterMap.mp inside
  obtain ⟨_, _, rest, _, made⟩ := Utility.borderOfRead read
  exact Utility.ofBorderSides made

theorem explainedConverts (theme : Theme) (classes : String) :
    let readings := theme.explain classes
    let utilities := readings.filterMap Reading.utility?
    let composition := theme.convert classes
    retold? readings = some composition ∧
    (∀ u ∈ utilities, Utility.revived? u = some u) ∧
    Text.Spaced classes.toList (readings.map fun reading => reading.written.toList) ∧
    (composition.shape = .empty ↔ ∀ reading ∈ readings, reading.utility? = none) ∧
    composition.entries.length =
      (if utilities.any Utility.isConstraint then 1 else 0) +
        (if utilities.any Utility.isBorder then 1 else 0) +
          utilities.countP fun u => !u.isConstraint && !u.isBorder := by
  intro readings utilities composition
  have told : utilities = theme.utilities classes := explainUtilities theme classes
  have sided : ∀ sides width, Utility.border sides width ∈ theme.utilities classes →
      ∃ side, sides.contains side = true := fun _ _ => utilitiesSided theme classes
  have converted : composition = .ofEntries (Layout.ofUtilities (theme.utilities classes)).entries := rfl
  refine ⟨?_, fun u _ => Utility.revivedSame u, ?_, ?_, ?_⟩
  · calc retold? readings
        = some (Layout.ofUtilities utilities).compose := by rw [retold?, Utility.revivedAll]; rfl
      _ = some composition := by rw [told]; rfl
  · rw [explainWritten]
    exact Text.spacedWords _
  · rw [explainDropped, converted, Layout.shapeEmpty, Layout.entriesNone sided]
  · rw [told, converted, Layout.ofEntriesEntries, Layout.entriesCount sided]

end Theme

end UtilityLayout
