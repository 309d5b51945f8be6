import UtilityLayout.Proofs.Layout.Forms
import UtilityLayout.Proofs.Layout.Explained
import UtilityLayout.Proofs.Text.Pieces

/-! Under the built-in tables a layout can be read off its text. Expressions close the parentheses that they open and
have commas only inside, so the separators of the list are the ones outside all parentheses. -/
namespace UtilityLayout

namespace Text

def marks : List Char := ['(', ')', ',', '[']

def Plain (text : List Char) : Prop :=
  text.all (fun c => !marks.contains c) = true

instance (text : List Char) : Decidable (Plain text) := by
  unfold Plain; infer_instance

theorem plainCharacter {text : List Char} (plain : Plain text) {c : Char} (inside : c ∈ text) :
    c ∉ marks := by
  have other := List.all_eq_true.mp plain c inside
  simpa only [Bool.not_eq_true', List.contains_eq_mem, decide_eq_false_iff_not] using other

theorem plainOf {text : List Char} (other : ∀ c ∈ text, c ∉ marks) : Plain text := by
  refine List.all_eq_true.mpr fun c inside => ?_
  simpa only [Bool.not_eq_true', List.contains_eq_mem, decide_eq_false_iff_not] using other c inside

theorem plainAppend {first second : List Char} (one : Plain first) (two : Plain second) :
    Plain (first ++ second) := by
  rw [Plain, List.all_append, one, two]
  rfl

theorem plainDigit {c : Char} (digit : isAsciiDigit c = true) : c ∉ marks := by
  intro mark
  simp only [marks, List.mem_cons, List.not_mem_nil, or_false] at mark
  rcases mark with rfl | rfl | rfl | rfl <;> contradiction

structure Listable (text : Text) : Prop where
  enclosed : Enclosed text.points
  unlisted : text.points.head? ≠ some (.char '[')

theorem plainListable {characters : List Char} (plain : Plain characters) :
    Listable (.ofChars characters) := by
  have clean : ∀ c ∈ (ofChars characters).points, c ≠ opens ∧ c ≠ closes ∧ c ≠ comma ∧ c ≠ .char '[' := by
    intro c inside
    obtain ⟨character, member, rfl⟩ := List.mem_map.mp inside
    have absent := plainCharacter plain member
    simpa [marks, opens, closes, comma] using absent
  refine ⟨enclosedPlain fun c inside => ?_, fun head => ?_⟩
  · obtain ⟨notOpen, notClose, notComma, _⟩ := clean c inside
    exact ⟨notOpen, notClose, notComma⟩
  · exact (clean _ (List.mem_of_mem_head? head)).2.2.2 rfl

end Text

namespace Expression
open Text Layout

theorem signPlain {sign : List Char} (signed : sign = [] ∨ sign = ['-']) : Plain sign := by
  rcases signed with rfl | rfl <;> decide

theorem digitsPlain {whole : List Char} (digits : Numeral.IsDigits whole) : Plain whole :=
  plainOf fun c inside => plainDigit (digits.2 c inside)

theorem numberListable {text : Text} (number : IsNumber text) : Listable text := by
  cases number with
  | digits signed digits digit =>
    refine plainListable (plainAppend (plainAppend (signPlain signed) (digitsPlain digits)) (plainOf ?_))
    intro c inside
    rw [List.mem_cons, List.mem_singleton] at inside
    rcases inside with rfl | rfl
    · decide
    · exact plainDigit digit
  | infinite signed => exact plainListable (plainAppend (signPlain signed) (by decide))
  | notNumber => exact plainListable (by decide)

theorem screenEnclosed (axis : Axis) : Enclosed (ofString (screenAlong axis)).points := by
  cases axis <;> decide

theorem literalListable {name : String} (known : name ∈ literals) : Listable (ofString name) := by
  have all : ∀ name ∈ literals, Enclosed (ofString name).points ∧
      (ofString name).points.head? ≠ some (.char '[') := by decide
  exact ⟨(all name known).1, (all name known).2⟩

theorem valueListable {text : Text} (value : IsValue text) : Listable text := by
  cases value with
  | number number => exact numberListable number
  | literal known => exact literalListable known
  | percentage digits =>
    exact plainListable (plainAppend (plainAppend (by decide) (digitsPlain digits)) (by decide))

theorem limitEnclosed {axis : Axis} {text : Text} (limit : IsLimit axis text) : Enclosed text.points := by
  cases limit with
  | number number => exact (numberListable number).enclosed
  | screen => exact screenEnclosed axis

theorem namedEnclosed {name : String} {value : Text} (plain : Enclosed (ofString (name ++ ": ")).points)
    (enclosed : Enclosed value.points) : Enclosed (named name value).points :=
  enclosedAppend plain enclosed

theorem callEnclosed {name : String} {arguments : List Text} (plain : Enclosed (ofString name).points)
    (enclosed : ∀ argument ∈ arguments, Enclosed argument.points) :
    Enclosed (call name arguments).points := by
  have points : (call name arguments).points =
      (ofString name).points ++ [opens] ++ join [comma, space] (arguments.map Text.points) ++ [closes] := by
    simp [call, intercalate, opens, closes, comma, space]
  rw [points]
  refine enclosedCall plain fun text inside => ?_
  obtain ⟨argument, member, rfl⟩ := List.mem_map.mp inside
  exact enclosed argument member

theorem widthEnclosed {name : String} {width : Text} (plain : Enclosed (ofString name).points)
    (number : IsNumber width) : Enclosed (call name [named "width" width]).points := by
  refine callEnclosed plain fun argument member => ?_
  rw [List.mem_singleton.mp member]
  exact namedEnclosed (by decide) (numberListable number).enclosed

theorem keyEnclosed (key : ConstraintKey) : Enclosed (ofString (key.name ++ ": ")).points := by
  obtain ⟨bound, axis⟩ := key
  cases bound <;> cases axis <;> decide

theorem sideEnclosed (side : Side) : Enclosed (ofString (side.name ++ ": ")).points := by
  cases side <;> decide

theorem constraintsListable {text : Text} (constraints : IsConstraints text) : Listable text := by
  obtain ⟨_, _, _, formed⟩ := constraints
  refine ⟨callEnclosed (by decide) fun argument member => ?_, nofun⟩
  obtain ⟨⟨key, limit⟩, inside, rfl⟩ := List.mem_map.mp member
  exact namedEnclosed (keyEnclosed key) (limitEnclosed (formed _ inside))

theorem borderListable {text : Text} (border : IsBorder text) : Listable text := by
  cases border with
  | all number => exact ⟨widthEnclosed (by decide) number, nofun⟩
  | sides _ _ numbers =>
    refine ⟨callEnclosed (by decide) fun argument member => ?_, nofun⟩
    obtain ⟨⟨side, width⟩, inside, rfl⟩ := List.mem_map.mp member
    exact namedEnclosed (sideEnclosed side) (widthEnclosed (by decide) (numbers _ inside))

theorem entriesListable {entries : List Text} (formed : AreEntries entries) :
    ∀ entry ∈ entries, Listable entry := by
  obtain ⟨constraints, border, values, rfl, constraintsFormed, borderFormed, valuesFormed⟩ := formed
  intro entry member
  rcases List.mem_append.mp member with member | member
  · rcases List.mem_append.mp member with member | member
    · exact constraintsListable (constraintsFormed entry (Option.mem_toList.mp member))
    · exact borderListable (borderFormed entry (Option.mem_toList.mp member))
  · exact valueListable (valuesFormed entry member)

end Expression

namespace Layout
open Text

def recovered : Shape → Text → List Text
  | .empty, _ => []
  | .single, text => [text]
  | .aggregate, text => (pieces text.points.tail.dropLast).map Text.mk

theorem ofEntriesRecovered {entries : List Text} (listable : ∀ entry ∈ entries, Listable entry) :
    recovered (Composition.ofEntries entries).shape (Composition.ofEntries entries).text = entries := by
  match entries with
  | [] => rfl
  | [_] => rfl
  | first :: second :: rest =>
    have between : (Composition.ofEntries (first :: second :: rest)).text.points.tail.dropLast =
        join [comma, space] ((first :: second :: rest).map Text.points) := by
      simp [Composition.ofEntries, intercalate, comma, space]
    have parted := @piecesJoin ((first :: second :: rest).map Text.points) (by simp) (by
      intro text inside
      obtain ⟨entry, member, rfl⟩ := List.mem_map.mp inside
      exact (listable entry member).enclosed)
    change (pieces _).map Text.mk = _
    rw [between, parted, List.map_map]
    exact List.map_id _

theorem ofEntriesListed {entries : List Text} (listable : ∀ entry ∈ entries, Listable entry) :
    (Composition.ofEntries entries).text.points.head? = some (.char '[') ↔
      (Composition.ofEntries entries).shape = .aggregate := by
  match entries with
  | [] => decide
  | [entry] =>
    have unlisted := (listable entry List.mem_cons_self).unlisted
    simpa [Composition.ofEntries] using unlisted
  | _ :: _ :: _ => exact iff_of_true rfl rfl

theorem convertRecovered (unit : Binary64) (classes : String) :
    recovered ((Theme.withSpacing unit).convert classes).shape ((Theme.withSpacing unit).convert classes).text =
      ((Theme.withSpacing unit).convert classes).entries := by
  rw [Theme.convertOfEntries, ofEntriesEntries]
  exact ofEntriesRecovered (Expression.entriesListable (Theme.utilitiesFormed unit classes))

theorem entriesRecovered (unit : Binary64) (classes : String) :
    let composition := (Theme.withSpacing unit).convert classes
    AreEntries composition.entries ∧
    (composition.text.points.head? = some (.char '[') ↔ composition.shape = .aggregate) ∧
    recovered composition.shape composition.text = composition.entries ∧
    ∀ otherUnit otherClasses, let other := (Theme.withSpacing otherUnit).convert otherClasses
      other.shape = composition.shape → other.text = composition.text →
        other.entries = composition.entries := by
  intro composition
  have made : composition = .ofEntries _ := Theme.convertOfEntries _ classes
  have formed := Theme.utilitiesFormed unit classes
  refine ⟨?_, ?_, convertRecovered unit classes, ?_⟩
  · rw [made, ofEntriesEntries]
    exact formed
  · rw [made]
    exact ofEntriesListed (Expression.entriesListable formed)
  · intro otherUnit otherClasses other shape text
    calc other.entries
        = recovered other.shape other.text := (convertRecovered otherUnit otherClasses).symm
      _ = recovered composition.shape composition.text := by rw [shape, text]
      _ = composition.entries := convertRecovered unit classes

end Layout

end UtilityLayout
