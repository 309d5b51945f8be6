import UtilityLayout.Proofs.Layout.LastWins
import UtilityLayout.Proofs.Utility.Forms

/-! The language of the entries under the built-in tables. A layout has at most one expression for all constraints, then
at most one for all borders, then values. -/
namespace UtilityLayout

namespace Layout
open Expression

def call (name : String) (arguments : List Text) : Text :=
  Text.ofString (name ++ "(") ++ Text.intercalate ", " arguments ++ Text.ofString ")"

def named (name : String) (value : Text) : Text :=
  Text.ofString (name ++ ": ") ++ value

inductive IsConstraints : Text → Prop where
  | limits {limits : List (ConstraintKey × Text)} (some : limits ≠ []) (few : limits.length ≤ 4)
      (distinct : (limits.map Prod.fst).Nodup) (formed : ∀ limit ∈ limits, IsLimit limit.1.axis limit.2) :
      IsConstraints (call "BoxConstraints" (limits.map fun limit => named limit.1.name limit.2))

inductive IsBorder : Text → Prop where
  | all {width : Text} (number : IsNumber width) : IsBorder (call "Border.all" [named "width" width])
  | sides {sides : List (Side × Text)} (some : sides ≠ []) (ordered : (sides.map Prod.fst).Sublist Side.all)
      (numbers : ∀ side ∈ sides, IsNumber side.2) :
      IsBorder (call "Border" (sides.map fun side =>
        named side.1.name (call "BorderSide" [named "width" side.2])))

def AreEntries (entries : List Text) : Prop :=
  ∃ constraints border : Option Text, ∃ values : List Text,
    entries = constraints.toList ++ border.toList ++ values ∧
    (∀ text ∈ constraints, IsConstraints text) ∧ (∀ text ∈ border, IsBorder text) ∧
    ∀ text ∈ values, IsValue text

end Layout

namespace Text

theorem ofStringIntercalate (separator : String) (texts : List String) :
    ofString (separator.intercalate texts) = intercalate separator (texts.map ofString) := by
  ext1
  induction texts with
  | nil => simp [intercalate, join]
  | cons text rest ih =>
    cases rest with
    | nil => simp [intercalate, join]
    | cons next others =>
      rw [String.intercalate_cons_cons, ofStringAppend, ofStringAppend, pointsAppend, pointsAppend, ih]
      rfl

end Text

namespace Declared
open Layout Expression

theorem pairsKeys {κ α : Type} (keys : List κ) (found? : κ → Option α) :
    ((keys.filterMap fun key => (found? key).map (key, ·)).map Prod.fst).Sublist keys := by
  induction keys with
  | nil => exact .slnil
  | cons key rest ih =>
    rw [List.filterMap_cons]
    cases found? key with
    | none => exact ih.cons _
    | some value => exact ih.cons_cons _

theorem valueOfMember {utilities : List Utility} {key : ConstraintKey} {value : LayoutValue}
    (found : value? utilities key = some value) : Utility.constraint key value ∈ utilities := by
  obtain ⟨u, member, tells⟩ := List.mem_filterMap.mp (List.mem_of_getLast? found)
  cases u with
  | constraint other limit =>
    simp only [valueFor?] at tells
    split at tells
    · rename_i same
      cases tells
      exact same ▸ member
    · contradiction
  | _ => contradiction

def limits (utilities : List Utility) : List (ConstraintKey × Text) :=
  (keys utilities).filterMap fun key => ((value? utilities key).map Expression.value).map (key, ·)

theorem limitsArguments (utilities : List Utility) :
    arguments utilities = (limits utilities).map fun limit => named limit.1.name limit.2 := by
  rw [arguments, limits, List.map_filterMap]
  simp only [Option.map_map]
  rfl

theorem limitsKeys (utilities : List Utility) : ((limits utilities).map Prod.fst).Nodup :=
  (pairsKeys _ _).nodup (keysNodup utilities)

theorem limitsFew (utilities : List Utility) : (limits utilities).length ≤ 4 := by
  have inside : (limits utilities).map Prod.fst ⊆ ConstraintKey.all := by
    intro ⟨bound, axis⟩ _
    cases bound <;> cases axis <;> decide
  have few := (limitsKeys utilities).length_le_of_subset inside
  rw [List.length_map] at few
  exact few

theorem constraintsFormed {utilities : List Utility} (formed : ∀ u ∈ utilities, u.Formed) {text : Text}
    (told : constraints? utilities = some text) : IsConstraints text := by
  rw [constraints?, limitsArguments] at told
  split at told
  · contradiction
  · rename_i listed some
    cases told
    refine .limits (fun none => some (by rw [none]; rfl)) (limitsFew utilities) (limitsKeys utilities) ?_
    intro limit member
    obtain ⟨key, _, same⟩ := List.mem_filterMap.mp member
    obtain ⟨text, written, rfl⟩ := Option.map_eq_some_iff.mp same
    obtain ⟨value, last, rfl⟩ := Option.map_eq_some_iff.mp written
    exact formed _ (valueOfMember last)

theorem borderFormed {width? : Side → Option Binary64} {text : String} (told : border? width? = some text) :
    IsBorder text := by
  have ordered : ((sides width?).map Prod.fst).Sublist Side.all := pairsKeys Side.all width?
  have written (side : Side) (width : Binary64) :
      Text.ofString (side.name ++ ": " ++ ("BorderSide(width: " ++ number width ++ ")")) =
        named side.name (call "BorderSide" [named "width" (number width)]) := by
    ext1
    simp [named, call, Text.intercalate, Text.join]
  unfold border? at told
  split at told
  · contradiction
  · rename_i side width rest set
    split at told
    · cases told
      rw [Text.ofStringAppend, Text.ofStringAppend]
      exact .all (numberFormed width)
    · cases told
      have numbers := @IsBorder.sides
        ((sides width?).map fun side => (side.1, Text.ofString (number side.2)))
        (by simp [set]) (by rwa [List.map_map]) (by
          intro side member
          obtain ⟨_, _, rfl⟩ := List.mem_map.mp member
          exact numberFormed _)
      rw [Text.ofStringAppend, Text.ofStringAppend, Text.ofStringIntercalate, List.map_map]
      rw [set, List.map_map] at numbers
      simp only [Function.comp_def, written] at numbers ⊢
      exact numbers

theorem valuesFormed {utilities : List Utility} (formed : ∀ u ∈ utilities, u.Formed) :
    ∀ text ∈ utilities.filterMap expression?, IsValue text := by
  intro text member
  obtain ⟨u, inside, told⟩ := List.mem_filterMap.mp member
  have formed := formed u inside
  cases u with
  | keyword | radius | other =>
    cases told
    exact formed
  | spacing x =>
    cases told
    exact .number (numberFormed x)
  | border | constraint => contradiction

theorem entriesFormed {utilities : List Utility} (formed : ∀ u ∈ utilities, u.Formed) :
    AreEntries (entries utilities) := by
  refine ⟨constraints? utilities, (border? (width? utilities)).map Text.ofString,
    utilities.filterMap expression?, rfl, ?_, ?_, valuesFormed formed⟩
  · intro text told
    exact constraintsFormed formed told
  · intro text told
    obtain ⟨border, some, rfl⟩ := Option.map_eq_some_iff.mp told
    exact borderFormed some

end Declared

namespace Theme

theorem convertOfEntries (theme : Theme) (classes : String) :
    theme.convert classes = .ofEntries (Declared.entries (theme.utilities classes)) := by
  rw [← Declared.entriesOfUtilities]
  · rfl
  · intro sides width member
    obtain ⟨word, _, read⟩ := List.mem_filterMap.mp member
    exact Binary64.equalsSelf (Utility.borderReadNotNan read)

theorem utilitiesFormed (unit : Binary64) (classes : String) :
    Layout.AreEntries (Declared.entries ((withSpacing unit).utilities classes)) := by
  refine Declared.entriesFormed fun u inside => ?_
  obtain ⟨word, _, read⟩ := List.mem_filterMap.mp inside
  exact Utility.readFormed read

end Theme

end UtilityLayout
