import UtilityLayout.Proofs.Layout.Explained

/-! Layouts laid over one another. They form a monoid, and adding up a list of utilities is a homomorphism into it: a
list may be cut anywhere, its parts added up for themselves and the results merged. So a class text may be cut at
white space. -/
namespace UtilityLayout

theorem SideSet.someSide {sides : SideSet} (some : sides ≠ .ofList []) : ∃ side, sides.contains side = true := by
  obtain ⟨top, right, bottom, left⟩ := sides
  cases top with
  | true => exact ⟨.top, rfl⟩
  | false =>
    cases right with
    | true => exact ⟨.right, rfl⟩
    | false =>
      cases bottom with
      | true => exact ⟨.bottom, rfl⟩
      | false =>
        cases left with
        | true => exact ⟨.left, rfl⟩
        | false => exact absurd rfl some

namespace BorderWidths

theorem ofSidesWidth (f : Side → Option Binary64) : (ofSides f).width? = f :=
  funext (widthOfSides f)

theorem eachSides (t r b l : Option Binary64) : each t r b l = ofSides (each t r b l).width? :=
  rfl

theorem ofSidesEmpty {f : Side → Option Binary64} :
    (ofSides f).isEmpty = true ↔ ∀ side, f side = Option.none := by
  rw [isEmpty, List.isEmpty_iff, Layout.resolvedEmpty]
  simp only [widthOfSides]

theorem mergeJoint (first : BorderWidths) (width : Binary64) : first.merge (.joint width) = .joint width :=
  rfl

theorem mergeNothing (first : BorderWidths) {f : Side → Option Binary64} (nothing : ∀ side, f side = Option.none) :
    first.merge (ofSides f) = first :=
  if_pos (ofSidesEmpty.mpr nothing)

theorem mergeSides (first : BorderWidths) {f : Side → Option Binary64} {side : Side} (some : f side ≠ Option.none) :
    first.merge (ofSides f) = ofSides fun s => (f s).or (first.width? s) := by
  have filled : ¬(ofSides f).isEmpty = true := fun empty => some (ofSidesEmpty.mp empty side)
  have sides : (ofSides f).width? = f := ofSidesWidth f
  rw [← sides]
  exact if_neg filled

theorem widthsCases (b : BorderWidths) :
    (∃ width, b = .joint width) ∨ (∃ f, b = ofSides f ∧ ∀ side, f side = Option.none) ∨
      ∃ f side, b = ofSides f ∧ f side ≠ Option.none := by
  cases b with
  | joint width => exact .inl ⟨width, rfl⟩
  | each t r b l =>
    by_cases nothing : ∀ side, (each t r b l).width? side = Option.none
    · exact .inr (.inl ⟨_, eachSides t r b l, nothing⟩)
    · obtain ⟨side, some⟩ := Classical.not_forall.mp nothing
      exact .inr (.inr ⟨_, side, eachSides t r b l, some⟩)

theorem mergeWidth (first second : BorderWidths) (side : Side) :
    (first.merge second).width? side = (second.width? side).or (first.width? side) := by
  rcases widthsCases second with ⟨width, rfl⟩ | ⟨f, rfl, nothing⟩ | ⟨f, other, rfl, some⟩
  · rfl
  · rw [mergeNothing first nothing, widthOfSides, nothing side, Option.none_or]
  · rw [mergeSides first some, widthOfSides, widthOfSides]

theorem mergeAssoc (first second third : BorderWidths) :
    (first.merge second).merge third = first.merge (second.merge third) := by
  rcases widthsCases third with ⟨width, rfl⟩ | ⟨f, rfl, nothing⟩ | ⟨f, side, rfl, some⟩
  · rfl
  · rw [mergeNothing _ nothing, mergeNothing _ nothing]
  · have still : (f side).or (second.width? side) ≠ Option.none := by
      rw [Ne, Option.or_eq_none_iff, not_and]
      exact fun none => absurd none some
    rw [mergeSides _ some, mergeSides _ some, mergeSides first still]
    simp only [mergeWidth, Option.or_assoc]

theorem mergeEmpty (b : BorderWidths) : b.merge ∅ = b :=
  rfl

theorem emptyMerge (b : BorderWidths) : (∅ : BorderWidths).merge b = b := by
  have none (side : Side) : (∅ : BorderWidths).width? side = Option.none := by
    cases side <;> rfl
  rcases widthsCases b with ⟨width, rfl⟩ | ⟨f, rfl, nothing⟩ | ⟨f, side, rfl, some⟩
  · rfl
  · rw [mergeNothing _ nothing, funext nothing]
    rfl
  · simp only [mergeSides _ some, none, Option.or_none]

theorem mergeSet (first second : BorderWidths) (sides : SideSet) (width : Binary64) :
    (first.merge second).set sides width = first.merge (second.set sides width) := by
  by_cases all : sides = .full
  · simp only [set, if_pos all, mergeJoint]
  · by_cases nothing : sides = .ofList []
    · simp only [set, if_neg all, if_pos nothing]
    · obtain ⟨side, inside⟩ := SideSet.someSide nothing
      simp only [set, if_neg all, if_neg nothing]
      rw [@mergeSides first _ side (by rw [if_pos inside]; exact Option.some_ne_none width)]
      congr 1
      funext s
      rw [mergeWidth]
      split <;> rfl

theorem mergeCovered {lower upper : BorderWidths}
    (covered : ∀ side, upper.width? side = Option.none → lower.width? side = Option.none) :
    lower.merge upper = upper := by
  rcases widthsCases upper with ⟨width, rfl⟩ | ⟨f, rfl, nothing⟩ | ⟨f, side, rfl, some⟩
  · rfl
  · simp only [widthOfSides] at covered
    have empty (side : Side) := covered side (nothing side)
    rw [mergeNothing lower nothing]
    rcases widthsCases lower with ⟨width, rfl⟩ | ⟨g, rfl, none⟩ | ⟨g, side, rfl, some⟩
    · cases empty .top
    · rw [funext nothing, funext none]
    · exact absurd ((widthOfSides g side).symm.trans (empty side)) some
  · rw [mergeSides lower some]
    congr 1
    funext s
    cases told : f s with
    | none => rw [covered s (by rw [widthOfSides, told]), Option.or_none]
    | some width => rfl

end BorderWidths

namespace Layout

/- What lying over something means: where the upper layout tells something, it counts; what is new comes after what is
there. -/
structure LaidOver (lower upper whole : Layout) : Prop where
  widths : ∀ side, whole.borders.width? side = (upper.borders.width? side).or (lower.borders.width? side)
  keys : whole.constraints.keys =
    lower.constraints.keys ++ upper.constraints.keys.filter (· ∉ lower.constraints.keys)
  values : ∀ key, whole.constraints.find? key = (upper.constraints.find? key).or (lower.constraints.find? key)
  others : whole.others = lower.others ++ upper.others

theorem mergeLaidOver (lower upper : Layout) : LaidOver lower upper (lower.merge upper) where
  widths := BorderWidths.mergeWidth _ _
  keys := Table.keysOverlay _ _
  values := Table.findOverlay _ _
  others := rfl

theorem mergeAssoc (first second third : Layout) :
    (first.merge second).merge third = first.merge (second.merge third) := by
  simp only [merge, BorderWidths.mergeAssoc, Table.updateUpdate, List.append_assoc]

theorem mergeEmpty (l : Layout) : l.merge empty = l := by
  obtain ⟨borders, constraints, others⟩ := l
  have nothing : constraints.update (∅ : Constraints).entries = constraints := rfl
  simp only [merge, empty, BorderWidths.mergeEmpty, nothing, List.append_nil]

theorem emptyMerge (l : Layout) : empty.merge l = l := by
  obtain ⟨borders, constraints, others⟩ := l
  simp only [merge, empty, BorderWidths.emptyMerge, Table.emptyUpdate, List.nil_append]

theorem mergeAdd (first second : Layout) (u : Utility) : (first.merge second).add u = first.merge (second.add u) := by
  cases u with
  | border sides width => simp only [add, merge, BorderWidths.mergeSet]
  | constraint key value => simp only [add, merge, Table.updateInsert]
  | _ => simp only [add, merge, List.append_assoc]

theorem mergeRun (first second : Layout) (utilities : List Utility) :
    utilities.foldl add (first.merge second) = first.merge (utilities.foldl add second) := by
  induction utilities generalizing second with
  | nil => rfl
  | cons u rest ih => rw [List.foldl_cons, List.foldl_cons, mergeAdd, ih]

theorem ofUtilitiesAppend (first second : List Utility) :
    ofUtilities (first ++ second) = (ofUtilities first).merge (ofUtilities second) := by
  calc ofUtilities (first ++ second)
      = second.foldl add (ofUtilities first) := List.foldl_append
    _ = second.foldl add ((ofUtilities first).merge empty) := by rw [mergeEmpty]
    _ = (ofUtilities first).merge (ofUtilities second) := mergeRun _ _ _

end Layout

theorem Text.wordsParted {gap : List Char} (some : gap ≠ []) (blank : AllBlank gap) (before after : List Char) :
    words (before ++ gap ++ after) = words before ++ words after := by
  cases gap with
  | nil => contradiction
  | cons c rest =>
    obtain ⟨first, others⟩ := List.forall_mem_cons.mp blank
    rw [List.append_assoc, List.cons_append, wordsAppend first, wordsGap others]

namespace Theme
open Layout (LaidOver ofUtilities)

theorem convertInParts :
    (∀ lower upper : Layout, LaidOver lower upper (lower.merge upper)) ∧
    (∀ first second third : Layout, (first.merge second).merge third = first.merge (second.merge third)) ∧
    (∀ l : Layout, l.merge .empty = l ∧ Layout.empty.merge l = l) ∧
    (∀ first second, ofUtilities (first ++ second) = (ofUtilities first).merge (ofUtilities second)) ∧
    ∀ (theme : Theme) (before gap after : String), gap ≠ "" → Text.AllBlank gap.toList →
      theme.convert (before ++ gap ++ after) =
        ((ofUtilities (theme.utilities before)).merge (ofUtilities (theme.utilities after))).compose := by
  refine ⟨Layout.mergeLaidOver, Layout.mergeAssoc, fun l => ⟨l.mergeEmpty, l.emptyMerge⟩,
    Layout.ofUtilitiesAppend, ?_⟩
  intro theme before gap after some blank
  have parted : theme.utilities (before ++ gap ++ after) = theme.utilities before ++ theme.utilities after := by
    have filled : gap.toList ≠ [] := fun nothing => some (String.toList_eq_nil_iff.mp nothing)
    simp only [utilities, String.toList_append, Text.wordsParted filled blank, List.filterMap_append]
  rw [convert, parted, Layout.ofUtilitiesAppend]

theorem convertInPartsGap :
    "\u2003\n" ≠ "" ∧ Text.AllBlank "\u2003\n".toList ∧
      builtIn.convert ("border-2 max-w-lg " ++ "\u2003\n" ++ " p-4 border-t max-w-xl") =
        ((ofUtilities (builtIn.utilities "border-2 max-w-lg ")).merge
          (ofUtilities (builtIn.utilities " p-4 border-t max-w-xl"))).compose := by
  have some : "\u2003\n" ≠ "" := by decide
  have blank : Text.AllBlank "\u2003\n".toList :=
    List.forall_mem_cons.mpr ⟨rfl, List.forall_mem_singleton.mpr rfl⟩
  exact ⟨some, blank, convertInParts.2.2.2.2 builtIn _ _ _ some blank⟩

end Theme
end UtilityLayout
