import UtilityLayout.Layout.Composition
import UtilityLayout.Proofs.Updates
import UtilityLayout.Proofs.Utility.BorderWidth

/-! A layout told without running through its utilities. Per side and per key the last word counts, keys stand
in the order of their first use, and all other expressions stay in order. Adding the utilities up one by one
gives the same layout, and so the same text. -/
namespace UtilityLayout.Declared

def widthOn? (side : Side) : Utility → Option Binary64
  | .border sides width => if sides.contains side then some width else none
  | _ => none

def key? : Utility → Option ConstraintKey
  | .constraint key _ => some key
  | _ => none

def valueFor? (key : ConstraintKey) : Utility → Option LayoutValue
  | .constraint other value => if other = key then some value else none
  | _ => none

def expression? : Utility → Option Text
  | .keyword text => some text
  | .radius value | .other value => some (Expression.value value)
  | .spacing x => some (.ofString (Expression.number x))
  | .border .. | .constraint .. => none

def last? (tells : Utility → Option α) (utilities : List Utility) : Option α :=
  (utilities.filterMap tells).getLast?

def width? (utilities : List Utility) (side : Side) : Option Binary64 :=
  last? (widthOn? side) utilities

def value? (utilities : List Utility) (key : ConstraintKey) : Option LayoutValue :=
  last? (valueFor? key) utilities

def keys (utilities : List Utility) : List ConstraintKey :=
  (utilities.filterMap key?).eraseDups

def arguments (utilities : List Utility) : List Text :=
  (keys utilities).filterMap fun key => (value? utilities key).map fun value =>
    Text.ofString (key.name ++ ": ") ++ Expression.value value

def constraints? (utilities : List Utility) : Option Text :=
  match arguments utilities with
  | [] => none
  | arguments => some
    (Text.ofString "BoxConstraints(" ++ Text.intercalate ", " arguments ++ Text.ofString ")")

def AllEqual (widths : List Binary64) : Prop :=
  ∀ v ∈ widths, ∀ w ∈ widths, v.equals w = true

instance (widths : List Binary64) : Decidable (AllEqual widths) := by
  unfold AllEqual; infer_instance

def sides (width? : Side → Option Binary64) : List (Side × Binary64) :=
  Side.all.filterMap fun side => (width? side).map (side, ·)

def border? (width? : Side → Option Binary64) : Option String :=
  match sides width? with
  | [] => none
  | set@((_, width) :: _) =>
    if set.length = Side.all.length ∧ AllEqual (set.map Prod.snd) then
      some ("Border.all(width: " ++ Expression.number width ++ ")")
    else
      let arguments := set.map fun (side, width) =>
        side.name ++ ": " ++ ("BorderSide(width: " ++ Expression.number width ++ ")")
      some ("Border(" ++ ", ".intercalate arguments ++ ")")

def entries (utilities : List Utility) : List Text :=
  (constraints? utilities).toList ++ ((border? (width? utilities)).map Text.ofString).toList ++
    utilities.filterMap expression?

def shape : Nat → Layout.Shape
  | 0 => .empty
  | 1 => .single
  | _ => .aggregate

def text : List Text → Text
  | [] => "0.0"
  | [entry] => entry
  | entries => Text.ofString "[" ++ Text.intercalate ", " entries ++ Text.ofString "]"

def composition (utilities : List Utility) : Layout.Composition :=
  let entries := entries utilities
  ⟨text entries, shape entries.length, entries⟩

theorem lastCons {α : Type} (tells : Utility → Option α) (u : Utility) (rest : List Utility) :
    last? tells (u :: rest) = (last? tells rest).or (tells u) := by
  simp only [last?, List.filterMap_cons]
  cases tells u with
  | none => simp
  | some word => rw [List.getLast?_cons]; cases (rest.filterMap tells).getLast? <;> rfl

theorem widthAdd (l : Layout) (u : Utility) (side : Side) :
    (l.add u).borders.width? side = (widthOn? side u).or (l.borders.width? side) := by
  cases u with
  | border sides width =>
    simp only [Layout.add, widthOn?, BorderWidths.widthSet]
    split <;> rfl
  | _ => rfl

theorem widthRun (l : Layout) (utilities : List Utility) (side : Side) :
    (utilities.foldl Layout.add l).borders.width? side =
      (width? utilities side).or (l.borders.width? side) := by
  induction utilities generalizing l with
  | nil => rfl
  | cons u rest ih =>
    simp only [List.foldl_cons, width?, lastCons, Option.or_assoc, ← widthAdd]
    exact ih (l.add u)

theorem valueAdd (l : Layout) (u : Utility) (key : ConstraintKey) :
    (l.add u).constraints.find? key = (valueFor? key u).or (l.constraints.find? key) := by
  cases u with
  | constraint other value =>
    simp only [Layout.add, valueFor?, Table.findInsert]
    by_cases same : other = key
    · simp [same]
    · simp [same, Ne.symm same]
  | _ => rfl

theorem valueRun (l : Layout) (utilities : List Utility) (key : ConstraintKey) :
    (utilities.foldl Layout.add l).constraints.find? key =
      (value? utilities key).or (l.constraints.find? key) := by
  induction utilities generalizing l with
  | nil => rfl
  | cons u rest ih =>
    simp only [List.foldl_cons, value?, lastCons, Option.or_assoc, ← valueAdd]
    exact ih (l.add u)

theorem keysAdd (l : Layout) (u : Utility) :
    (l.add u).constraints.keys = match key? u with
      | none => l.constraints.keys
      | some key =>
        if key ∈ l.constraints.keys then l.constraints.keys else l.constraints.keys ++ [key] := by
  cases u with
  | constraint key value => exact Table.insertKeys l.constraints key value
  | _ => rfl

theorem keysRun (l : Layout) (utilities : List Utility) :
    (utilities.foldl Layout.add l).constraints.keys =
      (l.constraints.keys ++ utilities.filterMap key?).eraseDups := by
  induction utilities generalizing l with
  | nil =>
    rw [List.filterMap_nil, List.append_nil]
    exact (eraseDupsNodup l.constraints.distinct).symm
  | cons u rest ih =>
    rw [List.foldl_cons, ih, keysAdd, List.filterMap_cons]
    cases key? u with
    | none => rfl
    | some key =>
      dsimp only
      split
      · rename_i inside
        rw [List.eraseDups_append, List.eraseDups_append]
        simp [List.removeAll, inside]
      · rw [List.append_assoc, List.singleton_append]

theorem othersAdd (l : Layout) (u : Utility) :
    (l.add u).others = l.others ++ (expression? u).toList := by
  cases u <;> simp [Layout.add, expression?]

theorem othersRun (l : Layout) (utilities : List Utility) :
    (utilities.foldl Layout.add l).others = l.others ++ utilities.filterMap expression? := by
  induction utilities generalizing l with
  | nil => simp
  | cons u rest ih =>
    rw [List.foldl_cons, ih, othersAdd, List.append_assoc, List.filterMap_cons]
    cases expression? u <;> rfl

theorem keysOfUtilities (utilities : List Utility) :
    (Layout.ofUtilities utilities).constraints.keys = keys utilities := by
  rw [Layout.ofUtilities, keysRun]
  rfl

theorem valueOfUtilities (utilities : List Utility) (key : ConstraintKey) :
    (Layout.ofUtilities utilities).constraints.find? key = value? utilities key := by
  rw [Layout.ofUtilities, valueRun]
  exact Option.or_none

theorem widthOfUtilities (utilities : List Utility) (side : Side) :
    (Layout.ofUtilities utilities).borders.width? side = width? utilities side := by
  rw [Layout.ofUtilities, widthRun]
  cases side <;> exact Option.or_none

theorem keysNodup (utilities : List Utility) : (keys utilities).Nodup := by
  rw [← keysOfUtilities]
  exact (Layout.ofUtilities utilities).constraints.distinct

theorem keyHasValue {utilities : List Utility} {key : ConstraintKey} (used : key ∈ keys utilities) :
    ∃ value, value? utilities key = some value := by
  rw [← keysOfUtilities] at used
  obtain ⟨⟨_, value⟩, member, rfl⟩ := List.mem_map.mp used
  exact ⟨value, valueOfUtilities utilities _ ▸ Table.findMember _ member⟩

theorem othersOfUtilities (utilities : List Utility) :
    (Layout.ofUtilities utilities).others = utilities.filterMap expression? := by
  rw [Layout.ofUtilities, othersRun]
  rfl

theorem argumentsOfUtilities (utilities : List Utility) :
    (Layout.ofUtilities utilities).constraints.entries.map Constraints.argument =
      arguments utilities := by
  rw [Table.entriesOfFind, keysOfUtilities, List.map_filterMap]
  simp only [valueOfUtilities, Option.map_map]
  rfl

theorem constraintsOfUtilities (utilities : List Utility) :
    Constraints.text? (Layout.ofUtilities utilities).constraints = constraints? utilities := by
  have same := argumentsOfUtilities utilities
  unfold Constraints.text? Table.isEmpty constraints?
  rw [← same]
  cases (Layout.ofUtilities utilities).constraints.entries with
  | nil => rfl
  | cons entry rest => rfl

theorem allEqualOfFirst {first : Binary64} {others : List Binary64}
    (self : first.equals first = true) (same : ∀ w ∈ others, first.equals w = true) :
    AllEqual (first :: others) := by
  have fromFirst : ∀ w ∈ first :: others, first.equals w = true := by
    intro w member
    rcases List.mem_cons.mp member with rfl | member
    · exact self
    · exact same w member
  intro v hv w hw
  exact Binary64.equalsTrans (Binary64.equalsSymm (fromFirst v hv)) (fromFirst w hw)

theorem uniformOfWidths {t r b l : Binary64} (self : t.equals t = true) :
    BorderWidths.uniform? (.each (some t) (some r) (some b) (some l)) =
      if AllEqual [t, r, b, l] then some t else none := by
  have reduce : (t.equals r && t.equals b && t.equals l) = true ↔ AllEqual [t, r, b, l] := by
    constructor
    · intro h
      simp only [Bool.and_eq_true] at h
      exact allEqualOfFirst self (by simp [h])
    · intro h
      simp [h t (by simp) r (by simp), h t (by simp) b (by simp), h t (by simp) l (by simp)]
  simp only [BorderWidths.uniform?]
  by_cases equal : AllEqual [t, r, b, l]
  · rw [if_pos equal, if_pos (reduce.mpr equal)]
  · rw [if_neg equal, if_neg fun h => equal (reduce.mp h)]

theorem borderOfWidths (b : BorderWidths)
    (self : ∀ side w, b.width? side = some w → w.equals w = true) :
    b.text? = border? b.width? := by
  cases b with
  | joint w =>
    have equal : AllEqual [w, w, w, w] := by
      have h := self .top w rfl
      exact allEqualOfFirst h (by simp [h])
    simp [BorderWidths.text?, BorderWidths.isEmpty, BorderWidths.resolved, border?, sides, Side.all,
      BorderWidths.width?, BorderWidths.uniform?, equal]
  | each t r b l =>
    -- Only four set sides can agree; with fewer both texts list what is set.
    cases t <;> cases r <;> cases b <;> cases l
    case some.some.some.some t r b l =>
      have uniform := uniformOfWidths (r := r) (b := b) (l := l) (self .top t rfl)
      rw [BorderWidths.text?, uniform]
      by_cases equal : AllEqual [t, r, b, l]
      · rw [if_pos equal]
        exact (if_pos ⟨rfl, equal⟩).symm
      · rw [if_neg equal]
        exact (if_neg fun h => equal h.2).symm
    all_goals rfl

theorem widthOfMember {utilities : List Utility} {side : Side} {width : Binary64}
    (found : width? utilities side = some width) :
    ∃ sides, Utility.border sides width ∈ utilities := by
  obtain ⟨u, member, tells⟩ := List.mem_filterMap.mp (List.mem_of_getLast? found)
  cases u with
  | border sides other =>
    simp only [widthOn?] at tells
    split at tells
    · cases tells
      exact ⟨sides, member⟩
    · contradiction
  | _ => contradiction

theorem entriesOfUtilities (utilities : List Utility)
    (self : ∀ sides width, Utility.border sides width ∈ utilities → width.equals width = true) :
    (Layout.ofUtilities utilities).entries = entries utilities := by
  have same : (Layout.ofUtilities utilities).borders.width? = width? utilities :=
    funext (widthOfUtilities utilities)
  have border : (Layout.ofUtilities utilities).borders.text? = border? (width? utilities) := by
    rw [borderOfWidths, same]
    intro side w found
    rw [widthOfUtilities] at found
    obtain ⟨sides, member⟩ := widthOfMember found
    exact self sides w member
  rw [Layout.entries, constraintsOfUtilities, border, othersOfUtilities, entries]

theorem compositionOfEntries (all : List Text) :
    Layout.Composition.ofEntries all = ⟨text all, shape all.length, all⟩ := by
  match all with
  | [] => rfl
  | [_] => rfl
  | _ :: _ :: _ => rfl

theorem convertLastWins (theme : Theme) (classes : String) :
    let utilities := (Text.words classes.toList).filterMap (Utility.read? theme)
    theme.convert classes = composition utilities ∧
      (keys utilities).Nodup ∧ ∀ key ∈ keys utilities, ∃ value, value? utilities key = some value := by
  intro utilities
  have self : ∀ sides width, Utility.border sides width ∈ utilities →
      width.equals width = true := by
    intro sides width member
    obtain ⟨word, _, read⟩ := List.mem_filterMap.mp member
    exact Binary64.equalsSelf (Utility.borderReadNotNan read)
  refine ⟨?_, keysNodup utilities, fun key used => keyHasValue used⟩
  calc theme.convert classes
      = .ofEntries (Layout.ofUtilities utilities).entries := rfl
    _ = .ofEntries (entries utilities) := by rw [entriesOfUtilities utilities self]
    _ = composition utilities := compositionOfEntries _

end UtilityLayout.Declared
