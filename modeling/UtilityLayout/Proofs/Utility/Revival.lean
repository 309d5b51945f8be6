import UtilityLayout.Utility.Record

/-! Utilities written as records and read back. A text stays a literal even where it spells a number, a number stays
one even where it is not finite, and the names of the sides give the sides. -/
namespace UtilityLayout.Utility

def revived? (u : Utility) : Option Utility :=
  ofDatum? (.ofJson u.toJson)

theorem layoutValueRead (value : LayoutValue) : Datum.layoutValue? (.ofJson value.toJson) = some value := by
  cases value <;> rfl

def keyNamed? (datum : Datum) : Option ConstraintKey := do
  ConstraintKey.ofName? (← (← datum.text?).string?)

theorem keyRead (key : ConstraintKey) : keyNamed? (.ofJson (.string key.name)) = some key := by
  simp only [keyNamed?, Datum.ofJson, Datum.text?, bind, Option.bind, Text.stringOfString]
  exact ConstraintKey.ofName key

def sideNamed? (datum : Datum) : Option Side := do
  Side.ofName? (← (← datum.text?).string?)

theorem sideRead (side : Side) : sideNamed? (.ofJson (.string side.name)) = some side := by
  simp only [sideNamed?, Datum.ofJson, Datum.text?, bind, Option.bind, Text.stringOfString]
  exact Side.ofName side

theorem sidesListed (list : List Side) :
    (Datum.ofItems (list.map fun side => .string side.name)).mapM sideNamed? = some list := by
  induction list with
  | nil => rfl
  | cons side rest ih =>
    rw [List.map_cons, Datum.ofItems, List.mapM_cons, sideRead, ih]
    rfl

theorem sidesRead (sides : SideSet) :
    Datum.sides? (.ofJson (.array (sides.toList.map fun side => .string side.name))) = some sides := by
  have list := sidesListed sides.toList
  change (List.mapM sideNamed? _ >>= fun found => some (SideSet.ofList found)) = some sides
  rw [list]
  exact congrArg some (SideSet.ofToList sides)

theorem revivedSame (u : Utility) : revived? u = some u := by
  cases u with
  | keyword text => rfl
  | border sides width =>
    have fields : revived? (border sides width) =
        border <$> Datum.sides? (.ofJson (.array (sides.toList.map fun side => .string side.name))) <*>
          some width := rfl
    rw [fields, sidesRead]
    rfl
  | constraint key value =>
    have fields : revived? (constraint key value) =
        constraint <$> keyNamed? (.ofJson (.string key.name)) <*>
          Datum.layoutValue? (.ofJson value.toJson) := rfl
    rw [fields, keyRead, layoutValueRead]
    rfl
  | radius value =>
    have fields : revived? (radius value) = radius <$> Datum.layoutValue? (.ofJson value.toJson) := rfl
    rw [fields, layoutValueRead]
    rfl
  | spacing value => rfl
  | other value =>
    have fields : revived? (other value) = other <$> Datum.layoutValue? (.ofJson value.toJson) := rfl
    rw [fields, layoutValueRead]
    rfl

theorem revivedAll (utilities : List Utility) : utilities.mapM revived? = some utilities := by
  induction utilities with
  | nil => rfl
  | cons u rest ih =>
    rw [List.mapM_cons, revivedSame, ih]
    rfl

end UtilityLayout.Utility
