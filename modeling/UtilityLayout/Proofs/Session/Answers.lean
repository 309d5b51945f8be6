import UtilityLayout.Proofs.Json.Printing
import UtilityLayout.Proofs.Layout.Explained
import UtilityLayout.Proofs.Session.Steps

/-! What the tools answer. Every answer is an object that begins with its status. Its text is a JSON text exactly if
all the numbers of a theme or a utility that it tells are finite. -/
namespace UtilityLayout

namespace LayoutValue

def numbers : LayoutValue → List Binary64
  | .number x => [x]
  | .literal _ => []

theorem toJsonStrict (value : LayoutValue) :
    value.toJson.isStrict = true ↔ ∀ x ∈ value.numbers, x.isFinite = true := by
  cases value with
  | number x => simp [toJson, Json.isStrict, numbers]
  | literal text => simp [toJson, Json.isStrict, numbers]

end LayoutValue

namespace Json

theorem itemsStrictAll (items : List Json) :
    itemsStrict items = true ↔ ∀ item ∈ items, item.isStrict = true := by
  induction items with
  | nil => simp [itemsStrict]
  | cons item rest ih => simp [itemsStrict, ih]

theorem membersStrictAll (members : List (Text × Json)) :
    membersStrict members = true ↔ ∀ member ∈ members, member.2.isStrict = true := by
  induction members with
  | nil => simp [membersStrict]
  | cons member rest ih => simp [membersStrict, ih]

end Json

namespace Utility

def numbers : Utility → List Binary64
  | keyword _ => []
  | border _ width => [width]
  | constraint _ value | radius value | other value => value.numbers
  | spacing x => [x]

theorem toJsonStrict (u : Utility) : u.toJson.isStrict = true ↔ ∀ x ∈ u.numbers, x.isFinite = true := by
  cases u with
  | keyword text => simp [toJson, Json.isStrict, Json.membersStrictAll, numbers]
  | border sides width => simp [toJson, Json.isStrict, Json.membersStrictAll, Json.itemsStrictAll, numbers]
  | constraint key value => simp [toJson, Json.isStrict, Json.membersStrictAll, numbers, LayoutValue.toJsonStrict]
  | radius value => simp [toJson, Json.isStrict, Json.membersStrictAll, numbers, LayoutValue.toJsonStrict]
  | spacing x => simp [toJson, Json.isStrict, Json.membersStrictAll, numbers]
  | other value => simp [toJson, Json.isStrict, Json.membersStrictAll, numbers, LayoutValue.toJsonStrict]

end Utility

theorem Reading.toJsonStrict (reading : Reading) :
    reading.toJson.isStrict = true ↔ ∀ u, reading.utility? = some u → ∀ x ∈ u.numbers, x.isFinite = true := by
  cases found : reading.utility? with
  | none => simp [toJson, found, Json.isStrict, Json.membersStrictAll]
  | some u => simp [toJson, found, Json.isStrict, Json.membersStrictAll, Utility.toJsonStrict]

theorem valuesNumbers (values : List LayoutValue) :
    (∀ x ∈ values.flatMap LayoutValue.numbers, x.isFinite = true) ↔
      ∀ value ∈ values, ∀ x ∈ value.numbers, x.isFinite = true := by
  simp only [List.mem_flatMap]
  exact ⟨fun all value inside x told => all x ⟨value, inside, told⟩,
    fun all x ⟨value, inside, told⟩ => all value inside x told⟩

def Theme.numbers (theme : Theme) : List Binary64 :=
  theme.spacingUnit :: (theme.sizes.values ++ theme.radii.values).flatMap LayoutValue.numbers

theorem Theme.toJsonStrict (theme : Theme) :
    theme.toJson.isStrict = true ↔ ∀ x ∈ theme.numbers, x.isFinite = true := by
  rw [toJson, Json.isStrict, Json.membersStrictAll, numbers]
  simp only [List.forall_mem_cons, List.flatMap_append, List.forall_mem_append, valuesNumbers, Table.values,
    Json.isStrict, Json.membersStrictAll, List.forall_mem_map, LayoutValue.toJsonStrict]
  simp

namespace Service
open Json.Grammar

def foundNumbers (found : Except Failure (Option Theme)) (tells : Theme → List Binary64) : List Binary64 :=
  match found with
  | .ok (some theme) => tells theme
  | _ => []

def toldNumbers (w : Workspace) : Request → List Binary64
  | .convert .. | .copyTheme _ => []
  | .explain classes theme? => foundNumbers (w.get (themeName theme?)).1 fun theme =>
      (theme.utilities classes).flatMap Utility.numbers
  | .describeTheme name => foundNumbers (w.get name).1 Theme.numbers
  | .listThemes => match w.list with
    | .ok summaries => summaries.map Theme.Summary.spacingUnit
    | .error _ => []

theorem explanationStrict (readings : List Reading) :
    (explanation readings).isStrict = true ↔
      ∀ x ∈ (readings.filterMap Reading.utility?).flatMap Utility.numbers, x.isFinite = true := by
  have tokens : (Json.array (readings.map Reading.toJson)).isStrict = true ↔
      ∀ x ∈ (readings.filterMap Reading.utility?).flatMap Utility.numbers, x.isFinite = true := by
    rw [Json.isStrict, Json.itemsStrictAll, List.forall_mem_map]
    simp only [Reading.toJsonStrict]
    constructor
    · intro all x told
      obtain ⟨u, member, inside⟩ := List.mem_flatMap.mp told
      obtain ⟨reading, among, tells⟩ := List.mem_filterMap.mp member
      exact all reading among u tells x inside
    · intro all reading among u tells x inside
      exact all x (List.mem_flatMap.mpr ⟨u, List.mem_filterMap.mpr ⟨reading, among, tells⟩, inside⟩)
  rw [explanation, success, Json.isStrict, Json.membersStrictAll]
  simp only [List.forall_mem_cons, tokens]
  simp [Json.isStrict]

theorem conversionStrict (theme : Theme) (composition : Layout.Composition) :
    (conversion theme composition).isStrict = true := by
  simp [conversion, success, Json.isStrict, Json.membersStrictAll, Json.itemsStrictAll]

theorem listingStrict (summaries : List Theme.Summary) :
    (success [("themes", .array (summaries.map Theme.Summary.toJson)), ("count", .int summaries.length)]).isStrict
      = true ↔ ∀ x ∈ summaries.map Theme.Summary.spacingUnit, x.isFinite = true := by
  have each (summary : Theme.Summary) : summary.toJson.isStrict = true ↔ summary.spacingUnit.isFinite = true := by
    simp [Theme.Summary.toJson, Json.isStrict, Json.membersStrictAll]
  have themes : (Json.array (summaries.map Theme.Summary.toJson)).isStrict = true ↔
      ∀ x ∈ summaries.map Theme.Summary.spacingUnit, x.isFinite = true := by
    rw [Json.isStrict, Json.itemsStrictAll, List.forall_mem_map, List.forall_mem_map]
    simp only [each]
  rw [success, Json.isStrict, Json.membersStrictAll]
  simp only [List.forall_mem_cons, themes]
  simp [Json.isStrict]

theorem errorStrict (message : String) : (error message).isStrict = true := rfl

theorem descriptionStrict (theme : Theme) :
    (success [("theme", theme.toJson)]).isStrict = true ↔ ∀ x ∈ theme.numbers, x.isFinite = true := by
  rw [success, Json.isStrict, Json.membersStrictAll]
  simp only [List.forall_mem_cons, Theme.toJsonStrict]
  simp [Json.isStrict]

theorem withThemeStrict (w : Workspace) (name shown : String) {answer : Theme → Json}
    {tells : Theme → List Binary64}
    (each : ∀ theme, (answer theme).isStrict = true ↔ ∀ x ∈ tells theme, x.isFinite = true) :
    (withTheme w name shown answer).1.isStrict = true ↔
      ∀ x ∈ foundNumbers (w.get name).1 tells, x.isFinite = true := by
  rw [Session.withThemeRespond]
  simp only [Session.response.respond, foundNumbers]
  rcases (w.get name).1 with failure | _ | theme
  · exact iff_of_true (errorStrict _) (List.forall_mem_nil _)
  · exact iff_of_true (errorStrict _) (List.forall_mem_nil _)
  · exact each theme

theorem answerStrict (w : Workspace) (request : Request) :
    (answer w request).1.isStrict = true ↔ ∀ x ∈ toldNumbers w request, x.isFinite = true := by
  cases request with
  | convert classes theme? =>
    have nothing : foundNumbers (w.get (themeName theme?)).1 (fun _ => []) = [] := by
      unfold foundNumbers
      split <;> rfl
    have strict := withThemeStrict w (themeName theme?) (shownName theme?) fun theme =>
      iff_of_true (conversionStrict theme (theme.convert classes)) (List.forall_mem_nil _)
    rw [nothing] at strict
    exact strict
  | explain classes theme? =>
    refine withThemeStrict w _ _ fun theme => ?_
    rw [explanationStrict, Theme.explainUtilities]
  | listThemes =>
    simp only [answer, toldNumbers]
    cases w.list with
    | ok summaries => exact listingStrict summaries
    | error failure => exact iff_of_true (errorStrict _) (List.forall_mem_nil _)
  | describeTheme name => exact withThemeStrict w name name descriptionStrict
  | copyTheme name =>
    refine iff_of_true ?_ (List.forall_mem_nil _)
    simp only [answer]
    rcases w.copy name with ⟨failure | _ | path, after⟩ <;> rfl

def toldStatus? (told : List (List Nat × List Char)) : Option (List Char) :=
  told.reverse.lookup (Text.ofString "status").units

def IsAnswer (status : String) (json : Json) : Prop :=
  ∃ others : List (Text × Json), json = .object (("status", .string status) :: others) ∧
    ∀ name ∈ others.map Prod.fst, name.units ≠ (Text.ofString "status").units

theorem errorAnswer (message : String) : IsAnswer "error" (error message) := by
  refine ⟨_, rfl, ?_⟩
  change ∀ name ∈ ([.ofString "message"] : List Text), _
  decide

theorem withThemeAnswer (w : Workspace) (name shown : String) {answer : Theme → Json}
    (each : ∀ theme, IsAnswer "success" (answer theme)) :
    IsAnswer "success" (withTheme w name shown answer).1 ∨
      IsAnswer "error" (withTheme w name shown answer).1 := by
  rw [Session.withThemeRespond]
  simp only [Session.response.respond]
  rcases (w.get name).1 with failure | _ | theme
  · exact .inr (errorAnswer _)
  · exact .inr (errorAnswer _)
  · exact .inl (each theme)

theorem answerStatus (w : Workspace) (request : Request) :
    IsAnswer "success" (answer w request).1 ∨ IsAnswer "error" (answer w request).1 := by
  cases request with
  | convert classes theme? =>
    refine withThemeAnswer w _ _ fun theme => ⟨_, rfl, ?_⟩
    change ∀ name ∈ (["output", "kind", "label", "copyable", "entries", "theme"] : List String).map Text.ofString, _
    decide
  | explain classes theme? =>
    refine withThemeAnswer w _ _ fun theme => ⟨_, rfl, ?_⟩
    change ∀ name ∈ (["tokens", "dropped", "count"] : List String).map Text.ofString, _
    decide
  | listThemes =>
    simp only [answer]
    cases w.list with
    | ok summaries =>
      refine .inl ⟨_, rfl, ?_⟩
      change ∀ name ∈ (["themes", "count"] : List String).map Text.ofString, _
      decide
    | error failure => exact .inr (errorAnswer _)
  | describeTheme name =>
    refine withThemeAnswer w _ _ fun theme => ⟨_, rfl, ?_⟩
    change ∀ name ∈ (["theme"] : List String).map Text.ofString, _
    decide
  | copyTheme name =>
    simp only [answer]
    rcases w.copy name with ⟨failure | _ | path, after⟩
    · exact .inr (errorAnswer _)
    · exact .inr (errorAnswer _)
    · refine .inl ⟨_, rfl, ?_⟩
      change ∀ name ∈ (["message", "path"] : List String).map Text.ofString, _
      decide

theorem answerObject {status : String} {json : Json} (answers : IsAnswer status json)
    (strict : json.isStrict = true) :
    ∃ told, IsObject json.render.toList told ∧ toldStatus? told = some (Json.quote status).toList := by
  obtain ⟨others, rfl, named⟩ := answers
  refine ⟨_, Json.renderObject (List.cons_ne_nil _ _) strict, ?_⟩
  have absent : (Json.toldMembers others).reverse.lookup (Text.ofString "status").units = none := by
    rw [List.lookup_eq_none_iff]
    intro member inside
    obtain ⟨other, among, rfl⟩ := List.mem_map.mp (List.mem_reverse.mp inside)
    have differs := named _ (List.mem_map_of_mem among)
    simpa using Ne.symm differs
  have told : Json.toldMembers (("status", .string status) :: others) =
      ((Text.ofString "status").units, (Json.quote status).toList) :: Json.toldMembers others := by
    simp [Json.toldMembers, Json.render]
  rw [toldStatus?, told, List.reverse_cons, List.lookup_append, absent, Option.none_or,
    List.lookup_cons_self]

theorem replyJson (w : Workspace) (request : Request) :
    IsJson (reply w request).1.toList ↔ (answer w request).1.isStrict = true :=
  Json.renderJson _

theorem replyStrict (w : Workspace) (request : Request) :
    let text := (reply w request).1.toList
    (IsJson text ↔ ∀ x ∈ toldNumbers w request, x.isFinite = true) ∧
    ((∀ x ∈ toldNumbers w request, x.isFinite = true) ↔ ∃ told, IsObject text told ∧
      (toldStatus? told = some "\"success\"".toList ∨ toldStatus? told = some "\"error\"".toList)) := by
  intro text
  have whole : IsJson text ↔ ∀ x ∈ toldNumbers w request, x.isFinite = true :=
    (replyJson w request).trans (answerStrict w request)
  refine ⟨whole, fun finite => ?_, fun ⟨told, object, _⟩ => whole.mp (objectJson object)⟩
  have strict := (answerStrict w request).mpr finite
  rcases answerStatus w request with success | error
  · obtain ⟨told, object, status⟩ := answerObject success strict
    exact ⟨told, object, .inl status⟩
  · obtain ⟨told, object, status⟩ := answerObject error strict
    exact ⟨told, object, .inr status⟩

theorem replyNotStrict :
    let files : FileTree := ⟨.ofList [(["lib"], .directory), (["lib", "t.yaml"], .file "")], []⟩
    let w : Workspace := ⟨files, .fresh ⟨.root, ["lib"]⟩ none⟩
    ¬IsJson (reply w (.explain "p-1e999" (some "t"))).1.toList := by
  intro files w json
  have loose : (answer w (.explain "p-1e999" (some "t"))).1.isStrict = false := by decide +kernel
  exact Bool.noConfusion (((replyJson w _).mp json).symm.trans loose)

end Service

end UtilityLayout
