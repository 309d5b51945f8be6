import UtilityLayout.Json.Printer
import UtilityLayout.Layout.Composition
import UtilityLayout.Store.Workspace
import UtilityLayout.Utility.Record
/-! The tools of the server. Each answers with one JSON text whose member `status` tells success or error; a
failure below becomes an error with its message. -/
namespace UtilityLayout

def Theme.Summary.toJson (s : Theme.Summary) : Json := .object [
  ("name", .string s.name),
  ("description", .string s.description),
  ("spacing_unit", .float s.spacingUnit),
  ("keyword_count", .int s.keywordCount),
  ("size_count", .int s.sizeCount),
  ("radius_count", .int s.radiusCount)]

def Theme.toJson (t : Theme) : Json := .object [
  ("name", .string t.name),
  ("description", .string t.description),
  ("spacing_unit", .float t.spacingUnit),
  ("keywords", .object (t.keywords.entries.map fun (key, text) => (key, .string text))),
  ("sizes", .object (t.sizes.entries.map fun (key, value) => (key, value.toJson))),
  ("radii", .object (t.radii.entries.map fun (key, value) => (key, value.toJson)))]

def Reading.toJson (r : Reading) : Json := .object [
  ("token", .string r.written),
  ("dropped", .bool r.utility?.isNone),
  ("parsed", match r.utility? with
    | some utility => utility.toJson
    | none => .null)]

namespace Service

inductive Request where
  | convert (classes : String) (theme? : Option String)
  | explain (classes : String) (theme? : Option String)
  | listThemes
  | describeTheme (name : String)
  | copyTheme (name : String)
  deriving DecidableEq, Repr

def toolNames : List String := [
  "tailwind_convert",
  "tailwind_explain",
  "tailwind_list_themes",
  "tailwind_describe_theme",
  "tailwind_copy_theme_to_project"]

namespace Request

def text? (arguments : Json) (name : String) : Option String :=
  match arguments.member? name with
  | some (.string t) => t.string?
  | _ => none

def ofTool? (tool : String) (arguments : Json) : Option Request :=
  match tool with
  | "tailwind_convert" =>
    (text? arguments "classes").map fun classes => convert classes (text? arguments "theme")
  | "tailwind_explain" =>
    (text? arguments "classes").map fun classes => explain classes (text? arguments "theme")
  | "tailwind_list_themes" => some listThemes
  | "tailwind_describe_theme" => describeTheme <$> text? arguments "name"
  | "tailwind_copy_theme_to_project" => copyTheme <$> text? arguments "name"
  | _ => none

def ofCall? (call : Json) : Option Request := do
  ofTool? (← text? call "tool") ((call.member? "args").getD (.object []))

end Request

def success (members : List (Text × Json)) : Json :=
  .object (("status", .string "success") :: members)

def error (message : String) : Json :=
  .object [("status", .string "error"), ("message", .string message)]

def notFound (name : String) : Json :=
  error ("Theme '" ++ name ++ "' not found.")

def themeName (theme? : Option String) : String :=
  match theme? with
  | none => Theme.defaultName
  | some name => if name.isEmpty then Theme.defaultName else name

def shownName (theme? : Option String) : String :=
  theme?.getD "None"

def conversion (theme : Theme) (c : Layout.Composition) : Json := success [
  ("output", .string c.text),
  ("kind", .string c.shape.name),
  ("label", .string c.shape.label),
  ("copyable", .bool c.shape.copyable),
  ("entries", .array (c.entries.map .string)),
  ("theme", .string theme.name)]

def explanation (readings : List Reading) : Json := success [
  ("tokens", .array (readings.map Reading.toJson)),
  ("dropped", .int (readings.countP fun r => r.utility?.isNone)),
  ("count", .int readings.length)]

def withTheme (w : Workspace) (name shown : String) (answer : Theme → Json) : Json × Workspace :=
  let (found, w) := w.get name
  match found with
  | .ok (some theme) => (answer theme, w)
  | .ok none => (notFound shown, w)
  | .error failure => (error failure.message, w)

def answer (w : Workspace) : Request → Json × Workspace
  | .convert classes theme? =>
    withTheme w (themeName theme?) (shownName theme?) fun theme =>
      conversion theme (theme.convert classes)
  | .explain classes theme? =>
    withTheme w (themeName theme?) (shownName theme?) fun theme => explanation (theme.explain classes)
  | .listThemes =>
    match w.list with
    | .ok summaries => (success [
        ("themes", .array (summaries.map Theme.Summary.toJson)),
        ("count", .int summaries.length)], w)
    | .error failure => (error failure.message, w)
  | .describeTheme name =>
    withTheme w name name fun theme => success [("theme", theme.toJson)]
  | .copyTheme name =>
    let (copied, w) := w.copy name
    match copied with
    | .ok (some path) => (success [
        ("message", .string ("Copied theme '" ++ name ++ "' to project.")),
        ("path", .string path.text)], w)
    | .ok none => (notFound name, w)
    | .error failure => (error failure.message, w)

def reply (w : Workspace) (request : Request) : String × Workspace :=
  let (json, w) := answer w request
  (json.render, w)

end Service
end UtilityLayout
