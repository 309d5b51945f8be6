import UtilityLayout.Datum.Field
import UtilityLayout.Theme.Basic
/-! Themes read from data, in two ways. A record gives its tables in full. A theme file is laid over the
built-in tables: an entry replaces the built-in one of the same name or comes after all of them. -/
namespace UtilityLayout

inductive ThemeError where
  | noMember (kind member : String)
  | notMapping (kind : String)
  | longName
  | invalid
  deriving DecidableEq, Repr

namespace ThemeError

def message? : ThemeError → Option String
  | noMember kind member => some ("'" ++ kind ++ "' object has no attribute '" ++ member ++ "'")
  | notMapping kind => some ("'" ++ kind ++ "' object is not a mapping")
  | longName => some (WholeError.limitText ++ WholeError.limitAdvice)
  | invalid => none

end ThemeError

namespace Theme

def ofRecord? (datum : Datum) : Option Theme := do
  let record ← datum.entries?
  let name ← Datum.optional record "name" Datum.text? defaultName
  let description ← Datum.optional record "description" Datum.text? ""
  let spacingUnit ← Datum.optional record "spacing_unit" Datum.number? defaultSpacingUnit
  let keywords ← Datum.optional record "keywords" (Datum.table? Datum.text?) defaultKeywords
  let sizes ← Datum.optional record "sizes" (Datum.table? Datum.layoutValue?) defaultSizes
  let radii ← Datum.optional record "radii" (Datum.table? Datum.layoutValue?) defaultRadii
  some ⟨name, description, spacingUnit, keywords, sizes, radii⟩

def tableDatum (record : Datum.Entries) (key : String) : Datum :=
  match Datum.find? record key with
  | some datum => if datum.isAbsent then .map [] else datum
  | none => .map []

/- The entries of a table of a record. The mapping that encloses a table is the record. -/
def tableEntries? (record : Datum.Entries) : Datum → Option Datum.Entries
  | .map entries => some entries
  | .enclosing true => some record
  | _ => none

def namedEntries (entries : Datum.Entries) : Except ThemeError Datum.Entries := do
  let named ← entries.mapM fun (key, value) =>
    match key.name? with
    | some name => .ok (Scalar.text name, value)
    | none => .error .longName
  .ok (Datum.collect named)

def layoutDatum : LayoutValue → Datum
  | .number x => .scalar (.float x)
  | .literal t => .text t

def entryDatum (told : α → Datum) (entry : Text × α) : Scalar × Datum :=
  (.text entry.1, told entry.2)

/- Entries of a file over a table. They are laid over it as data, under the keys as they stand in the file; only then
are keys and values read. -/
def overlay? (told : α → Datum) (value? : Datum → Option α) (base : Table Text α) (entries : Datum.Entries) :
    Option (Table Text α) :=
  Datum.table? value? (.map (Datum.putAll (base.entries.map (entryDatum told)) entries))

/- A theme from the content of a theme file. The tables are taken first, in the order keywords, sizes,
radii; only then are the fields read. -/
def ofDocument (datum : Datum) (fileName : Text) : Except ThemeError Theme := do
  let record ← match datum with
    | .map entries => pure entries
    | _ => throw (.noMember datum.kind "get")
  let keywords ← match tableEntries? record (tableDatum record "keywords") with
    | some entries => pure entries
    | none => throw (.notMapping (tableDatum record "keywords").kind)
  let sizes ← named record "sizes"
  let radii ← named record "radii"
  let theme? : Option Theme := do
    let name ← Datum.optional record "name" Datum.text? fileName
    let description ← Datum.optional record "description" Datum.text? ""
    let spacingUnit ← Datum.optional record "spacing_unit" Datum.number? defaultSpacingUnit
    let keywords ← overlay? .text Datum.text? defaultKeywords keywords
    let sizes ← overlay? layoutDatum Datum.layoutValue? defaultSizes sizes
    let radii ← overlay? layoutDatum Datum.layoutValue? defaultRadii radii
    some ⟨name, description, spacingUnit, keywords, sizes, radii⟩
  match theme? with
  | some theme => pure theme
  | none => throw .invalid
where
  named (record : Datum.Entries) (key : String) : Except ThemeError Datum.Entries :=
    match tableEntries? record (tableDatum record key) with
    | some entries => namedEntries entries
    | none => throw (.noMember (tableDatum record key).kind "items")

end Theme
end UtilityLayout
