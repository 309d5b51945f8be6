import UtilityLayout.Proofs.Theme.Tables
import UtilityLayout.Service

/-! Themes written as data and loaded again. The built-in tables are laid under them once more, which changes nothing
where they are in front already; and they are in front in every theme that was loaded. -/
namespace UtilityLayout.Theme

variable {α : Type}

def written (theme : Theme) : Datum :=
  .ofJson theme.toJson

structure Extends (theme : Theme) : Prop where
  keywords : defaultKeywords.keys <+: theme.keywords.keys
  sizes : defaultSizes.keys <+: theme.sizes.keys
  radii : defaultRadii.keys <+: theme.radii.keys

def onBuiltIn (theme : Theme) : Theme :=
  { theme with
    keywords := defaultKeywords.update theme.keywords.entries
    sizes := defaultSizes.update theme.sizes.entries
    radii := defaultRadii.update theme.radii.entries }

theorem onBuiltInSame {theme : Theme} : theme.onBuiltIn = theme ↔ Extends theme := by
  obtain ⟨name, description, spacingUnit, keywords, sizes, radii⟩ := theme
  simp only [onBuiltIn, mk.injEq, true_and, Table.updateSame]
  constructor
  · rintro ⟨keywords, sizes, radii⟩
    exact ⟨keywords, sizes, radii⟩
  · intro extended
    exact ⟨extended.keywords, extended.sizes, extended.radii⟩

theorem collectTold (told : α → Datum) (table : Table Text α) :
    Datum.collect (table.entries.map (entryDatum told)) = table.entries.map (entryDatum told) := by
  have laid := putAllTold told ∅ table.entries
  rwa [Table.emptyUpdate] at laid

theorem membersTold {write : α → Json} {told : α → Datum} (same : ∀ value, Datum.ofJson (write value) = told value)
    (list : List (Text × α)) :
    Datum.ofMembers (list.map fun entry => (entry.1, write entry.2)) = list.map (entryDatum told) := by
  induction list with
  | nil => rfl
  | cons entry rest ih => rw [List.map_cons, Datum.ofMembers, ih, same, List.map_cons, entryDatum]

theorem tableWritten {write : α → Json} {told : α → Datum} (same : ∀ value, Datum.ofJson (write value) = told value)
    (table : Table Text α) :
    Datum.ofJson (.object (table.entries.map fun entry => (entry.1, write entry.2))) =
      .map (table.entries.map (entryDatum told)) := by
  rw [Datum.ofJson, membersTold same, collectTold]

theorem layoutWritten (value : LayoutValue) : Datum.ofJson value.toJson = layoutDatum value := by
  cases value <;> rfl

def fieldNames : List Text := ["name", "description", "spacing_unit", "keywords", "sizes", "radii"]

def fields (theme : Theme) : Table Text Datum where
  entries := [
    ("name", .text theme.name),
    ("description", .text theme.description),
    ("spacing_unit", .scalar (.float theme.spacingUnit)),
    ("keywords", .map (theme.keywords.entries.map (entryDatum .text))),
    ("sizes", .map (theme.sizes.entries.map (entryDatum layoutDatum))),
    ("radii", .map (theme.radii.entries.map (entryDatum layoutDatum)))]
  distinct := by
    change fieldNames.Nodup
    decide

def record (theme : Theme) : Datum.Entries :=
  theme.fields.entries.map (entryDatum id)

theorem writtenRecord (theme : Theme) : theme.written = .map theme.record := by
  have keywords := @tableWritten _ Json.string .text (fun _ => rfl) theme.keywords
  have sizes := tableWritten layoutWritten theme.sizes
  have radii := tableWritten layoutWritten theme.radii
  have members : theme.written = .map (Datum.collect [
      (.text "name", .text theme.name),
      (.text "description", .text theme.description),
      (.text "spacing_unit", .scalar (.float theme.spacingUnit)),
      (.text "keywords", .ofJson (.object (theme.keywords.entries.map fun entry => (entry.1, .string entry.2)))),
      (.text "sizes", .ofJson (.object (theme.sizes.entries.map fun entry => (entry.1, entry.2.toJson)))),
      (.text "radii", .ofJson (.object (theme.radii.entries.map fun entry => (entry.1, entry.2.toJson))))]) := by
    simp only [written, toJson, Datum.ofJson, Datum.ofMembers]
  rw [members, keywords, sizes, radii]
  exact congrArg Datum.map (collectTold id theme.fields)

theorem tableGiven {record : Datum.Entries} {key : String} {entries : Datum.Entries}
    (given : Datum.find? record key = some (.map entries)) :
    tableEntries? record (tableDatum record key) = some entries := by
  unfold tableDatum
  rw [given]
  cases entries <;> rfl

theorem namedTold (told : α → Datum) (table : Table Text α) :
    namedEntries (table.entries.map (entryDatum told)) = .ok (table.entries.map (entryDatum told)) := by
  have each (list : List (Text × α)) :
      (list.map (entryDatum told)).mapM nameEntry = .ok (list.map (entryDatum told)) := by
    induction list with
    | nil => rfl
    | cons entry rest ih =>
      rw [List.map_cons, List.mapM_cons, ih]
      rfl
  rw [namedEntriesMap, each]
  exact congrArg Except.ok (collectTold told table)

theorem namedGiven {record : Datum.Entries} {key : String} {table : Table Text LayoutValue}
    (given : Datum.find? record key = some (.map (table.entries.map (entryDatum layoutDatum)))) :
    ofDocument.named record key = .ok (table.entries.map (entryDatum layoutDatum)) := by
  rw [ofDocument.named, tableGiven given]
  exact namedTold layoutDatum table

theorem writtenLoads (theme : Theme) (fileName : Text) : ofDocument theme.written fileName = .ok theme.onBuiltIn := by
  rw [writtenRecord, ofDocumentOk]
  exact {
    name := rfl
    description := rfl
    spacingUnit := rfl
    keywords := ⟨_, tableGiven rfl, overlayTold textRead _ _⟩
    sizes := ⟨_, namedGiven rfl, overlayTold layoutRead _ _⟩
    radii := ⟨_, namedGiven rfl, overlayTold layoutRead _ _⟩ }

theorem loadedExtends {datum : Datum} {fileName : Text} {theme : Theme}
    (loads : ofDocument datum fileName = .ok theme) : Extends theme := by
  cases datum with
  | map record =>
    obtain ⟨_, _, _, ⟨_, _, keywords⟩, ⟨_, namedSizes, sizes⟩, ⟨_, namedRadii, radii⟩⟩ := ofDocumentOk.mp loads
    exact ⟨laidFront (overlayOrdered textRead keywords), (namedFromFile namedSizes sizes).front,
      (namedFromFile namedRadii radii).front⟩
  | _ => cases loads

/- What a theme file makes is what its own fields make again, whatever the file is called; and a theme in which a
built-in name is missing or out of place is made by no file. -/
theorem loadedReloads (theme : Theme) :
    (∀ datum fileName, ofDocument datum fileName = .ok theme →
      ∀ other, ofDocument theme.written other = .ok theme ∧
        (ofDocument theme.written other).map summary = .ok theme.summary) ∧
    ((∃ datum fileName, ofDocument datum fileName = .ok theme) ↔ Extends theme) := by
  have again (extended : Extends theme) (other : Text) : ofDocument theme.written other = .ok theme := by
    rw [writtenLoads, onBuiltInSame.mpr extended]
  refine ⟨fun datum fileName loads other => ?_, ?_, ?_⟩
  · have same := again (loadedExtends loads) other
    exact ⟨same, by rw [same]; rfl⟩
  · rintro ⟨datum, fileName, loads⟩
    exact loadedExtends loads
  · intro extended
    exact ⟨theme.written, "", again extended ""⟩

def namelessRecord : Datum.Entries :=
  [(.text "spacing_unit", .scalar (.float .nan)), (.text "sizes", .map [(.int 1, .text "2.5")])]

def namelessTheme : Theme :=
  { builtIn with name := "t", spacingUnit := .nan, sizes := defaultSizes.update [("1", .literal "2.5")] }

theorem loadedReloadsNameless :
    ofDocument (.map namelessRecord) "t" = .ok namelessTheme ∧
      ∀ other, ofDocument namelessTheme.written other = .ok namelessTheme ∧
        (ofDocument namelessTheme.written other).map summary = .ok namelessTheme.summary := by
  have loads : ofDocument (.map namelessRecord) "t" = .ok namelessTheme := okOfOption (by decide +kernel)
  exact ⟨loads, (loadedReloads namelessTheme).1 _ _ loads⟩

end UtilityLayout.Theme
