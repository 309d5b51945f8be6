import UtilityLayout.Proofs.Theme.Defects
import UtilityLayout.Proofs.Theme.Putting

/-! The tables of a theme file, laid over the built-in ones. Built-in names stay in front and in their order, new ones
follow in the order of their first use, and under each name stands what the last entry of that name says. Names of
sizes and radii are made from the keys before the tables are laid over one another, names of keywords only after. -/
namespace UtilityLayout.Theme

variable {α : Type}

structure Laid (name? : Scalar → Option Text) (value? : Datum → Option α) (base : Table Text α)
    (entries : Datum.Entries) (table : Table Text α) : Prop where
  named : ∀ entry ∈ entries, name? entry.1 ≠ none
  keys : table.keys = base.keys ++ ((namesOf name? entries).filter (· ∉ base.keys)).eraseDups
  replaced : ∀ name datum, lastOf? name? entries name = some datum →
    ∃ value, value? datum = some value ∧ table.find? name = some value
  kept : ∀ name, lastOf? name? entries name = none → table.find? name = base.find? name

theorem laidOfGathered {name? : Scalar → Option Text} (texts : ∀ name, name? (.text name) = some name)
    {told : α → Datum} {value? : Datum → Option α} (readBack : ∀ value, value? (told value) = some value)
    {base table : Table Text α} {entries : Datum.Entries}
    (gathered : Gathered name? value? (base.entries.map (entryDatum told) ++ entries) table) :
    Laid name? value? base entries table := by
  have last (name : Text) : lastOf? name? (base.entries.map (entryDatum told) ++ entries) name =
      (lastOf? name? entries name).or ((base.find? name).map told) := by
    rw [lastOfAppend, lastOfTexts texts, Table.lastEntry]
  constructor
  · exact (List.forall_mem_append.mp gathered.named).2
  · rw [gathered.keys, namesOfAppend, namesOfTexts texts]
    exact eraseDupsAfter base.distinct _
  · intro name datum found
    exact gathered.found name datum (by rw [last, found]; rfl)
  · intro name none
    have only := last name
    rw [none, Option.none_or] at only
    cases old : base.find? name with
    | none =>
      rw [old] at only
      exact gathered.missing name only
    | some value =>
      rw [old] at only
      obtain ⟨other, reads, found⟩ := gathered.found name _ only
      rw [readBack] at reads
      cases reads
      exact found

theorem laidFront {name? : Scalar → Option Text} {value? : Datum → Option α} {base table : Table Text α}
    {entries : Datum.Entries} (laid : Laid name? value? base entries table) : base.keys <+: table.keys :=
  ⟨_, laid.keys.symm⟩

theorem laidNothing {name? : Scalar → Option Text} {value? : Datum → Option α} {base table : Table Text α}
    (laid : Laid name? value? base [] table) : table = base := by
  apply Table.extFind
  · simpa [namesOf] using laid.keys
  · exact fun name => laid.kept name rfl

structure MadeOf (record : Datum.Entries) (fileName : Text) (theme : Theme) : Prop where
  name : Datum.optional record "name" Datum.text? fileName = some theme.name
  description : Datum.optional record "description" Datum.text? "" = some theme.description
  spacingUnit : Datum.optional record "spacing_unit" Datum.number? defaultSpacingUnit = some theme.spacingUnit
  keywords : ∃ entries, tableEntries? record (tableDatum record "keywords") = some entries ∧
    overlay? .text Datum.text? defaultKeywords entries = some theme.keywords
  sizes : ∃ entries, ofDocument.named record "sizes" = .ok entries ∧
    overlay? layoutDatum Datum.layoutValue? defaultSizes entries = some theme.sizes
  radii : ∃ entries, ofDocument.named record "radii" = .ok entries ∧
    overlay? layoutDatum Datum.layoutValue? defaultRadii entries = some theme.radii

theorem ofDocumentOk {record : Datum.Entries} {fileName : Text} {theme : Theme} :
    ofDocument (.map record) fileName = .ok theme ↔ MadeOf record fileName theme := by
  constructor
  · intro loads
    cases given : tableEntries? record (tableDatum record "keywords") with
    | none =>
      simp only [ofDocument, given, pure, Except.pure, okBind] at loads
      cases loads
    | some keywords =>
      simp only [ofDocument, given, pure, Except.pure, okBind] at loads
      obtain ⟨sizes, namedSizes, loads⟩ := bindOk loads
      obtain ⟨radii, namedRadii, loads⟩ := bindOk loads
      split at loads
      · rename_i made
        cases loads
        simp only [Option.bind_eq_bind, Option.bind_eq_some_iff] at made
        obtain ⟨_, name, _, description, _, spacingUnit, _, laidKeywords, _, laidSizes, _, laidRadii, same⟩ := made
        cases same
        exact ⟨name, description, spacingUnit, ⟨keywords, given, laidKeywords⟩, ⟨sizes, namedSizes, laidSizes⟩,
          ⟨radii, namedRadii, laidRadii⟩⟩
      · cases loads
  · rintro ⟨name, description, spacingUnit, ⟨keywords, given, laidKeywords⟩, ⟨sizes, namedSizes, laidSizes⟩,
      ⟨radii, namedRadii, laidRadii⟩⟩
    simp only [ofDocument, given, namedSizes, namedRadii, name, description, spacingUnit, laidKeywords, laidSizes,
      laidRadii, okBind, pure, Except.pure, Option.bind_eq_bind, Option.bind_some]

theorem textRead (t : Text) : Datum.text? (.text t) = some t :=
  rfl

theorem layoutRead (value : LayoutValue) : Datum.layoutValue? (layoutDatum value) = some value := by
  cases value <;> rfl

theorem overlayTold {told : α → Datum} {value? : Datum → Option α}
    (readBack : ∀ value, value? (told value) = some value) (base : Table Text α) (list : List (Text × α)) :
    overlay? told value? base (list.map (entryDatum told)) = some (base.update list) := by
  rw [overlay?, putAllTold, tableTold readBack]

theorem toldData (told : α → Datum) (base : Table Text α) :
    ∃ data : Table Text Datum, base.entries.map (entryDatum told) = data.entries.map (entryDatum id) ∧
      data.keys = base.keys := by
  have keys : (base.entries.map fun entry => (entry.1, told entry.2)).map Prod.fst = base.keys := by
    rw [List.map_map]
    rfl
  let data : Table Text Datum :=
    ⟨base.entries.map fun entry => (entry.1, told entry.2), by rw [keys]; exact base.distinct⟩
  refine ⟨data, ?_, keys⟩
  rw [List.map_map]
  rfl

theorem namedAlike {entries named : Datum.Entries} (names : entries.mapM nameEntry = .ok named) :
    ∃ texts : List (Text × Datum), named = texts.map (entryDatum id) ∧ Alike textOf? Scalar.name? named entries := by
  induction entries generalizing named with
  | nil =>
    cases names
    exact ⟨[], rfl, fun _ => by simp, rfl, fun _ => rfl⟩
  | cons entry rest ih =>
    obtain ⟨first, tail, here, others, rfl⟩ := mapMConsOk names
    obtain ⟨texts, rfl, alike⟩ := ih others
    cases name : entry.1.name? with
    | none => simp [nameEntry, name] at here
    | some text =>
      simp only [nameEntry, name, Except.ok.injEq] at here
      subst here
      have one : Alike textOf? Scalar.name? [(.text text, entry.2)] [entry] := alikeOne entry.2 name.symm
      exact ⟨(text, entry.2) :: texts, rfl, alikeAppend one alike⟩

theorem namedEntriesAlike {entries named : Datum.Entries} (names : namedEntries entries = .ok named) :
    ∃ texts : List (Text × Datum), named = texts.map (entryDatum id) ∧ Alike textOf? Scalar.name? named entries := by
  rw [namedEntriesMap] at names
  obtain ⟨_, each, rfl⟩ := mapOk names
  obtain ⟨texts, rfl, alike⟩ := namedAlike each
  have collected : Datum.collect (texts.map (entryDatum id)) = (Table.ofList texts).entries.map (entryDatum id) :=
    putAllTold id ∅ texts
  refine ⟨_, collected, alikeTrans ?_ alike⟩
  exact putAllAlike (fun _ => rfl) ∅ texts

theorem overlayTexts {other? : Scalar → Option Text} (others : ∀ name, other? (.text name) = some name)
    {told : α → Datum} {value? : Datum → Option α} (readBack : ∀ value, value? (told value) = some value)
    {base table : Table Text α} {texts : List (Text × Datum)} {entries : Datum.Entries}
    (alike : Alike textOf? other? (texts.map (entryDatum id)) entries)
    (lays : overlay? told value? base (texts.map (entryDatum id)) = some table) :
    Laid other? value? base entries table := by
  obtain ⟨data, same, _⟩ := toldData told base
  have gathered := gatheredOfTable lays
  rw [same] at gathered
  refine laidOfGathered others readBack ?_
  rw [same]
  have own (name : Text) : textOf? (.text name) = some name := rfl
  exact gatheredAlike (alikeTrans (putAllAlike own data texts) (alikeAppend (alikeTexts own others _) alike)) gathered

/- The order in which the keywords of a file count: what stands for a built-in name as it is, then the others. -/
def keywordOrder (names : List Text) (entries : Datum.Entries) : Datum.Entries :=
  entries.filter (replaces names) ++ entries.filter fun entry => !replaces names entry

theorem overlayOrdered {told : α → Datum} {value? : Datum → Option α}
    (readBack : ∀ value, value? (told value) = some value) {base table : Table Text α} {entries : Datum.Entries}
    (lays : overlay? told value? base entries = some table) :
    Laid textOf? value? base (entries.filter (replaces base.keys) ++
      Datum.collect (entries.filter fun entry => !replaces base.keys entry)) table := by
  obtain ⟨data, same, keys⟩ := toldData told base
  have texts : AllTexts (entries.filter (replaces base.keys)) := by
    intro entry inside
    have old := (List.mem_filter.mp inside).2
    unfold replaces at old
    split at old
    · rename_i name key
      exact ⟨name, key⟩
    · contradiction
  obtain ⟨list, told⟩ := textEntries texts
  have gathered := gatheredOfTable lays
  have split := putAllSplit data [] entries
  rw [List.append_nil, keys, told] at split
  rw [same, split] at gathered
  refine laidOfGathered (fun _ => rfl) readBack ?_
  rw [same, told, ← List.append_assoc]
  exact gatheredAlike (alikeAppend (putAllAlike (fun _ => rfl) data list) (alikeRefl _)) gathered

theorem overlayDistinct {told : α → Datum} {value? : Datum → Option α}
    (readBack : ∀ value, value? (told value) = some value) {base table : Table Text α} {entries : Datum.Entries}
    (distinct : Datum.Distinct entries) (lays : overlay? told value? base entries = some table) :
    Laid textOf? value? base (keywordOrder base.keys entries) table := by
  have ordered := overlayOrdered readBack lays
  have others : Datum.Distinct ([] ++ entries.filter fun entry => !replaces base.keys entry) := distinct.filter _
  rwa [Datum.collect, putAllApart others] at ordered

def Absent (record : Datum.Entries) (key : String) : Prop :=
  ∀ datum, Datum.find? record key = some datum → datum.isAbsent = true

theorem tableAbsent {record : Datum.Entries} {key : String} (absent : Absent record key) :
    tableEntries? record (tableDatum record key) = some [] := by
  unfold tableDatum
  cases found : Datum.find? record key with
  | none => rfl
  | some datum => simp [absent datum found, tableEntries?]

structure FromFile (record : Datum.Entries) (key : String) (law : Datum.Entries → Prop) (base table : Table Text α) :
    Prop where
  law : ∃ entries, tableEntries? record (tableDatum record key) = some entries ∧ law entries
  front : base.keys <+: table.keys
  absent : Absent record key → table = base

theorem keywordsFromFile {record : Datum.Entries} {key : String} {base table : Table Text Text}
    {entries : Datum.Entries} (given : tableEntries? record (tableDatum record key) = some entries)
    (lays : overlay? .text Datum.text? base entries = some table) :
    FromFile record key (fun entries =>
      (Datum.Distinct entries → Laid textOf? Datum.text? base (keywordOrder base.keys entries) table) ∧
      (AllTexts entries → Laid textOf? Datum.text? base entries table)) base table where
  law := by
    refine ⟨entries, given, fun distinct => overlayDistinct textRead distinct lays, fun texts => ?_⟩
    obtain ⟨list, rfl⟩ := textEntries texts
    exact overlayTexts (fun _ => rfl) textRead (alikeRefl _) lays
  front := laidFront (overlayOrdered textRead lays)
  absent absent := by
    rw [tableAbsent absent] at given
    cases given
    exact laidNothing (overlayOrdered textRead lays)

theorem namedFromFile {record : Datum.Entries} {key : String} {base table : Table Text LayoutValue}
    {named : Datum.Entries} (names : ofDocument.named record key = .ok named)
    (lays : overlay? layoutDatum Datum.layoutValue? base named = some table) :
    FromFile record key (fun entries => Laid Scalar.name? Datum.layoutValue? base entries table) base table := by
  unfold ofDocument.named at names
  split at names
  · rename_i entries given
    obtain ⟨texts, rfl, alike⟩ := namedEntriesAlike names
    have laid := overlayTexts (fun _ => rfl) layoutRead alike lays
    refine ⟨⟨entries, given, laid⟩, laidFront laid, fun absent => ?_⟩
    rw [tableAbsent absent] at given
    cases given
    exact laidNothing laid
  · cases names

theorem tablesLaid {record : Datum.Entries} {fileName : Text} {theme : Theme}
    (loads : ofDocument (.map record) fileName = .ok theme) :
    FromFile record "keywords" (fun entries =>
      (Datum.Distinct entries →
        Laid textOf? Datum.text? defaultKeywords (keywordOrder defaultKeywords.keys entries) theme.keywords) ∧
      (AllTexts entries → Laid textOf? Datum.text? defaultKeywords entries theme.keywords))
      defaultKeywords theme.keywords ∧
    FromFile record "sizes" (fun entries => Laid Scalar.name? Datum.layoutValue? defaultSizes entries theme.sizes)
      defaultSizes theme.sizes ∧
    FromFile record "radii" (fun entries => Laid Scalar.name? Datum.layoutValue? defaultRadii entries theme.radii)
      defaultRadii theme.radii := by
  obtain ⟨_, _, _, ⟨_, given, keywords⟩, ⟨_, namedSizes, sizes⟩, ⟨_, namedRadii, radii⟩⟩ := ofDocumentOk.mp loads
  exact ⟨keywordsFromFile given keywords, namedFromFile namedSizes sizes, namedFromFile namedRadii radii⟩

def numberedRecord : Datum.Entries :=
  [(.text "keywords", .map [(.bytes [119, 45, 102, 117, 108, 108], .text "B"), (.text "grow", .text "G")]),
    (.text "sizes", .map [(.int 1, .scalar (.int 10)), (.text "md", .scalar (.float 5)), (.text "1", .text "x")]),
    (.text "radii", .null)]

def numberedTheme : Theme :=
  { builtIn with
    name := "t"
    keywords := defaultKeywords.update [("w-full", "B"), ("grow", "G")]
    sizes := defaultSizes.update [("md", .number 5), ("1", .literal "x")] }

theorem tablesLaidNumbered :
    ofDocument (.map numberedRecord) "t" = .ok numberedTheme ∧
      FromFile numberedRecord "sizes"
        (fun entries => Laid Scalar.name? Datum.layoutValue? defaultSizes entries numberedTheme.sizes)
        defaultSizes numberedTheme.sizes ∧
      Absent numberedRecord "radii" ∧ numberedTheme.radii = defaultRadii := by
  have loads : ofDocument (.map numberedRecord) "t" = .ok numberedTheme := okOfOption (by decide +kernel)
  obtain ⟨_, sizes, radii⟩ := tablesLaid loads
  have absent : Absent numberedRecord "radii" := by
    intro datum found
    cases found
    rfl
  exact ⟨loads, sizes, absent, radii.absent absent⟩

def spelledTwice : Datum.Entries :=
  [(.bytes [119, 45, 102, 117, 108, 108], .text "B"), (.text "w-full", .text "A")]

theorem bytesOutlastText :
    ∃ theme, ofDocument (.map [(.text "keywords", .map spelledTwice)]) "t" = .ok theme ∧ Datum.Distinct spelledTwice ∧
      ∀ name? : Scalar → Option Text, name? (.text "w-full") = some ("w-full" : Text) →
        ¬Laid name? Datum.text? defaultKeywords spelledTwice theme.keywords := by
  let theme : Theme := { builtIn with name := "t", keywords := defaultKeywords.update [("w-full", "B")] }
  refine ⟨theme, okOfOption (by decide +kernel), List.pairwise_pair.mpr rfl, ?_⟩
  intro name? named laid
  have last : lastOf? name? spelledTwice "w-full" = some (.text "A") := by
    by_cases bytes : name? (.bytes [119, 45, 102, 117, 108, 108]) = some ("w-full" : Text) <;>
      simp [lastOf?, spelledTwice, named, bytes]
  obtain ⟨value, reads, found⟩ := laid.replaced _ _ last
  cases reads
  have stands : theme.keywords.find? "w-full" = some ("B" : Text) := by decide +kernel
  rw [stands] at found
  exact absurd found (by decide)

end UtilityLayout.Theme
