import UtilityLayout.Proofs.Results
import UtilityLayout.Store.Basic

/-! Data that describes no theme and is not passed over either. There are two such defects: keywords that are no
mapping, and the name of a size or a radius that has too many digits. -/
namespace UtilityLayout.Theme

def NoMapping (record : Datum.Entries) (key : String) : Prop :=
  tableEntries? record (tableDatum record key) = none

def HasLongName (record : Datum.Entries) (key : String) : Prop :=
  ∃ entries, tableEntries? record (tableDatum record key) = some entries ∧
    ∃ entry ∈ entries, entry.1.name? = none

def Defective : Datum → Prop
  | .map record => NoMapping record "keywords" ∨ HasLongName record "sizes" ∨
      ¬NoMapping record "sizes" ∧ HasLongName record "radii"
  | _ => False

def Stops {α : Type} (result : Except ThemeError α) : Prop :=
  ∃ cause, result = .error cause ∧ (Failure.theme cause).isPassedOver = false

theorem stopsOk {α : Type} (value : α) : ¬Stops (.ok value) := by
  rintro ⟨cause, fails, _⟩
  cases fails

theorem stopsError {α : Type} (cause : ThemeError) :
    Stops (α := α) (.error cause) ↔ (Failure.theme cause).isPassedOver = false := by
  constructor
  · rintro ⟨_, fails, stops⟩
    cases fails
    exact stops
  · intro stops
    exact ⟨cause, rfl, stops⟩

def nameEntry (entry : Scalar × Datum) : Except ThemeError (Scalar × Datum) :=
  match entry.1.name? with
  | some name => .ok (.text name, entry.2)
  | none => .error .longName

theorem nameEntryError {entry : Scalar × Datum} {cause : ThemeError} :
    nameEntry entry = .error cause ↔ entry.1.name? = none ∧ cause = .longName := by
  unfold nameEntry
  cases entry.1.name? with
  | some name => simp
  | none => simp [eq_comm]

theorem namedEntriesMap (entries : Datum.Entries) :
    namedEntries entries = (entries.mapM nameEntry).map Datum.collect := by
  change (entries.mapM nameEntry >>= fun named => .ok (Datum.collect named)) = _
  cases entries.mapM nameEntry <;> rfl

theorem namedEntriesLong {entries : Datum.Entries} (long : ∃ entry ∈ entries, entry.1.name? = none) :
    namedEntries entries = .error .longName := by
  obtain ⟨entry, inside, long⟩ := long
  obtain ⟨cause, fails⟩ := mapMError.mpr ⟨entry, inside, _, nameEntryError.mpr ⟨long, rfl⟩⟩
  obtain ⟨_, _, named⟩ := mapMErrorMember fails
  rw [namedEntriesMap, fails, (nameEntryError.mp named).2]
  rfl

theorem namedEntriesOk {entries : Datum.Entries} (short : ¬∃ entry ∈ entries, entry.1.name? = none) :
    ∃ named, namedEntries entries = .ok named := by
  rw [namedEntriesMap]
  cases named : entries.mapM nameEntry with
  | error cause =>
    obtain ⟨entry, inside, fails⟩ := mapMErrorMember named
    exact absurd ⟨entry, inside, (nameEntryError.mp fails).1⟩ short
  | ok pairs => exact ⟨_, rfl⟩

theorem namedCases (record : Datum.Entries) (key : String) :
    NoMapping record key ∧ (∃ kind member, ofDocument.named record key = .error (.noMember kind member)) ∨
      HasLongName record key ∧ ofDocument.named record key = .error .longName ∨
      ¬NoMapping record key ∧ ¬HasLongName record key ∧
        ∃ entries, ofDocument.named record key = .ok entries := by
  unfold NoMapping HasLongName ofDocument.named
  cases tableEntries? record (tableDatum record key) with
  | none => exact .inl ⟨rfl, _, _, rfl⟩
  | some entries =>
    by_cases long : ∃ entry ∈ entries, entry.1.name? = none
    · exact .inr (.inl ⟨⟨entries, rfl, long⟩, namedEntriesLong long⟩)
    · refine .inr (.inr ⟨Option.some_ne_none entries, ?_, namedEntriesOk long⟩)
      rintro ⟨_, ⟨⟩, same⟩
      exact long same

theorem longNotMissing {record : Datum.Entries} {key : String} (missing : NoMapping record key) :
    ¬HasLongName record key := by
  rintro ⟨entries, found, _⟩
  rw [missing] at found
  contradiction

theorem ofDocumentStops (datum : Datum) (fileName : Text) :
    Stops (ofDocument datum fileName) ↔ Defective datum := by
  cases datum with
  | map record =>
    simp only [ofDocument, Defective, bind, Except.bind, pure, Except.pure]
    cases keywords : tableEntries? record (tableDatum record "keywords") with
    | none =>
      have stops : Stops (α := Theme) (.error (.notMapping (tableDatum record "keywords").kind)) :=
        (stopsError _).mpr rfl
      exact ⟨fun _ => .inl keywords, fun _ => stops⟩
    | some entries =>
      have mapping : ¬NoMapping record "keywords" := by
        rw [NoMapping, keywords]
        exact Option.some_ne_none entries
      simp only [mapping, false_or]
      rcases namedCases record "sizes" with
        ⟨missing, kind, member, sizes⟩ | ⟨long, sizes⟩ | ⟨found, short, _, sizes⟩
      · simp [sizes, stopsError, missing, longNotMissing missing, Failure.isPassedOver]
      · simp [sizes, stopsError, long, Failure.isPassedOver]
      · simp only [sizes, found, short, false_or, not_false_iff, true_and]
        rcases namedCases record "radii" with
          ⟨missing, kind, member, radii⟩ | ⟨long, radii⟩ | ⟨_, short, _, radii⟩
        · simp [radii, stopsError, longNotMissing missing, Failure.isPassedOver]
        · simp [radii, stopsError, long, Failure.isPassedOver]
        · simp only [radii, short, iff_false]
          split
          · exact stopsOk _
          · exact fun stops => by cases (stopsError _).mp stops
  | _ =>
    refine ⟨fun stops => ?_, False.elim⟩
    cases (stopsError _).mp stops

end UtilityLayout.Theme
