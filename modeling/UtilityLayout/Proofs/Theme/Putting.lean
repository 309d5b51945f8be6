import UtilityLayout.Proofs.Theme.Entries

/-! Entries put into data one after another. A key that is there keeps its place and takes the last value; under texts
the data is what a table would be, and a key that is no text is none of its keys. -/
namespace UtilityLayout

def Datum.Distinct (entries : Datum.Entries) : Prop :=
  entries.Pairwise fun first second => first.1.sameKey second.1 = false

namespace Theme

variable {α : Type}

theorem sameText (name other : Text) : (Scalar.text name).sameKey (.text other) = decide (name = other) := by
  change decide (Scalar.text name = Scalar.text other) = _
  simp

theorem putTold (told : α → Datum) (name : Text) (value : α) (entries : List (Text × α)) :
    Datum.put (.text name) (told value) (entries.map (entryDatum told)) =
      (Table.put name value entries).map (entryDatum told) := by
  induction entries with
  | nil => rfl
  | cons entry rest ih =>
    have same : (entryDatum told entry).1.sameKey (.text name) = decide (entry.1 = name) := sameText entry.1 name
    rw [List.map_cons, Datum.put, same, Table.put, ih]
    by_cases here : entry.1 = name
    · subst here
      simp [entryDatum]
    · simp [here]

theorem putAllTold (told : α → Datum) (table : Table Text α) (list : List (Text × α)) :
    Datum.putAll (table.entries.map (entryDatum told)) (list.map (entryDatum told)) =
      (table.update list).entries.map (entryDatum told) := by
  induction list generalizing table with
  | nil => rfl
  | cons entry rest ih =>
    have next : Datum.put (entryDatum told entry).1 (entryDatum told entry).2 (table.entries.map (entryDatum told)) =
        (table.insert entry.1 entry.2).entries.map (entryDatum told) := putTold told entry.1 entry.2 table.entries
    rw [List.map_cons, Datum.putAll, List.foldl_cons, next]
    exact ih (table.insert entry.1 entry.2)

theorem putAllAlike {name? : Scalar → Option Text} (texts : ∀ name, name? (.text name) = some name)
    (table : Table Text Datum) (list : List (Text × Datum)) :
    Alike name? name? (Datum.putAll (table.entries.map (entryDatum id)) (list.map (entryDatum id)))
      (table.entries.map (entryDatum id) ++ list.map (entryDatum id)) := by
  rw [putAllTold]
  constructor
  · intro _
    rw [← List.map_append]
    exact namedTexts texts _
  · rw [namesOfAppend, namesOfTexts texts, namesOfTexts texts, namesOfTexts texts]
    exact (eraseDupsNodup (table.update list).distinct).trans (Table.keysUpdate table list)
  · intro name
    rw [lastOfAppend, lastOfTexts texts, lastOfTexts texts, lastOfTexts texts, Table.lastEntry, Table.lastEntry,
      Table.findUpdate, Option.map_id]
    rfl

theorem tableTold {told : α → Datum} {value? : Datum → Option α} (readBack : ∀ value, value? (told value) = some value)
    (table : Table Text α) : Datum.table? value? (.map (table.entries.map (entryDatum told))) = some table := by
  have each (list : List (Text × α)) : ((list.map (entryDatum told)).mapM fun entry => do
      some (← (Datum.scalar entry.1).text?, ← value? entry.2)) = some list := by
    induction list with
    | nil => rfl
    | cons entry rest ih =>
      rw [List.map_cons, List.mapM_cons, ih]
      simp [entryDatum, readBack, Datum.text?]
  have all : Table.ofList table.entries = table := Table.emptyUpdate table
  calc Datum.table? value? (.map (table.entries.map (entryDatum told)))
      = (some table.entries).bind fun pairs => some (Table.ofList pairs) :=
        congrArg (Option.bind · fun pairs => some (Table.ofList pairs)) (each table.entries)
    _ = some table := congrArg some all

def replaces (names : List Text) (entry : Scalar × Datum) : Bool :=
  match entry.1 with
  | .text name => names.contains name
  | _ => false

def AllTexts (entries : Datum.Entries) : Prop :=
  ∀ entry ∈ entries, ∃ name, entry.1 = .text name

theorem textEntries {entries : Datum.Entries} (all : AllTexts entries) :
    ∃ texts : List (Text × Datum), entries = texts.map (entryDatum id) := by
  induction entries with
  | nil => exact ⟨[], rfl⟩
  | cons entry rest ih =>
    obtain ⟨⟨name, text⟩, others⟩ := List.forall_mem_cons.mp all
    obtain ⟨texts, rfl⟩ := ih others
    exact ⟨(name, entry.2) :: texts, by rw [List.map_cons, entryDatum, ← text]; rfl⟩

theorem putApart {key : Scalar} {front : Datum.Entries} (apart : ∀ entry ∈ front, entry.1.sameKey key = false)
    (datum : Datum) (back : Datum.Entries) :
    Datum.put key datum (front ++ back) = front ++ Datum.put key datum back := by
  induction front with
  | nil => rfl
  | cons entry rest ih =>
    obtain ⟨first, others⟩ := List.forall_mem_cons.mp apart
    simp [Datum.put, first, ih others]

theorem putThere {key : Scalar} {front : Datum.Entries} (there : ∃ entry ∈ front, entry.1.sameKey key = true)
    (datum : Datum) (back : Datum.Entries) :
    Datum.put key datum (front ++ back) = Datum.put key datum front ++ back := by
  induction front with
  | nil =>
    obtain ⟨_, inside, _⟩ := there
    cases inside
  | cons entry rest ih =>
    cases same : entry.1.sameKey key with
    | true => simp [Datum.put, same]
    | false =>
      have later : ∃ entry ∈ rest, entry.1.sameKey key = true := by
        obtain ⟨found, inside, equal⟩ := there
        rcases List.mem_cons.mp inside with rfl | inside
        · rw [same] at equal
          contradiction
        · exact ⟨found, inside, equal⟩
      simp [Datum.put, same, ih later]

theorem putAllApart {front entries : Datum.Entries} (distinct : Datum.Distinct (front ++ entries)) :
    Datum.putAll front entries = front ++ entries := by
  induction entries generalizing front with
  | nil => exact (List.append_nil front).symm
  | cons entry rest ih =>
    have apart : ∀ other ∈ front, other.1.sameKey entry.1 = false := fun other inside =>
      (List.pairwise_append.mp distinct).2.2 other inside entry List.mem_cons_self
    have last := putApart apart entry.2 []
    rw [List.append_nil] at last
    have split : front ++ entry :: rest = (front ++ [entry]) ++ rest := by rw [List.append_assoc, List.singleton_append]
    rw [Datum.putAll, List.foldl_cons, last, split]
    exact ih (split ▸ distinct)

theorem putAllSplit (table : Table Text Datum) (back entries : Datum.Entries) :
    Datum.putAll (table.entries.map (entryDatum id) ++ back) entries =
      Datum.putAll (table.entries.map (entryDatum id)) (entries.filter (replaces table.keys)) ++
        Datum.putAll back (entries.filter fun entry => !replaces table.keys entry) := by
  induction entries generalizing table back with
  | nil => rfl
  | cons entry rest ih =>
    obtain ⟨key, datum⟩ := entry
    cases old : replaces table.keys (key, datum) with
    | true =>
      obtain ⟨name, rfl, inside⟩ : ∃ name, key = .text name ∧ name ∈ table.keys := by
        cases key <;> simp_all [replaces]
      obtain ⟨pair, member, named⟩ := List.mem_map.mp inside
      have there : ∃ entry ∈ table.entries.map (entryDatum id), entry.1.sameKey (.text name) = true :=
        ⟨_, List.mem_map_of_mem member, by rw [entryDatum, sameText, named, decide_eq_true rfl]⟩
      have next : Datum.put (.text name) datum (table.entries.map (entryDatum id)) =
          (table.insert name datum).entries.map (entryDatum id) := putTold id name datum table.entries
      have keys : (table.insert name datum).keys = table.keys := by rw [Table.insertKeys, if_pos inside]
      rw [List.filter_cons_of_pos old, List.filter_cons_of_neg (by simp [old])]
      simp only [Datum.putAll, List.foldl_cons] at ih ⊢
      rw [putThere there, next, ih, keys]
    | false =>
      have apart : ∀ entry ∈ table.entries.map (entryDatum id), entry.1.sameKey key = false := by
        intro entry inside
        obtain ⟨pair, member, rfl⟩ := List.mem_map.mp inside
        cases key with
        | text name =>
          have absent : name ∉ table.keys := by simpa [replaces] using old
          have differs : pair.1 ≠ name := fun same => absent (List.mem_map.mpr ⟨pair, member, same⟩)
          rw [entryDatum, sameText, decide_eq_false differs]
        | _ => rfl
      rw [List.filter_cons_of_neg (by simp [old]), List.filter_cons_of_pos (by simp [old])]
      simp only [Datum.putAll, List.foldl_cons] at ih ⊢
      rw [putApart apart, ih]

end Theme
end UtilityLayout
