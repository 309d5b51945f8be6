import UtilityLayout.Proofs.Results
import UtilityLayout.Proofs.Updates
import UtilityLayout.Theme.Document

/-! Entries of a mapping under the names that their keys have, in one reading or another. What counts is the order in
which the names come first and what the last entry of each name says; lists of entries that agree there make the same
table. -/
namespace UtilityLayout.Theme

variable {α : Type}

def namesOf (name? : Scalar → Option Text) (entries : Datum.Entries) : List Text :=
  entries.filterMap fun entry => name? entry.1

def lastOf? (name? : Scalar → Option Text) (entries : Datum.Entries) (name : Text) : Option Datum :=
  (entries.filter fun entry => name? entry.1 = some name).getLast?.map Prod.snd

structure Gathered (name? : Scalar → Option Text) (value? : Datum → Option α) (entries : Datum.Entries)
    (table : Table Text α) : Prop where
  named : ∀ entry ∈ entries, name? entry.1 ≠ none
  keys : table.keys = (namesOf name? entries).eraseDups
  found : ∀ name datum, lastOf? name? entries name = some datum →
    ∃ value, value? datum = some value ∧ table.find? name = some value
  missing : ∀ name, lastOf? name? entries name = none → table.find? name = none

section Named
variable {name? other? third? : Scalar → Option Text}

theorem namesOfAppend (front back : Datum.Entries) :
    namesOf name? (front ++ back) = namesOf name? front ++ namesOf name? back :=
  List.filterMap_append

theorem lastOfAppend (front back : Datum.Entries) (name : Text) :
    lastOf? name? (front ++ back) name = (lastOf? name? back name).or (lastOf? name? front name) := by
  rw [lastOf?, List.filter_append, List.getLast?_append, Option.map_or]
  rfl

structure Alike (name? other? : Scalar → Option Text) (entries others : Datum.Entries) : Prop where
  named : (∀ entry ∈ entries, name? entry.1 ≠ none) → ∀ entry ∈ others, other? entry.1 ≠ none
  names : (namesOf name? entries).eraseDups = (namesOf other? others).eraseDups
  last : ∀ name, lastOf? name? entries name = lastOf? other? others name

theorem alikeRefl (entries : Datum.Entries) : Alike name? name? entries entries :=
  ⟨id, rfl, fun _ => rfl⟩

theorem alikeTrans {entries others more : Datum.Entries} (first : Alike name? other? entries others)
    (second : Alike other? third? others more) : Alike name? third? entries more where
  named := second.named ∘ first.named
  names := first.names.trans second.names
  last name := (first.last name).trans (second.last name)

theorem alikeOne {key other : Scalar} (datum : Datum) (same : name? key = other? other) :
    Alike name? other? [(key, datum)] [(other, datum)] where
  named := by simp [same]
  names := by simp [namesOf, List.filterMap_cons, same]
  last name := by
    by_cases here : other? other = some name <;> simp [lastOf?, same, here]

theorem alikeAppend {front front' back back' : Datum.Entries} (first : Alike name? other? front front')
    (second : Alike name? other? back back') : Alike name? other? (front ++ back) (front' ++ back') where
  named := by
    intro all
    obtain ⟨fronts, backs⟩ := List.forall_mem_append.mp all
    exact List.forall_mem_append.mpr ⟨first.named fronts, second.named backs⟩
  names := by
    rw [namesOfAppend, namesOfAppend]
    exact eraseDupsParts first.names second.names
  last name := by rw [lastOfAppend, lastOfAppend, first.last, second.last]

theorem gatheredAlike {value? : Datum → Option α} {entries others : Datum.Entries} {table : Table Text α}
    (alike : Alike name? other? entries others) (gathered : Gathered name? value? entries table) :
    Gathered other? value? others table where
  named := alike.named gathered.named
  keys := gathered.keys.trans alike.names
  found name datum last := gathered.found name datum ((alike.last name).trans last)
  missing name none := gathered.missing name ((alike.last name).trans none)

variable {told : α → Datum} (texts : ∀ name, name? (.text name) = some name)
include texts

theorem namesOfTexts (list : List (Text × α)) : namesOf name? (list.map (entryDatum told)) = list.map Prod.fst := by
  induction list with
  | nil => rfl
  | cons entry rest ih =>
    rw [namesOf] at ih
    simp only [namesOf, List.map_cons, List.filterMap_cons, entryDatum, texts, ih]

theorem lastOfTexts (list : List (Text × α)) (name : Text) :
    lastOf? name? (list.map (entryDatum told)) name =
      ((list.filter fun entry => entry.1 = name).getLast?.map Prod.snd).map told := by
  have same : (fun entry => decide (name? entry.1 = some name)) ∘ entryDatum told =
      fun entry : Text × α => decide (entry.1 = name) := by
    funext entry
    simp [entryDatum, texts]
  rw [lastOf?, List.filter_map, same, List.getLast?_map, Option.map_map, Option.map_map]
  rfl

theorem namedTexts (list : List (Text × α)) : ∀ entry ∈ list.map (entryDatum told), name? entry.1 ≠ none := by
  intro entry inside
  obtain ⟨pair, _, rfl⟩ := List.mem_map.mp inside
  rw [entryDatum, texts]
  exact Option.some_ne_none _

theorem alikeTexts (others : ∀ name, other? (.text name) = some name) (list : List (Text × α)) :
    Alike name? other? (list.map (entryDatum told)) (list.map (entryDatum told)) where
  named _ := namedTexts others list
  names := by rw [namesOfTexts texts, namesOfTexts others]
  last name := by rw [lastOfTexts texts, lastOfTexts others]

end Named

def Reads (name? : Scalar → Option Text) (value? : Datum → Option α) (both : List ((Scalar × Datum) × (Text × α))) :
    Prop :=
  ∀ b ∈ both, name? b.1.1 = some b.2.1 ∧ value? b.1.2 = some b.2.2

section Reading
variable {name? : Scalar → Option Text} {value? : Datum → Option α} {both : List ((Scalar × Datum) × (Text × α))}

theorem readNames (reads : Reads name? value? both) :
    namesOf name? (both.map Prod.fst) = (both.map Prod.snd).map Prod.fst := by
  induction both with
  | nil => rfl
  | cons b rest ih =>
    obtain ⟨first, others⟩ := List.forall_mem_cons.mp reads
    have ih := ih others
    rw [namesOf] at ih
    simp only [namesOf, List.map_cons, List.filterMap_cons, first.1, ih]

theorem readLast (reads : Reads name? value? both) (name : Text) :
    ∃ last? : Option ((Scalar × Datum) × (Text × α)), (∀ b, last? = some b → b ∈ both) ∧
      lastOf? name? (both.map Prod.fst) name = last?.map (·.1.2) ∧
      (Table.ofList (both.map Prod.snd)).find? name = last?.map (·.2.2) := by
  refine ⟨(both.filter fun b => b.2.1 = name).getLast?, ?_, ?_, ?_⟩
  · intro b last
    exact (List.mem_filter.mp (List.mem_of_getLast? last)).1
  · have same : both.filter ((fun entry => decide (name? entry.1 = some name)) ∘ Prod.fst) =
        both.filter fun b => b.2.1 = name := by
      refine List.filter_congr fun b inside => ?_
      simp [(reads b inside).1]
    rw [lastOf?, List.filter_map, same, List.getLast?_map, Option.map_map]
    rfl
  · have last := Table.findUpdate ∅ (both.map Prod.snd) name
    rw [List.filter_map, List.getLast?_map, Option.map_map] at last
    exact last.trans Option.or_none

theorem gatheredOfReads (reads : Reads name? value? both) :
    Gathered name? value? (both.map Prod.fst) (Table.ofList (both.map Prod.snd)) where
  named := by
    intro entry inside
    obtain ⟨b, there, rfl⟩ := List.mem_map.mp inside
    rw [(reads b there).1]
    exact Option.some_ne_none _
  keys := (Table.keysUpdate ∅ _).trans (congrArg _ (readNames reads).symm)
  found := by
    intro name datum found
    obtain ⟨last?, inside, data, values⟩ := readLast reads name
    obtain ⟨b, rfl, rfl⟩ := Option.map_eq_some_iff.mp (data.symm.trans found)
    exact ⟨b.2.2, (reads b (inside b rfl)).2, values⟩
  missing := by
    intro name none
    obtain ⟨last?, inside, data, values⟩ := readLast reads name
    obtain rfl := Option.map_eq_none_iff.mp (data.symm.trans none)
    exact values

end Reading

def textOf? (key : Scalar) : Option Text :=
  (Datum.scalar key).text?

theorem gatheredOfTable {value? : Datum → Option α} {entries : Datum.Entries} {table : Table Text α}
    (reads : Datum.table? value? (.map entries) = some table) : Gathered textOf? value? entries table := by
  obtain ⟨pairs, pairwise, same⟩ := Option.bind_eq_some_iff.mp reads
  cases same
  obtain ⟨both, rfl, rfl, each⟩ := mapMBoth pairwise
  refine gatheredOfReads fun b inside => ?_
  obtain ⟨name, named, read⟩ := Option.bind_eq_some_iff.mp (each b inside)
  obtain ⟨value, valued, same⟩ := Option.bind_eq_some_iff.mp read
  rw [Option.some.injEq] at same
  rw [← same]
  exact ⟨named, valued⟩

end UtilityLayout.Theme
