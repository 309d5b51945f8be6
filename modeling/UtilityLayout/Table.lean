/-! Tables that keep their keys in the order of first insertion. A later value for a key that is there
replaces the value and leaves the position. Keys are distinct by construction. -/
namespace UtilityLayout

structure Table (κ α : Type) where
  entries : List (κ × α)
  distinct : (entries.map Prod.fst).Nodup
  deriving Repr

namespace Table
variable {κ α β : Type}

def keys (t : Table κ α) : List κ :=
  t.entries.map Prod.fst

def values (t : Table κ α) : List α :=
  t.entries.map Prod.snd

def size (t : Table κ α) : Nat :=
  t.entries.length

def isEmpty (t : Table κ α) : Bool :=
  t.entries.isEmpty

@[ext] theorem entriesExt {s t : Table κ α} (h : s.entries = t.entries) : s = t := by
  cases s; cases t; cases h; rfl

instance [DecidableEq κ] [DecidableEq α] : DecidableEq (Table κ α) := fun s t =>
  decidable_of_iff (s.entries = t.entries) ⟨entriesExt, fun h => h ▸ rfl⟩

def empty : Table κ α :=
  ⟨[], List.nodup_nil⟩

instance : EmptyCollection (Table κ α) := ⟨empty⟩

variable [DecidableEq κ]

def find? (t : Table κ α) (key : κ) : Option α :=
  t.entries.lookup key

def put (key : κ) (value : α) : List (κ × α) → List (κ × α)
  | [] => [(key, value)]
  | entry :: rest => if entry.1 = key then (key, value) :: rest else entry :: put key value rest

theorem putKeys (key : κ) (value : α) (entries : List (κ × α)) :
    (put key value entries).map Prod.fst =
      if key ∈ entries.map Prod.fst then entries.map Prod.fst else entries.map Prod.fst ++ [key] := by
  induction entries with
  | nil => rfl
  | cons entry rest ih =>
    by_cases h : entry.1 = key
    · simp [put, h]
    · by_cases inside : key ∈ rest.map Prod.fst
      · rw [if_pos inside] at ih
        simp only [put, h, if_false, List.map_cons, ih, List.mem_cons, inside, or_true, if_true]
      · rw [if_neg inside] at ih
        simp only [put, h, if_false, List.map_cons, ih, List.mem_cons, inside, or_false, Ne.symm h,
          List.cons_append]

theorem putDistinct (key : κ) (value : α) {entries : List (κ × α)}
    (h : (entries.map Prod.fst).Nodup) : ((put key value entries).map Prod.fst).Nodup := by
  rw [putKeys]
  split
  · exact h
  · rename_i absent
    rw [List.nodup_append]
    refine ⟨h, by simp, ?_⟩
    intro a mem b last same
    rw [List.mem_singleton.mp last] at same
    exact absent (same ▸ mem)

def insert (t : Table κ α) (key : κ) (value : α) : Table κ α :=
  ⟨put key value t.entries, putDistinct key value t.distinct⟩

def update (t : Table κ α) (entries : List (κ × α)) : Table κ α :=
  entries.foldl (fun table entry => table.insert entry.1 entry.2) t

def ofList (entries : List (κ × α)) : Table κ α :=
  empty.update entries

def erase (t : Table κ α) (key : κ) : Table κ α :=
  ⟨t.entries.filter fun entry => entry.1 ≠ key,
    List.Sublist.nodup (List.Sublist.map _ List.filter_sublist) t.distinct⟩

theorem insertKeys (t : Table κ α) (key : κ) (value : α) :
    (t.insert key value).keys = if key ∈ t.keys then t.keys else t.keys ++ [key] :=
  putKeys key value t.entries

theorem findInsert (t : Table κ α) (key other : κ) (value : α) :
    (t.insert key value).find? other = if other = key then some value else t.find? other := by
  obtain ⟨entries, _⟩ := t
  simp only [find?, insert]
  induction entries with
  | nil =>
    by_cases h : other = key
    · simp [put, h]
    · have differs : (other == key) = false := by simpa using h
      simp [put, List.lookup_cons, h, differs]
  | cons entry rest ih =>
    rename_i distinct
    have ih := ih (List.nodup_cons.mp distinct).2
    obtain ⟨found, old⟩ := entry
    by_cases h : found = key
    · subst h
      by_cases same : other = found
      · simp [put, same]
      · have differs : (other == found) = false := by simpa using same
        simp [put, List.lookup_cons, differs, same]
    · by_cases same : other = found
      · subst same
        simp [put, h]
      · have differs : (other == found) = false := by simpa using same
        simp [put, h, List.lookup_cons, differs, ih]

theorem findErase (t : Table κ α) (key other : κ) :
    (t.erase key).find? other = if other = key then none else t.find? other := by
  obtain ⟨entries, distinct⟩ := t
  simp only [find?, erase]
  clear distinct
  induction entries with
  | nil => simp
  | cons entry rest ih =>
    obtain ⟨found, value⟩ := entry
    by_cases gone : found = key
    · rw [List.filter_cons_of_neg (by simpa using gone), ih, List.lookup_cons, ← gone]
      by_cases same : other = found
      · simp [same]
      · have differs : (other == found) = false := by simpa using same
        simp [same, differs]
    · rw [List.filter_cons_of_pos (by simpa using gone), List.lookup_cons, List.lookup_cons, ih]
      by_cases same : other = found
      · simp [same, gone]
      · have differs : (other == found) = false := by simpa using same
        simp [differs]

theorem findMember (t : Table κ α) {key : κ} {value : α} (member : (key, value) ∈ t.entries) :
    t.find? key = some value := by
  obtain ⟨entries, distinct⟩ := t
  simp only [find?] at member ⊢
  induction entries with
  | nil => simp at member
  | cons head rest ih =>
    obtain ⟨found, old⟩ := head
    obtain ⟨absent, distinct⟩ := List.nodup_cons.mp distinct
    rcases List.mem_cons.mp member with same | later
    · cases same
      simp
    · have differs : (key == found) = false := by
        rw [beq_eq_false_iff_ne]
        rintro rfl
        exact absent (List.mem_map.mpr ⟨_, later, rfl⟩)
      simpa only [List.lookup_cons, differs] using ih distinct later

theorem memberOfFind (t : Table κ α) {key : κ} {value : α} (found : t.find? key = some value) :
    (key, value) ∈ t.entries := by
  obtain ⟨before, rest, split, _⟩ := List.lookup_eq_some_iff.mp found
  rw [split]
  exact List.mem_append_right _ List.mem_cons_self

theorem entriesOfFind (t : Table κ α) :
    t.entries = t.keys.filterMap fun key => (t.find? key).map (key, ·) := by
  have all : ∀ entries : List (κ × α), (∀ entry ∈ entries, entry ∈ t.entries) →
      entries = (entries.map Prod.fst).filterMap fun key => (t.find? key).map (key, ·) := by
    intro entries inside
    induction entries with
    | nil => rfl
    | cons entry rest ih =>
      have found := t.findMember (inside entry List.mem_cons_self)
      have tail := ih fun other member => inside other (List.mem_cons_of_mem _ member)
      simp only [List.map_cons, List.filterMap_cons, found, Option.map_some]
      rw [← tail]
  exact all t.entries fun _ member => member

theorem findUpdate (t : Table κ α) (entries : List (κ × α)) (key : κ) :
    (t.update entries).find? key =
      ((entries.filter fun entry => entry.1 = key).getLast?.map Prod.snd).or (t.find? key) := by
  induction entries generalizing t with
  | nil => rfl
  | cons entry rest ih =>
    have next : t.update (entry :: rest) = (t.insert entry.1 entry.2).update rest := rfl
    rw [next, ih, findInsert, List.filter_cons]
    by_cases here : entry.1 = key
    · rw [if_pos here.symm, if_pos (decide_eq_true here), List.getLast?_cons]
      cases (rest.filter fun entry => entry.1 = key).getLast? <;> rfl
    · rw [if_neg (Ne.symm here), if_neg (by simpa using here)]

theorem memberValues (t : Table κ α) {value : α} :
    value ∈ t.values ↔ ∃ key, t.find? key = some value := by
  constructor
  · intro inside
    obtain ⟨⟨key, _⟩, member, rfl⟩ := List.mem_map.mp inside
    exact ⟨key, t.findMember member⟩
  · rintro ⟨key, found⟩
    exact List.mem_map.mpr ⟨_, t.memberOfFind found, rfl⟩

end Table
end UtilityLayout
