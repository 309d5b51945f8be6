import UtilityLayout.Proofs.Files.Making

/-! Names in a directory, and trees without one entry. Taking an entry away, with all that is below it, takes its name
out of the directory it is in and leaves the order of the others. -/
namespace UtilityLayout.FileTree
open FileError (Cause)

def Without (location : Location) (t s : FileTree) : Prop :=
  s.workingDirectory = t.workingDirectory ∧
    ∀ other, s.entry? other = if location <+: other then none else t.entry? other

theorem withoutGrown {location : Location} {t s : FileTree} (without : Without location t s) :
    Grown s t := by
  refine ⟨without.1.symm, ?_⟩
  intro other entry found
  rw [without.2] at found
  split at found
  · contradiction
  · exact found

theorem keyOfEntry {t : FileTree} {location : Location} (notRoot : location ≠ []) :
    location ∈ t.entries.keys ↔ t.entry? location ≠ none := by
  have entry : t.entry? location = t.entries.find? location := if_neg notRoot
  rw [entry]
  constructor
  · intro key
    obtain ⟨⟨_, value⟩, inside, rfl⟩ := List.mem_map.mp key
    rw [Table.findMember _ inside]
    exact Option.some_ne_none value
  · intro there
    obtain ⟨value, found⟩ := Option.ne_none_iff_exists'.mp there
    exact List.mem_map.mpr ⟨_, Table.memberOfFind _ found, rfl⟩

def nameIn? (base key : Location) : Option String :=
  match key.getLast? with
  | some name => if key.dropLast = base then some name else none
  | none => none

theorem nameInSome {base key : Location} {name : String} :
    nameIn? base key = some name ↔ key = base ++ [name] := by
  unfold nameIn?
  constructor
  · intro found
    split at found
    · rename_i last same
      split at found
      · rename_i inside
        cases found
        obtain ⟨before, rfl⟩ := List.getLast?_eq_some_iff.mp same
        rw [List.dropLast_concat] at inside
        rw [inside]
      · contradiction
    · contradiction
  · rintro rfl
    simp

theorem namesSorted (t : FileTree) (base : Location) :
    t.names base = sorted (t.entries.keys.filterMap (nameIn? base)) :=
  rfl

theorem memberName {t : FileTree} {base : Location} {name : String} :
    name ∈ t.names base ↔ t.entry? (base ++ [name]) ≠ none := by
  rw [namesSorted, sorted, List.mem_mergeSort, List.mem_filterMap, ← keyOfEntry (by simp)]
  constructor
  · rintro ⟨key, inside, same⟩
    exact nameInSome.mp same ▸ inside
  · intro inside
    exact ⟨_, inside, nameInSome.mpr rfl⟩

theorem namesDistinct (t : FileTree) (base : Location) : (t.names base).Nodup := by
  rw [namesSorted, sorted, (List.mergeSort_perm _ _).nodup_iff]
  refine List.Pairwise.filterMap (nameIn? base) ?_ t.entries.distinct
  intro key other differs name found last same
  rw [nameInSome.mp found, nameInSome.mp same] at differs
  rintro rfl
  exact differs rfl

theorem namesOrdered (t : FileTree) (base : Location) : (t.names base).Pairwise fun a b => ¬b < a := by
  have ordered : (t.names base).Pairwise fun a b => (!decide (b < a)) = true := by
    rw [namesSorted, sorted]
    apply List.pairwise_mergeSort
    · intro a b c first second
      simp only [Bool.not_eq_true', decide_eq_false_iff_not] at first second ⊢
      exact String.le_trans first second
    · intro a b
      simp only [Bool.or_eq_true, Bool.not_eq_true', decide_eq_false_iff_not]
      exact String.le_total a b
  refine ordered.imp ?_
  intro a b before
  simpa only [Bool.not_eq_true', decide_eq_false_iff_not] using before

theorem namesExt {s : FileTree} {base : Location} {names : List String}
    (ordered : names.Pairwise fun a b => ¬b < a) (distinct : names.Nodup)
    (same : ∀ name, name ∈ names ↔ s.entry? (base ++ [name]) ≠ none) : s.names base = names := by
  refine List.Perm.eq_of_pairwise (fun a b _ _ first second => String.le_antisymm first second)
    (namesOrdered s base) ordered ?_
  rw [List.perm_ext_iff_of_nodup (namesDistinct s base) distinct]
  intro name
  rw [memberName, same]

theorem namesWithout {location : Location} {t s : FileTree} (without : Without location t s)
    (base : Location) :
    s.names base = (t.names base).filter fun name => !decide (location <+: base ++ [name]) := by
  refine namesExt ((namesOrdered t base).filter _) ((namesDistinct t base).filter _) ?_
  intro name
  rw [List.mem_filter, memberName, without.2]
  by_cases below : location <+: base ++ [name]
  · simp [below]
  · simp [below]

theorem aboveDirectory {t : FileTree} (rooted : Rooted t) {location : Location}
    (reversed : List String) (below : reversed ≠ [])
    (there : t.entry? (location ++ reversed.reverse) ≠ none) :
    t.entry? location = some .directory := by
  induction reversed with
  | nil => contradiction
  | cons name before ih =>
    obtain ⟨entry, found⟩ := Option.ne_none_iff_exists'.mp there
    have parent := rooted.2 _ _ found
    rw [List.reverse_cons, ← List.append_assoc, List.dropLast_concat] at parent
    by_cases last : before = []
    · subst last
      simpa using parent
    · refine ih last ?_
      rw [parent]
      exact Option.some_ne_none _

theorem belowFile {t : FileTree} (rooted : Rooted t) {location below : Location} {text : String}
    (file : t.entry? location = some (.file text)) (under : location <+: below)
    (differs : below ≠ location) : t.entry? below = none := by
  obtain ⟨rest, rfl⟩ := under
  cases there : t.entry? (location ++ rest) with
  | none => rfl
  | some entry =>
    have rest : rest.reverse ≠ [] := by
      intro nothing
      rw [List.reverse_eq_nil_iff] at nothing
      subst nothing
      exact differs (List.append_nil location)
    have directory : t.entry? location = some .directory := by
      refine aboveDirectory rooted _ rest ?_
      simp [there]
    rw [file] at directory
    cases directory

theorem withoutRemoved {t s : FileTree} {path : Path} (rooted : Rooted t)
    (removes : t.remove path = .ok s) :
    ∃ location text, t.locate path = .ok location ∧ t.entry? location = some (.file text) ∧
      Without location t s := by
  unfold remove at removes
  split at removes
  · contradiction
  · rename_i location leads
    split at removes
    · contradiction
    · contradiction
    · rename_i text file
      cases removes
      refine ⟨location, text, leads, file, rfl, ?_⟩
      intro other
      by_cases here : other = location
      · subst here
        have notRoot : other ≠ [] := by
          rintro rfl
          cases file
        simp [notRoot, entry?, Table.findErase]
      · have same : entry? { t with entries := t.entries.erase location } other = t.entry? other := by
          simp only [Table.findErase, if_neg here, entry?]
        rw [same]
        split
        · rename_i under
          exact belowFile rooted file under here
        · rfl

theorem widerWithoutFile {t s : FileTree} {location : Location} {text : String} (rooted : Rooted t)
    (without : Without location t s) (file : t.entry? location = some (.file text)) : Wider t s := by
  refine ⟨without.1, ?_⟩
  intro other directory
  rw [without.2, if_neg]
  · exact directory
  · intro under
    by_cases here : other = location
    · rw [here, file] at directory
      cases directory
    · rw [belowFile rooted file under here] at directory
      contradiction

theorem directoryWithoutFile {t s : FileTree} {path : Path} {location : Location} {text : String}
    (rooted : Rooted t) (without : Without location t s)
    (file : t.entry? location = some (.file text)) (there : t.isDirectory path = true) :
    s.isDirectory path = true := by
  obtain ⟨last, leads, directory⟩ := directoryOfLookup there
  have wider := widerWithoutFile rooted without file
  exact isDirectoryOf (locateWider wider leads) (wider.2 _ directory)

theorem fileStem {t : FileTree} {path : Path} {location : Location} {text : String}
    (rooted : Rooted t) (leads : t.locate path = .ok location)
    (file : t.entry? location = some (.file text)) :
    path.stem = Path.stem ⟨.root, location⟩ := by
  have walks := walkOfLocate leads
  obtain ⟨anchor, parts⟩ := path
  rcases List.eq_nil_or_concat parts with rfl | ⟨before, last, rfl⟩
  · cases walks
    rw [startRooted rooted] at file
    cases file
  · rw [List.concat_eq_append] at walks ⊢
    have child := walkChild t ⟨anchor, before⟩ last
    rw [Path.child, walks] at child
    split at child
    · rename_i base _
      obtain ⟨directory, ⟨_, rfl⟩ | ⟨_, _, rfl⟩⟩ := stepOk child.symm
      · rw [rooted.2 _ _ directory] at file
        cases file
      · exact Path.stemChild ⟨anchor, before⟩ ⟨.root, base⟩ last
    · contradiction

theorem stepLong {t s : FileTree} (wider : Wider t s) {location : Location} {part : String}
    (fails : t.step location part = .error .nameTooLong) :
    s.step location part = .error .nameTooLong := by
  unfold step at fails ⊢
  split at fails
  · cases fails
  · cases fails
  · rename_i directory
    rw [wider.2 _ directory]
    exact fails

theorem foldLong {t s : FileTree} (wider : Wider t s) {parts : List String} {location : Location}
    (fails : parts.foldlM t.step location = .error .nameTooLong) :
    parts.foldlM s.step location = .error .nameTooLong := by
  induction parts generalizing location with
  | nil => contradiction
  | cons part rest ih =>
    rw [List.foldlM_cons] at fails ⊢
    cases steps : t.step location part with
    | error cause =>
      rw [steps] at fails
      cases fails
      rw [stepLong wider steps]
      rfl
    | ok next =>
      rw [steps] at fails
      rw [stepWider wider steps]
      exact ih fails

theorem locateLong {t s : FileTree} (wider : Wider t s) {path : Path}
    (fails : t.locate path = .error .nameTooLong) : s.locate path = .error .nameTooLong := by
  cases refused : refused? path with
  | some cause =>
    rw [locateRefused refused] at fails ⊢
    exact fails
  | none =>
    rw [locateWalk refused] at fails ⊢
    rw [walk, startWider wider]
    exact foldLong wider fails

theorem existsError {t : FileTree} {path : Path} :
    (∃ cause, t.exists? path = .error cause) ↔ t.locate path = .error .nameTooLong := by
  unfold exists?
  cases leads : t.locate path with
  | error cause =>
    rw [lookupUnlocated leads]
    cases cause <;> simp
  | ok location =>
    rw [lookupLocated leads]
    cases t.entry? location <;> simp

end UtilityLayout.FileTree
