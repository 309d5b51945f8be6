import UtilityLayout.Proofs.Files.Making
import UtilityLayout.Proofs.Files.Names
import UtilityLayout.Proofs.Store.Stopping

/-! Bad theme files and the others. A file that loads nothing may as well not be there: the listing of what is left
is the same, and a lookup goes on to the library. -/
namespace UtilityLayout.ThemeStore
open FileTree

theorem loadCongr {files other : FileTree} {path : Path}
    (same : other.lookup path = files.lookup path) : load? other path = load? files path := by
  have reads : other.readText path = files.readText path := by
    rw [readText, readText, FileTree.read, FileTree.read, same]
  rw [loadPassOver, loadPassOver, readTheme, readTheme, reads]

theorem loadedTold {files : FileTree} {path : Path} {location : Location}
    (leads : files.locate path = .ok location)
    (nothing : told files location path.stem = .ok none) : loaded? files path = none := by
  rw [← probeLocated leads] at nothing
  exact probeLoaded nothing

theorem loadedUnlocated {files : FileTree} {path : Path} {cause : FileError.Cause}
    (fails : files.locate path = .error cause) : loaded? files path = none := by
  have nothing : load? files path = .ok none := loadNoFile fun text leads => by
    rw [lookupUnlocated fails] at leads
    cases leads
  rw [loaded?, nothing]

def Idle (files : FileTree) (location : Location) : Prop :=
  told files location (Path.stem ⟨.root, location⟩) = .ok none

variable {files other : FileTree} {location base : Location} {directory : Path} {name : String}

theorem themeNameDown (named : isThemeName name = true) : name ≠ ".." := by
  rintro rfl
  revert named
  decide

theorem lookupBeside (without : Without location files other)
    (leads : other.walk directory = .ok base) (there : other.entry? base = some .directory)
    (down : name ≠ "..") (beside : ¬location <+: base ++ [name]) :
    other.lookup (directory.child name) = files.lookup (directory.child name) := by
  have grown := withoutGrown without
  cases refused : refused? (directory.child name) with
  | some cause =>
    rw [lookupUnlocated (locateRefused refused other), lookupUnlocated (locateRefused refused files)]
  | none =>
    have before := locateChild refused (walkGrown grown leads)
    have after := locateChild refused leads
    rw [stepDown (grown.2 _ _ there) down] at before
    rw [stepDown there down] at after
    by_cases long : longestName < name.utf8ByteSize
    · rw [if_pos long] at before after
      rw [lookupUnlocated before, lookupUnlocated after]
    · rw [if_neg long] at before after
      rw [lookupLocated before, lookupLocated after, without.2, if_neg beside]

theorem loadedIdle (idle : Idle files location)
    (leads : files.walk directory = .ok base) (there : files.entry? base = some .directory)
    (down : name ≠ "..") (here : location = base ++ [name]) :
    loaded? files (directory.child name) = none := by
  cases found : files.locate (directory.child name) with
  | error cause => exact loadedUnlocated found
  | ok last =>
    have walks := locateChild (acceptedOfLocate found) leads
    rw [found, stepDown there down] at walks
    split at walks
    · cases walks
    · cases walks
      refine loadedTold found ?_
      rw [Idle, here] at idle
      rw [Path.stemChild directory ⟨.root, base⟩ name]
      exact idle

theorem filterMapKept {α β : Type} {keep : α → Bool} {f g : α → Option β} {list : List α}
    (dropped : ∀ a ∈ list, keep a = false → f a = none)
    (kept : ∀ a ∈ list, keep a = true → g a = f a) :
    (list.filter keep).filterMap g = list.filterMap f := by
  induction list with
  | nil => rfl
  | cons a rest ih =>
    have tail := ih (fun b inside => dropped b (List.mem_cons_of_mem _ inside))
      fun b inside => kept b (List.mem_cons_of_mem _ inside)
    cases keeps : keep a with
    | true =>
      rw [List.filter_cons_of_pos keeps, List.filterMap_cons, List.filterMap_cons, tail,
        kept a List.mem_cons_self keeps]
    | false =>
      rw [List.filter_cons_of_neg (by simp [keeps]), List.filterMap_cons, tail,
        dropped a List.mem_cons_self keeps]

theorem notDirectoryWithout (without : Without location files other)
    (absent : files.isDirectory directory = false) : other.isDirectory directory = false := by
  cases there : other.isDirectory directory with
  | false => rfl
  | true =>
    obtain ⟨base, leads, found⟩ := directoryOfLookup there
    have grown := withoutGrown without
    rw [isDirectoryOf (locateGrown grown leads) (grown.2 _ _ found)] at absent
    contradiction

theorem themeFilesWithout (without : Without location files other)
    (leads : other.locate directory = .ok base) (there : other.entry? base = some .directory) :
    themeFiles other directory =
      (((files.names base).filter isThemeName).filter fun name =>
        !decide (location <+: base ++ [name])).map directory.child := by
  rw [themeFilesLocated leads there, namesWithout without, List.filter_filter, List.filter_filter]
  simp only [Bool.and_comm]

theorem loadedWithout (without : Without location files other)
    (idle : Idle files location)
    (stays : files.isDirectory directory = true → other.isDirectory directory = true) :
    (themeFiles other directory).filterMap (loaded? other) =
      (themeFiles files directory).filterMap (loaded? files) := by
  cases before : files.isDirectory directory with
  | false => rw [themeFilesNone before, themeFilesNone (notDirectoryWithout without before)]; rfl
  | true =>
    obtain ⟨base, leads, there⟩ := directoryOfLookup (stays before)
    have grown := withoutGrown without
    have above : ¬location <+: base := by
      intro above
      rw [without.2, if_pos above] at there
      contradiction
    rw [themeFilesWithout without leads there,
      themeFilesLocated (locateGrown grown leads) (grown.2 _ _ there), List.filterMap_map,
      List.filterMap_map]
    refine filterMapKept ?_ ?_
    · intro name inside here
      have below : location <+: base ++ [name] := by simpa using here
      rcases List.prefix_concat_iff.mp below with same | inBase
      · exact loadedIdle idle (walkGrown grown (walkOfLocate leads)) (grown.2 _ _ there)
          (themeNameDown (List.mem_filter.mp inside).2) same
      · exact absurd inBase above
    · intro name inside beside
      have same := lookupBeside without (walkOfLocate leads) there
        (themeNameDown (List.mem_filter.mp inside).2) (by simpa using beside)
      simp only [Function.comp_apply, loaded?, loadCongr same]

theorem shelfWithout {store : ThemeStore} (without : Without location files other)
    (idle : Idle files location)
    (stays : ∀ directory ∈ store.directories,
      files.isDirectory directory = true → other.isDirectory directory = true) :
    (store.shelf other).filterMap (loaded? other) = (store.shelf files).filterMap (loaded? files) := by
  rw [shelf, shelf, List.filterMap_flatMap, List.filterMap_flatMap, List.flatMap_def, List.flatMap_def]
  congr 1
  refine List.map_congr_left ?_
  intro directory inside
  exact loadedWithout without idle (stays directory inside)

theorem breaksWithout {path : Path} (without : Without location files other)
    (file : path ∈ themeFiles other directory) (breaks : Breaks other path) :
    path ∈ themeFiles files directory ∧ Breaks files path := by
  have grown := withoutGrown without
  cases there : other.isDirectory directory with
  | false =>
    rw [themeFilesNone there] at file
    cases file
  | true =>
    obtain ⟨base, leads, found⟩ := directoryOfLookup there
    rw [themeFilesWithout without leads found] at file
    obtain ⟨name, kept, rfl⟩ := List.mem_map.mp file
    obtain ⟨inside, beside⟩ := List.mem_filter.mp kept
    refine ⟨?_, ?_⟩
    · rw [themeFilesLocated (locateGrown grown leads) (grown.2 _ _ found)]
      exact List.mem_map.mpr ⟨name, inside, rfl⟩
    · have same := lookupBeside without (walkOfLocate leads) found
        (themeNameDown (List.mem_filter.mp inside).2) (by simpa using beside)
      obtain ⟨text, leads, breaking⟩ := breaks
      exact ⟨text, same ▸ leads, breaking⟩

theorem listWithout {store : ThemeStore} (without : Without location files other)
    (idle : Idle files location)
    (stays : ∀ directory ∈ store.directories,
      files.isDirectory directory = true → other.isDirectory directory = true)
    {found : List Theme.Summary} (returns : list files store = .ok found) :
    list other store = .ok found := by
  cases left : list other store with
  | ok rest => rw [listOk left, listOk returns, shelfWithout without idle stays]
  | error failure =>
    have stops : ∃ failure, list files store = .error failure := by
      rw [listError]
      rcases (listError other store).mp ⟨failure, left⟩ with
        ⟨directory, inside, fails⟩ | ⟨path, file, breaks⟩
      · exact .inl ⟨directory, inside,
          existsError.mpr (locateLong (grownWider (withoutGrown without)) (existsError.mp fails))⟩
      · obtain ⟨directory, inside, file⟩ := List.mem_flatMap.mp file
        obtain ⟨file, breaks⟩ := breaksWithout without file breaks
        exact .inr ⟨path, List.mem_flatMap.mpr ⟨directory, inside, file⟩, breaks⟩
    obtain ⟨failure, fails⟩ := stops
    rw [returns] at fails
    cases fails

theorem listRemoved {store : ThemeStore} {path : Path} (rooted : Rooted files)
    (removes : files.remove path = .ok other) (nothing : load? files path = .ok none)
    {found : List Theme.Summary} (returns : list files store = .ok found) :
    list other store = .ok found := by
  obtain ⟨location, text, leads, file, without⟩ := withoutRemoved rooted removes
  refine listWithout without ?_ ?_ returns
  · have same : lookup files path = .ok (.file text) := by rw [lookupLocated leads, file]
    rw [loadFile same, fileStem rooted leads file] at nothing
    exact (toldFile file _).trans nothing
  · intro directory _ there
    exact directoryWithoutFile rooted without file there

def Stops (files : FileTree) (path : Path) : Prop :=
  (∃ cause, files.exists? path = .error cause) ∨ Breaks files path

theorem findError (files : FileTree) (store : ThemeStore) (name : String) :
    (∃ failure, find? files store name = .error failure) ↔
      store.cache.find? name = none ∧
        ((∃ project, store.project? = some project ∧ Stops files (fileOf project name)) ∨
          (∀ project, store.project? = some project → loaded? files (fileOf project name) = none) ∧
            Stops files (fileOf store.library name)) := by
  obtain ⟨library, project?, cache⟩ := store
  simp only [find?, Stops, ← probeStops]
  cases cache.find? name with
  | some theme => simp
  | none =>
    cases project? with
    | none =>
      have only : candidates ⟨library, none, cache⟩ name = [fileOf library name] := rfl
      simp [only, firstThemeLast]
    | some project =>
      have pair : candidates ⟨library, some project, cache⟩ name =
          [fileOf project name, fileOf library name] := rfl
      simp only [pair, firstThemePair, Option.some.injEq, exists_eq_left', forall_eq', true_and]
      rcases first : probe files (fileOf project name) with failure | _ | theme
      · simp
      · simp [probeLoaded first]
      · simp [probeLoaded first]

theorem findOk {files : FileTree} {store : ThemeStore} {name : String} {found : Option Theme}
    (returns : find? files store name = .ok found) :
    found = (store.cache.find? name).or
      ((store.project?.bind fun project => loaded? files (fileOf project name)).or
        (loaded? files (fileOf store.library name))) := by
  cases cached : store.cache.find? name with
  | some theme =>
    simp only [find?, cached] at returns
    cases returns
    rfl
  | none =>
    simp only [find?, cached] at returns
    rw [Option.none_or, firstThemeLoaded returns]
    exact findSomeCandidates store name _

theorem loadedRead {files : FileTree} {path : Path} {theme : Theme} :
    loaded? files path = some theme ↔ readTheme files path = .ok theme := by
  rw [loaded?, loadPassOver]
  cases readTheme files path with
  | ok other => simp [passOver]
  | error failure =>
    simp only [passOver]
    cases failure.isPassedOver <;> simp

theorem badFilesIsolated (files : FileTree) (store : ThemeStore) :
    (∀ path theme, loaded? files path = some theme ↔ readTheme files path = .ok theme) ∧
    ((∃ failure, list files store = .error failure) ↔
      (∃ directory ∈ store.directories, ∃ cause, files.exists? directory = .error cause) ∨
        ∃ path ∈ store.shelf files, Breaks files path) ∧
    (∀ found, list files store = .ok found →
      found = summaries ((store.shelf files).filterMap (loaded? files)) ∧
      (∀ location other, Without location files other → Idle files location →
        (∀ directory ∈ store.directories,
          files.isDirectory directory = true → other.isDirectory directory = true) →
        list other store = .ok found) ∧
      ∀ path other, Rooted files → files.remove path = .ok other → load? files path = .ok none →
        list other store = .ok found) ∧
    ∀ name,
      ((∃ failure, find? files store name = .error failure) ↔
        store.cache.find? name = none ∧
          ((∃ project, store.project? = some project ∧ Stops files (fileOf project name)) ∨
            (∀ project, store.project? = some project → loaded? files (fileOf project name) = none) ∧
              Stops files (fileOf store.library name))) ∧
      ∀ found, find? files store name = .ok found →
        found = (store.cache.find? name).or
          ((store.project?.bind fun project => loaded? files (fileOf project name)).or
            (loaded? files (fileOf store.library name))) := by
  refine ⟨fun _ _ => loadedRead, listError files store, ?_, ?_⟩
  · intro found returns
    refine ⟨listOk returns, ?_, ?_⟩
    · intro location other without idle stays
      exact listWithout without idle stays returns
    · intro path other rooted removes nothing
      exact listRemoved rooted removes nothing returns
  · intro name
    refine ⟨findError files store name, ?_⟩
    intro found returns
    exact findOk returns

theorem keywordsStopAll :
    ∃ files store, (∀ directory ∈ directories store, files.exists? directory = .ok true) ∧
      (∃ failure, list files store = .error failure) ∧
      files.exists? (fileOf store.library "a") = .ok true ∧
      ∃ failure, find? files store "a" = .error failure := by
  refine ⟨⟨.ofList [(["lib"], .directory), (["lib", "a.yaml"], .file "keywords: 5")], []⟩,
    .fresh ⟨.root, ["lib"]⟩ none, ?_, ?_, rfl, ?_⟩
  · intro directory inside
    cases List.mem_singleton.mp inside
    rfl
  · exact errorOfNone (by decide +kernel)
  · exact errorOfNone (by decide +kernel)

end UtilityLayout.ThemeStore
