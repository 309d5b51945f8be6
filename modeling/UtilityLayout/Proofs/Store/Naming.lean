import UtilityLayout.Proofs.Store.Copying
import UtilityLayout.Proofs.Store.Isolation

/-! Two names of a theme: the one it is listed under, which its file says, and the one it is found under, which is
that of its file. Where no file tells them apart, what is listed is what is found. -/
namespace UtilityLayout.ThemeStore
open FileTree

def lastNamed? (name : Text) (themes : List Theme) : Option Theme :=
  (themes.filter fun theme => theme.name = name).getLast?

theorem lastNamedName {name : Text} {themes : List Theme} {theme : Theme}
    (last : lastNamed? name themes = some theme) : theme ∈ themes ∧ theme.name = name := by
  have member := List.mem_of_getLast? last
  obtain ⟨inside, named⟩ := List.mem_filter.mp member
  exact ⟨inside, of_decide_eq_true named⟩

theorem lastNamedAppend (name : Text) (first second : List Theme) :
    lastNamed? name (first ++ second) = (lastNamed? name second).or (lastNamed? name first) := by
  rw [lastNamed?, List.filter_append, List.getLast?_append]
  rfl

theorem lastNamedNone {name : Text} {themes : List Theme} (last : lastNamed? name themes = none) :
    ∀ theme ∈ themes, theme.name ≠ name := by
  intro theme inside named
  have empty := List.getLast?_eq_none_iff.mp last
  have member : theme ∈ themes.filter fun theme => theme.name = name :=
    List.mem_filter.mpr ⟨inside, decide_eq_true named⟩
  rw [empty] at member
  contradiction

theorem lastNamedOnly {name : Text} {themes : List Theme} {only? : Option Theme}
    (only : ∀ theme, theme ∈ themes ∧ theme.name = name ↔ only? = some theme) :
    lastNamed? name themes = only? := by
  cases last : lastNamed? name themes with
  | some theme => exact ((only theme).mp (lastNamedName last)).symm
  | none =>
    cases only? with
    | none => rfl
    | some theme =>
      obtain ⟨inside, named⟩ := (only theme).mpr rfl
      exact absurd named (lastNamedNone last theme inside)

theorem summaryFound (themes : List Theme) (name : Text) :
    (Table.ofList (themes.map fun theme => (theme.name, theme.summary))).find? name =
      (lastNamed? name themes).map Theme.summary := by
  have nothing : (Table.empty : Table Text Theme.Summary).find? name = none := rfl
  rw [Table.ofList, Table.findUpdate, nothing, Option.or_none, List.filter_map, List.getLast?_map,
    Option.map_map]
  rfl

theorem summaryLast {themes : List Theme} {summary : Theme.Summary} :
    summary ∈ summaries themes ↔
      ∃ theme, lastNamed? summary.name themes = some theme ∧ theme.summary = summary := by
  rw [summaries, Table.memberValues]
  simp only [summaryFound, Option.map_eq_some_iff]
  constructor
  · intro told
    obtain ⟨name, theme, last, rfl⟩ := told
    obtain ⟨_, rfl⟩ := lastNamedName last
    exact ⟨theme, last, rfl⟩
  · intro told
    obtain ⟨theme, last, same⟩ := told
    exact ⟨_, theme, last, same⟩

theorem loadedFile {files : FileTree} {path : Path} {theme : Theme}
    (loads : loaded? files path = some theme) : ∃ text, files.lookup path = .ok (.file text) := by
  refine Classical.byContradiction fun noFile => ?_
  have nothing : load? files path = .ok none := loadNoFile fun text leads => noFile ⟨text, leads⟩
  rw [loaded?, nothing] at loads
  contradiction

theorem themeNameFile (name : String) : isThemeName (fileName name) = true := by
  rw [isThemeName, fileName, String.toList_append, List.isSuffixOf_iff_suffix]
  exact List.suffix_append _ _

theorem listedChild {files : FileTree} {directory path : Path}
    (listed : path ∈ themeFiles files directory) : ∃ name, path = directory.child name := by
  cases there : files.isDirectory directory with
  | false =>
    rw [themeFilesNone there] at listed
    contradiction
  | true =>
    obtain ⟨base, leads, found⟩ := directoryOfLookup there
    rw [themeFilesLocated leads found] at listed
    obtain ⟨name, _, same⟩ := List.mem_map.mp listed
    exact ⟨name, same.symm⟩

theorem childListed {files : FileTree} {directory : Path} {name : String} {theme : Theme}
    (accessible : ¬∃ cause, files.exists? directory = .error cause)
    (loads : loaded? files (directory.child (fileName name)) = some theme) :
    directory.child (fileName name) ∈ themeFiles files directory := by
  obtain ⟨text, leads⟩ := loadedFile loads
  obtain ⟨location, located, file⟩ := locateOfLookup leads
  obtain ⟨accepted, _, base, walks, there, rfl⟩ := locateChildOk located (fileNameDown name)
  have opens : files.locate directory = .ok base := by
    cases refused : refused? directory with
    | none => rw [locateWalk refused, walks]
    | some cause =>
      have clean : ¬HasNull directory := fun null =>
        acceptedNoNull accepted ((hasNullChild directory _).mpr (.inl null))
      have long : files.locate directory = .error .nameTooLong := by
        rw [locateRefused refused, refusedNoNull refused clean]
      exact absurd (existsError.mpr long) accessible
  have named : fileName name ∈ files.names base := by
    rw [memberName, file]
    exact Option.some_ne_none _
  rw [themeFilesLocated opens there]
  exact List.mem_map.mpr ⟨_, List.mem_filter.mpr ⟨named, themeNameFile name⟩, rfl⟩

/- Among the files that load, those called by a name are those that say it. -/
def NamedAlike (files : FileTree) (store : ThemeStore) (name : String) : Prop :=
  ∀ path ∈ store.shelf files, ∀ theme ∈ loaded? files path,
    theme.name = Text.ofString name ↔ path.name = fileName name

theorem nameChild (directory : Path) (name : String) : (directory.child name).name = name := by
  simp [Path.name, Path.child]

theorem lastNamedFile {files : FileTree} {store : ThemeStore} {directory : Path} {name : String}
    (plain : Plain name) (alike : NamedAlike files store name) (inside : directory ∈ store.directories)
    (accessible : ¬∃ cause, files.exists? directory = .error cause) :
    lastNamed? name ((themeFiles files directory).filterMap (loaded? files)) =
      loaded? files (fileOf directory name) := by
  have shelved {path : Path} (listed : path ∈ themeFiles files directory) : path ∈ store.shelf files :=
    List.mem_flatMap.mpr ⟨directory, inside, listed⟩
  rw [fileOfPlain plain]
  refine lastNamedOnly fun theme => ?_
  constructor
  · intro both
    obtain ⟨found, named⟩ := both
    obtain ⟨path, listed, loads⟩ := List.mem_filterMap.mp found
    have called := (alike path (shelved listed) theme loads).mp named
    obtain ⟨other, rfl⟩ := listedChild listed
    rw [nameChild] at called
    rw [← called, loads]
  · intro loads
    have listed := childListed accessible loads
    exact ⟨List.mem_filterMap.mpr ⟨_, listed, loads⟩,
      (alike _ (shelved listed) theme loads).mpr (nameChild _ _)⟩

theorem lastNamedFound {files : FileTree} {store : ThemeStore} {name : String}
    (plain : Plain name) (alike : NamedAlike files store name)
    (accessible : ∀ directory ∈ store.directories, ¬∃ cause, files.exists? directory = .error cause) :
    lastNamed? name ((store.shelf files).filterMap (loaded? files)) =
      (store.project?.bind fun project => loaded? files (fileOf project name)).or
        (loaded? files (fileOf store.library name)) := by
  have inLibrary : store.library ∈ store.directories := List.mem_cons_self
  have library := lastNamedFile plain alike inLibrary (accessible _ inLibrary)
  cases configured : store.project? with
  | none =>
    have shelf : store.shelf files = themeFiles files store.library := by
      simp [shelf, directories, configured]
    rw [shelf, library]
    rfl
  | some project =>
    have inProject : project ∈ store.directories := by simp [directories, configured]
    have shelf : store.shelf files = themeFiles files store.library ++ themeFiles files project := by
      simp [shelf, directories, configured]
    rw [shelf, List.filterMap_append, lastNamedAppend, library,
      lastNamedFile plain alike inProject (accessible _ inProject)]
    rfl

/- What is listed under a name is the last file that says it, what is found is the first file that is called so. -/
theorem listedFound {files : FileTree} {store : ThemeStore} {name : String}
    {found : List Theme.Summary} {answer : Option Theme}
    (uncached : store.cache.find? name = none) (lists : list files store = .ok found)
    (looks : find? files store name = .ok answer) :
    (∀ summary, summary ∈ found ↔ ∃ theme,
      lastNamed? summary.name ((store.shelf files).filterMap (loaded? files)) = some theme ∧
        theme.summary = summary) ∧
    answer = (store.project?.bind fun project => loaded? files (fileOf project name)).or
      (loaded? files (fileOf store.library name)) ∧
    (Plain name → NamedAlike files store name →
      (∀ summary ∈ found, summary.name = Text.ofString name →
        ∃ theme, answer = some theme ∧ theme.summary = summary) ∧
      ∀ theme, answer = some theme → theme.name = Text.ofString name ∧ theme.summary ∈ found) := by
  have listed := listOk lists
  have first := findOk looks
  rw [uncached, Option.none_or] at first
  have accessible : ∀ directory ∈ store.directories,
      ¬∃ cause, files.exists? directory = .error cause := by
    intro directory inside fails
    obtain ⟨failure, fails⟩ := (listError files store).mpr (.inl ⟨directory, inside, fails⟩)
    rw [lists] at fails
    contradiction
  have last (summary : Theme.Summary) : summary ∈ found ↔ ∃ theme,
      lastNamed? summary.name ((store.shelf files).filterMap (loaded? files)) = some theme ∧
        theme.summary = summary := by
    rw [listed]
    exact summaryLast
  refine ⟨last, first, ?_⟩
  intro plain alike
  have same := lastNamedFound plain alike accessible
  rw [← first] at same
  constructor
  · intro summary inside named
    obtain ⟨theme, found, sums⟩ := (last summary).mp inside
    rw [named, same] at found
    exact ⟨theme, found, sums⟩
  · intro theme found
    rw [found] at same
    obtain ⟨_, named⟩ := lastNamedName same
    refine ⟨named, (last _).mpr ⟨theme, ?_, rfl⟩⟩
    change lastNamed? theme.name _ = some theme
    rw [named, same]

theorem listedFoundShadowing :
    let files : FileTree := ⟨.ofList [(["lib"], .directory), (["lib", "a.yaml"], .file "spacing_unit: 2"),
      (["p"], .directory), (["p", "a.yaml"], .file "name: a")], []⟩
    let store : ThemeStore := .fresh ⟨.root, ["lib"]⟩ (some ⟨.root, ["p"]⟩)
    let theme : Theme := { Theme.builtIn with name := "a" }
    list files store = .ok [theme.summary] ∧ find? files store "a" = .ok (some theme) ∧
      theme.name = "a" ∧ theme.summary ∈ [theme.summary] := by
  intro files store theme
  have plain : Plain "a" := by unfold Plain; decide
  have alike : NamedAlike files store "a" := by unfold NamedAlike; decide +kernel
  have lists : list files store = .ok [theme.summary] := okOfOption (by decide +kernel)
  have looks : find? files store "a" = .ok (some theme) := okOfOption (by decide +kernel)
  exact ⟨lists, looks, ((listedFound rfl lists looks).2.2 plain alike).2 theme rfl⟩

theorem listedNotFound :
    ∃ files store found summary theme, store.cache = ∅ ∧ list files store = .ok found ∧
      summary ∈ found ∧ summary.name = "b" ∧ find? files store "b" = .ok none ∧
      find? files store "a" = .ok (some theme) ∧ ∀ listed ∈ found, listed.name ≠ "a" := by
  let files : FileTree :=
    ⟨.ofList [(["lib"], .directory), (["lib", "a.yaml"], .file "name: b")], []⟩
  let store : ThemeStore := .fresh ⟨.root, ["lib"]⟩ none
  let theme : Theme := { Theme.builtIn with name := "b" }
  have lists : list files store = .ok [theme.summary] := okOfOption (by decide +kernel)
  have nothing : find? files store "b" = .ok none := okOfOption (by decide +kernel)
  have other : find? files store "a" = .ok (some theme) := okOfOption (by decide +kernel)
  refine ⟨files, store, _, theme.summary, theme, rfl, lists, List.mem_singleton_self _, rfl, nothing,
    other, ?_⟩
  intro listed inside
  rw [List.mem_singleton.mp inside]
  decide

end UtilityLayout.ThemeStore
