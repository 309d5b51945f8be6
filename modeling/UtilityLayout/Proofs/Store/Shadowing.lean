import Mathlib.Data.List.Basic
import UtilityLayout.Proofs.Store.Naming
import UtilityLayout.Proofs.Updates

/-! Themes of the library and of the project in one listing. A name stands where it comes first and says what its last
theme says, so that a theme of the project takes the place of those of the library that have its name. -/
namespace UtilityLayout.ThemeStore
open FileTree

def themeNames (themes : List Theme) : List Text :=
  themes.map Theme.name

/- Each name where it comes first, and under it the summary of its last theme. -/
structure Listing (themes : List Theme) (found : List Theme.Summary) : Prop where
  names : ∀ name, (∃ summary ∈ found, summary.name = name) ↔ ∃ theme ∈ themes, theme.name = name
  order : found.Pairwise fun first second =>
    (themeNames themes).idxOf first.name < (themeNames themes).idxOf second.name
  last : ∀ summary ∈ found, ∃ theme, lastNamed? summary.name themes = some theme ∧ theme.summary = summary

theorem lastNamedSome {name : Text} {themes : List Theme} (inside : name ∈ themeNames themes) :
    ∃ theme, lastNamed? name themes = some theme := by
  obtain ⟨theme, member, named⟩ := List.mem_map.mp inside
  cases last : lastNamed? name themes with
  | none => exact absurd named (lastNamedNone last theme member)
  | some theme => exact ⟨theme, rfl⟩

theorem lastNamedAbsent {name : Text} {themes : List Theme} (absent : name ∉ themeNames themes) :
    lastNamed? name themes = none := by
  rw [Option.eq_none_iff_forall_ne_some]
  intro theme last
  obtain ⟨inside, named⟩ := lastNamedName last
  exact absent (List.mem_map.mpr ⟨theme, inside, named⟩)

theorem summariesNamed (themes : List Theme) :
    summaries themes =
      (themeNames themes).eraseDups.filterMap fun name => (lastNamed? name themes).map Theme.summary := by
  have keys : (Table.ofList (themes.map fun theme => (theme.name, theme.summary))).keys =
      (themeNames themes).eraseDups := by
    rw [Table.ofList, Table.keysUpdate, List.map_map]
    rfl
  rw [summaries, Table.values, Table.entriesOfFind, keys, List.map_filterMap]
  simp only [summaryFound, Option.map_map]
  rfl

theorem summariesNames (themes : List Theme) :
    (summaries themes).map Theme.Summary.name = (themeNames themes).eraseDups := by
  rw [summariesNamed, List.map_filterMap]
  refine (List.filterMap_congr fun name inside => ?_).trans List.filterMap_some
  obtain ⟨theme, last⟩ := lastNamedSome (List.mem_eraseDups.mp inside)
  rw [last]
  exact congrArg some (lastNamedName last).2

theorem summariesListing (themes : List Theme) : Listing themes (summaries themes) where
  names name := by
    have inside : name ∈ (summaries themes).map Theme.Summary.name ↔ name ∈ themeNames themes := by
      rw [summariesNames, List.mem_eraseDups]
    rwa [List.mem_map, themeNames, List.mem_map] at inside
  order := by
    have ordered := eraseDupsOrder (themeNames themes)
    rwa [← summariesNames, List.pairwise_map] at ordered
  last _ inside := summaryLast.mp inside

theorem listingDistinct {themes : List Theme} {found : List Theme.Summary} (listing : Listing themes found) :
    (found.map Theme.Summary.name).Nodup := by
  refine List.pairwise_map.mpr (listing.order.imp fun before same => ?_)
  rw [same] at before
  exact Nat.lt_irrefl _ before

def shadowed (later : List Theme) (summary : Theme.Summary) : Theme.Summary :=
  ((lastNamed? summary.name later).map Theme.summary).getD summary

theorem summariesAppend (themes later : List Theme) :
    summaries (themes ++ later) = (summaries themes).map (shadowed later) ++
      (summaries later).filter fun summary => summary.name ∉ themeNames themes := by
  have names : (themeNames (themes ++ later)).eraseDups = (themeNames themes).eraseDups ++
      (themeNames later).eraseDups.filter fun name => !(themeNames themes).contains name := by
    rw [themeNames, List.map_append, List.eraseDups_append, ← themeNames, ← themeNames, List.removeAll]
    exact congrArg _ (eraseDupsFilter _ _)
  rw [summariesNamed, names, List.filterMap_append, summariesNamed themes, summariesNamed later]
  congr 1
  · rw [List.map_filterMap]
    refine List.filterMap_congr fun name inside => ?_
    obtain ⟨theme, last⟩ := lastNamedSome (List.mem_eraseDups.mp inside)
    obtain ⟨_, rfl⟩ := lastNamedName last
    rw [lastNamedAppend, last]
    have own : theme.summary.name = theme.name := rfl
    cases later : lastNamed? theme.name later <;> simp [shadowed, own, later]
  · rw [List.filterMap_filter, List.filter_filterMap]
    refine List.filterMap_congr fun name _ => ?_
    have named (theme : Theme) : theme.summary.name = theme.name := rfl
    by_cases inside : name ∈ themeNames themes
    · cases last : lastNamed? name later with
      | none => simp [inside]
      | some theme =>
        obtain ⟨_, rfl⟩ := lastNamedName last
        simp [inside, Option.filter_some, named]
    · rw [lastNamedAppend, lastNamedAbsent inside, Option.or_none]
      cases last : lastNamed? name later with
      | none => simp
      | some theme =>
        obtain ⟨_, rfl⟩ := lastNamedName last
        simp [inside, Option.filter_some, named]

theorem summariesTwice (themes : List Theme) : summaries (themes ++ themes) = summaries themes := by
  have kept : (summaries themes).map (shadowed themes) = summaries themes := by
    refine (List.map_congr_left fun summary inside => ?_).trans (List.map_id _)
    obtain ⟨theme, last, sums⟩ := summaryLast.mp inside
    rw [shadowed, last]
    exact sums
  have nothing : (summaries themes).filter (fun summary => summary.name ∉ themeNames themes) = [] := by
    rw [List.filter_eq_nil_iff]
    intro summary inside
    obtain ⟨theme, member, named⟩ := ((summariesListing themes).names _).mp ⟨summary, inside, rfl⟩
    have old : summary.name ∈ themeNames themes := List.mem_map.mpr ⟨theme, member, named⟩
    simpa using old
  rw [summariesAppend, kept, nothing, List.append_nil]

structure Shelved (files : FileTree) (directory : Path) (paths : List Path) : Prop where
  ordered : paths.Pairwise fun first second => first.name < second.name
  entries : ∀ path, path ∈ paths ↔ ∃ location name, files.locate directory = .ok location ∧
    files.entry? location = some .directory ∧ files.entry? (location ++ [name]) ≠ none ∧
    isThemeName name = true ∧ path = directory.child name

theorem themeFilesShelved (files : FileTree) (directory : Path) :
    Shelved files directory (themeFiles files directory) := by
  cases there : files.isDirectory directory with
  | false =>
    rw [themeFilesNone there]
    refine ⟨List.Pairwise.nil, fun path => ⟨fun inside => absurd inside List.not_mem_nil, ?_⟩⟩
    intro entry
    obtain ⟨location, name, leads, stands, _⟩ := entry
    rw [isDirectoryOf leads stands] at there
    contradiction
  | true =>
    obtain ⟨location, leads, stands⟩ := directoryOfLookup there
    rw [themeFilesLocated leads stands]
    constructor
    · have strict : (files.names location).Pairwise fun first second => first < second := by
        refine ((namesOrdered files location).and (namesDistinct files location)).imp fun both => ?_
        obtain ⟨before, differs⟩ := both
        exact Std.lt_of_le_of_ne before differs
      refine List.pairwise_map.mpr ((strict.filter _).imp fun before => ?_)
      rwa [nameChild, nameChild]
    · intro path
      rw [List.mem_map]
      constructor
      · intro listed
        obtain ⟨name, inside, rfl⟩ := listed
        obtain ⟨member, named⟩ := List.mem_filter.mp inside
        exact ⟨location, name, leads, stands, memberName.mp member, named, rfl⟩
      · intro entry
        obtain ⟨other, name, found, _, present, named, rfl⟩ := entry
        rw [leads] at found
        cases found
        exact ⟨name, List.mem_filter.mpr ⟨memberName.mpr present, named⟩, rfl⟩

def SameDirectory (files : FileTree) (first second : Path) : Prop :=
  first = second ∨ ∃ location, files.locate first = .ok location ∧ files.locate second = .ok location ∧
    ∀ name ∈ files.names location, refused? (first.child name) = none ∧ refused? (second.child name) = none

theorem loadSame {files : FileTree} {first second : Path} (leads : files.lookup first = files.lookup second)
    (stem : first.stem = second.stem) : load? files first = load? files second := by
  by_cases file : ∃ text, files.lookup first = .ok (.file text)
  · obtain ⟨text, found⟩ := file
    rw [loadFile found, loadFile (leads ▸ found), stem]
  · have nothing (text : String) : files.lookup first ≠ .ok (.file text) := fun found => file ⟨text, found⟩
    rw [loadNoFile nothing, loadNoFile (leads ▸ nothing)]

theorem themesInSame {files : FileTree} {first second : Path} (same : SameDirectory files first second) :
    themesIn files first = themesIn files second := by
  rcases same with rfl | ⟨location, leads, leads', accepted⟩
  · rfl
  have looks : files.lookup first = files.lookup second := by
    rw [lookupLocated leads, lookupLocated leads']
  have loads : (themeFiles files first).mapM (load? files) = (themeFiles files second).mapM (load? files) := by
    cases there : files.isDirectory first with
    | false =>
      have there' : files.isDirectory second = false := by rwa [isDirectory, ← looks]
      rw [themeFilesNone there, themeFilesNone there']
    | true =>
      obtain ⟨base, found, stands⟩ := directoryOfLookup there
      rw [leads] at found
      cases found
      rw [themeFilesLocated leads stands, themeFilesLocated leads' stands, List.mapM_map, List.mapM_map]
      refine mapMCongr fun name inside => ?_
      obtain ⟨child, child'⟩ := accepted name (List.mem_filter.mp inside).1
      have below : files.locate (first.child name) = files.locate (second.child name) := by
        rw [locateChild child (walkOfLocate leads), locateChild child' (walkOfLocate leads')]
      exact loadSame (by rw [lookup, below]; rfl) (Path.stemChild _ _ _)
  cases there : files.entry? location with
  | none =>
    have missing (path : Path) (leads : files.locate path = .ok location) : files.exists? path = .ok false := by
      rw [exists?, lookupLocated leads, there]
    rw [themesInExists, themesInExists, missing first leads, missing second leads', loads]
  | some entry =>
    have present (path : Path) (leads : files.locate path = .ok location) : files.exists? path = .ok true := by
      rw [exists?, lookupLocated leads, there]
    rw [themesInExists, themesInExists, present first leads, present second leads', loads]

theorem themesInMissing {files : FileTree} {directory : Path} (missing : files.exists? directory = .ok false) :
    themesIn files directory = .ok [] := by
  rw [themesInExists, missing, themeFilesNone (otherOfAbsent missing)]
  rfl

def withoutProject (store : ThemeStore) : ThemeStore :=
  { store with project? := none }

theorem listAlone (files : FileTree) (store : ThemeStore) :
    list files store.withoutProject = (themesIn files store.library).map summaries := by
  rw [listThemes]
  change ([store.library].mapM (themesIn files)).map (fun found => summaries found.flatten) = _
  rw [List.mapM_cons, List.mapM_nil]
  cases themesIn files store.library with
  | error failure => rfl
  | ok themes => exact congrArg (fun found => Except.ok (summaries found)) (List.append_nil themes)

theorem listBoth {files : FileTree} {store : ThemeStore} {project : Path} (configured : store.project? = some project) :
    list files store = (do
      let themes ← themesIn files store.library
      let own ← themesIn files project
      pure (summaries (themes ++ own))) := by
  rw [listThemes, directories, configured]
  simp only [Option.toList, List.mapM_cons, List.mapM_nil]
  cases themesIn files store.library with
  | error failure => rfl
  | ok themes =>
    cases themesIn files project with
    | error failure => rfl
    | ok own => simp [Except.map, bind, Except.bind, pure, Except.pure]

theorem listProjectMissing {files : FileTree} {store : ThemeStore} {project : Path}
    (configured : store.project? = some project) (missing : files.exists? project = .ok false) :
    list files store = list files store.withoutProject := by
  rw [listBoth configured, listAlone, themesInMissing missing]
  cases themesIn files store.library <;> simp [Except.map, bind, Except.bind, pure, Except.pure]

theorem listProjectSame {files : FileTree} {store : ThemeStore} {project : Path}
    (configured : store.project? = some project) (same : SameDirectory files store.library project) :
    list files store = list files store.withoutProject := by
  rw [listBoth configured, listAlone, ← themesInSame same]
  cases themesIn files store.library <;> simp [Except.map, bind, Except.bind, pure, Except.pure, summariesTwice]

theorem listLibraryMissing {files : FileTree} {store : ThemeStore} {project : Path}
    (configured : store.project? = some project) (missing : files.exists? store.library = .ok false) :
    list files store = list files { store with library := project, project? := none } := by
  have only := listAlone files { store with library := project }
  rw [listBoth configured, themesInMissing missing]
  refine Eq.trans ?_ only.symm
  cases themesIn files project <;> rfl

theorem listProjectShadows {files : FileTree} {store : ThemeStore} {project : Path} {found : List Theme.Summary}
    (configured : store.project? = some project) (lists : list files store = .ok found) :
    ∃ alone new, list files store.withoutProject = .ok alone ∧
      found = alone.map (shadowed ((themeFiles files project).filterMap (loaded? files))) ++ new ∧
      ∀ summary ∈ new, summary.name ∉ alone.map Theme.Summary.name := by
  rw [listBoth configured] at lists
  obtain ⟨themes, first, lists⟩ := bindOk lists
  obtain ⟨own, second, lists⟩ := bindOk lists
  cases lists
  rw [listAlone, first, themesInOk files project own second, summariesAppend]
  refine ⟨_, _, rfl, rfl, fun summary inside => ?_⟩
  rw [summariesNames, List.mem_eraseDups]
  exact of_decide_eq_true (List.mem_filter.mp inside).2

/- A listing has every name of a theme file once, where its first file stands, and what its last file says. -/
theorem listShadowed {files : FileTree} {store : ThemeStore} {found : List Theme.Summary}
    (lists : list files store = .ok found) :
    (∀ directory ∈ store.directories, Shelved files directory (themeFiles files directory)) ∧
    Listing ((store.shelf files).filterMap (loaded? files)) found ∧
    (found.map Theme.Summary.name).Nodup ∧
    ∀ project, store.project? = some project →
      (∃ alone new, list files store.withoutProject = .ok alone ∧
        found = alone.map (shadowed ((themeFiles files project).filterMap (loaded? files))) ++ new ∧
        ∀ summary ∈ new, summary.name ∉ alone.map Theme.Summary.name) ∧
      (files.exists? project = .ok false ∨ SameDirectory files store.library project →
        list files store.withoutProject = .ok found) ∧
      (files.exists? store.library = .ok false →
        list files { store with library := project, project? := none } = .ok found) := by
  have listing := summariesListing ((store.shelf files).filterMap (loaded? files))
  rw [← listOk lists] at listing
  refine ⟨fun directory _ => themeFilesShelved files directory, listing, listingDistinct listing, ?_⟩
  intro project configured
  refine ⟨listProjectShadows configured lists, ?_, fun missing => ?_⟩
  · rintro (missing | same)
    · rw [← listProjectMissing configured missing, lists]
    · rw [← listProjectSame configured same, lists]
  · rw [← listLibraryMissing configured missing, lists]

theorem listShadowedByProject :
    let files : FileTree := ⟨.ofList [(["lib"], .directory), (["lib", "b.yaml"], .file "name: a\nspacing_unit: 2"),
      (["p"], .directory), (["p", "c.yaml"], .file "name: a\nspacing_unit: 8")], []⟩
    let store : ThemeStore := .fresh ⟨.root, ["lib"]⟩ (some ⟨.root, ["p"]⟩)
    let found := [{ Theme.builtIn with name := "a", spacingUnit := 8 }.summary]
    list files store = .ok found ∧ Listing ((store.shelf files).filterMap (loaded? files)) found ∧
      (found.map Theme.Summary.name).Nodup := by
  intro files store found
  have lists : list files store = .ok found := okOfOption (by decide +kernel)
  have all := listShadowed lists
  exact ⟨lists, all.2.1, all.2.2.1⟩

end UtilityLayout.ThemeStore
