import UtilityLayout.Proofs.Store.Probe
import UtilityLayout.Proofs.Theme.Defects

/-! What stops a listing or a lookup: a path that is too long, or a file that is a defective document. In all other
cases a listing summarises what loads, file by file. -/
namespace UtilityLayout.ThemeStore

def Breaking (text : String) : Prop :=
  match Yaml.read (String.ofList (FileTree.normalizeNewlines text.toList)) with
  | .error fault => fault ≠ .malformed ∧ fault ≠ .notTime
  | .ok data => Theme.Defective (if data.isAbsent then .map [] else data)

def Breaks (files : FileTree) (path : Path) : Prop :=
  ∃ text, files.lookup path = .ok (.file text) ∧ Breaking text

def directories (store : ThemeStore) : List Path :=
  store.library :: store.project?.toList

def shelf (files : FileTree) (store : ThemeStore) : List Path :=
  store.directories.flatMap (themeFiles files)

def summaries (themes : List Theme) : List Theme.Summary :=
  (Table.ofList (themes.map fun theme => (theme.name, theme.summary))).values

theorem passOverError (read : Except Failure Theme) :
    (∃ failure, passOver read = .error failure) ↔
      ∃ failure, read = .error failure ∧ failure.isPassedOver = false := by
  cases read with
  | ok theme =>
    constructor
    · rintro ⟨_, fails⟩
      cases fails
    · rintro ⟨_, fails, _⟩
      cases fails
  | error failure =>
    cases passed : failure.isPassedOver with
    | true =>
      simp only [passOver, passed, if_true]
      constructor
      · rintro ⟨_, fails⟩
        cases fails
      · rintro ⟨_, same, stops⟩
        cases same
        rw [passed] at stops
        contradiction
    | false =>
      simp only [passOver, passed]
      exact ⟨fun _ => ⟨failure, rfl, passed⟩, fun _ => ⟨failure, rfl⟩⟩

theorem storedStops (text fileName : String) :
    (∃ failure, passOver (ofStored text fileName) = .error failure) ↔ Breaking text := by
  rw [passOverError, Breaking]
  simp only [ofStored, bind, Except.bind]
  cases Yaml.read (String.ofList (FileTree.normalizeNewlines text.toList)) with
  | error fault =>
    simp [mapErrorError, Failure.isPassedOver]
  | ok data =>
    simp only [mapErrorOk]
    rw [← Theme.ofDocumentStops _ fileName]
    cases Theme.ofDocument (if data.isAbsent then .map [] else data) fileName with
    | ok theme => simp [mapErrorOk, Theme.stopsOk]
    | error cause => simp [mapErrorError, Theme.stopsError]

theorem loadBreaks (files : FileTree) (path : Path) :
    (∃ failure, load? files path = .error failure) ↔ Breaks files path := by
  by_cases file : ∃ text, files.lookup path = .ok (.file text)
  · obtain ⟨text, leads⟩ := file
    rw [loadFile leads, storedStops]
    constructor
    · intro breaking
      exact ⟨text, leads, breaking⟩
    · rintro ⟨same, found, breaking⟩
      rw [leads] at found
      cases found
      exact breaking
  · have nothing : load? files path = .ok none := loadNoFile fun text leads => file ⟨text, leads⟩
    rw [nothing]
    constructor
    · rintro ⟨_, fails⟩
      cases fails
    · rintro ⟨text, leads, _⟩
      exact absurd ⟨text, leads⟩ file

theorem probeExists (files : FileTree) (path : Path) :
    probe files path = match files.exists? path with
      | .error cause => .error (.file cause)
      | .ok _ => load? files path := by
  unfold probe FileTree.exists?
  cases leads : files.lookup path with
  | error cause =>
    have nothing : load? files path = .ok none := loadNoFile fun text found => by
      rw [leads] at found
      cases found
    cases cause <;> simp only [nothing]
  | ok entry =>
    cases entry with
    | file text => exact (loadFile leads).symm
    | directory =>
      exact (loadNoFile fun text found => by
        rw [leads] at found
        cases found).symm

theorem probeStops (files : FileTree) (path : Path) :
    (∃ failure, probe files path = .error failure) ↔
      (∃ cause, files.exists? path = .error cause) ∨ Breaks files path := by
  rw [probeExists, ← loadBreaks]
  cases there : files.exists? path with
  | error cause => exact ⟨fun _ => .inl ⟨cause, rfl⟩, fun _ => ⟨_, rfl⟩⟩
  | ok found => simp

theorem themeFilesLocated {files : FileTree} {directory : Path} {location : Location}
    (leads : files.locate directory = .ok location)
    (there : files.entry? location = some .directory) :
    themeFiles files directory = ((files.names location).filter isThemeName).map directory.child := by
  simp only [themeFiles, leads, there, if_true]

theorem themeFilesNone {files : FileTree} {directory : Path}
    (other : files.isDirectory directory = false) : themeFiles files directory = [] := by
  unfold themeFiles
  split
  · rfl
  · rename_i location leads
    split
    · rename_i there
      rw [FileTree.isDirectory, FileTree.lookupLocated leads, there] at other
      contradiction
    · rfl

theorem otherOfAbsent {files : FileTree} {directory : Path}
    (absent : files.exists? directory = .ok false) : files.isDirectory directory = false := by
  unfold FileTree.exists? at absent
  unfold FileTree.isDirectory
  split at absent <;> simp_all

theorem themesInExists (files : FileTree) (directory : Path) :
    themesIn files directory = match files.exists? directory with
      | .error cause => .error (.file cause)
      | .ok _ => ((themeFiles files directory).mapM (load? files)).map (List.filterMap id) := by
  unfold themesIn
  cases there : files.exists? directory with
  | error cause => rfl
  | ok found =>
    cases found with
    | false =>
      rw [themeFilesNone (otherOfAbsent there)]
      rfl
    | true =>
      simp only [mapErrorOk, bind, Except.bind, if_true]
      cases (themeFiles files directory).mapM (load? files) <;> rfl

theorem themesInError (files : FileTree) (directory : Path) :
    (∃ failure, themesIn files directory = .error failure) ↔
      (∃ cause, files.exists? directory = .error cause) ∨
        ∃ path ∈ themeFiles files directory, Breaks files path := by
  rw [themesInExists]
  cases there : files.exists? directory with
  | error cause => exact ⟨fun _ => .inl ⟨cause, rfl⟩, fun _ => ⟨_, rfl⟩⟩
  | ok found =>
    simp only [← loadBreaks, ← mapMError]
    cases (themeFiles files directory).mapM (load? files) <;> simp [Except.map]

theorem loadLoaded (files : FileTree) (path : Path) (found : Option Theme)
    (returns : load? files path = .ok found) : loaded? files path = found := by
  rw [loaded?, returns]

theorem themesInOk (files : FileTree) (directory : Path) (found : List Theme)
    (returns : themesIn files directory = .ok found) :
    (themeFiles files directory).filterMap (loaded? files) = found := by
  rw [themesInExists] at returns
  cases there : files.exists? directory with
  | error cause =>
    rw [there] at returns
    cases returns
  | ok _ =>
    rw [there] at returns
    cases all : (themeFiles files directory).mapM (load? files) with
    | error failure =>
      simp only [all, Except.map] at returns
      cases returns
    | ok loads =>
      simp only [all, Except.map] at returns
      cases returns
      rw [mapMOk (loadLoaded files) all, List.filterMap_map]
      rfl

theorem listThemes (files : FileTree) (store : ThemeStore) :
    list files store = (store.directories.mapM (themesIn files)).map fun found =>
      summaries found.flatten := by
  simp only [list, themes, directories, bind, Except.bind, pure, Except.pure]
  cases (store.library :: store.project?.toList).mapM (themesIn files) <;> rfl

theorem listError (files : FileTree) (store : ThemeStore) :
    (∃ failure, list files store = .error failure) ↔
      (∃ directory ∈ store.directories, ∃ cause, files.exists? directory = .error cause) ∨
        ∃ path ∈ store.shelf files, Breaks files path := by
  have fails : (∃ failure, list files store = .error failure) ↔
      ∃ directory ∈ store.directories, ∃ failure, themesIn files directory = .error failure := by
    rw [listThemes, ← mapMError]
    cases store.directories.mapM (themesIn files) <;> simp [Except.map]
  rw [fails]
  simp only [themesInError, shelf, List.mem_flatMap]
  constructor
  · rintro ⟨directory, inside, cause | ⟨path, file, breaks⟩⟩
    · exact .inl ⟨directory, inside, cause⟩
    · exact .inr ⟨path, ⟨directory, inside, file⟩, breaks⟩
  · rintro (⟨directory, inside, cause⟩ | ⟨path, ⟨directory, inside, file⟩, breaks⟩)
    · exact ⟨directory, inside, .inl cause⟩
    · exact ⟨directory, inside, .inr ⟨path, file, breaks⟩⟩

theorem listOk {files : FileTree} {store : ThemeStore} {found : List Theme.Summary}
    (returns : list files store = .ok found) :
    found = summaries ((store.shelf files).filterMap (loaded? files)) := by
  rw [listThemes] at returns
  cases all : store.directories.mapM (themesIn files) with
  | error failure =>
    rw [all] at returns
    cases returns
  | ok themes =>
    rw [all] at returns
    cases returns
    rw [mapMOk (themesInOk files) all, shelf, List.filterMap_flatMap, List.flatMap_def]

end UtilityLayout.ThemeStore
