import UtilityLayout.Proofs.Files.Walk
import UtilityLayout.Proofs.Results
import UtilityLayout.Store.Basic

/-! What one file gives a lookup. It depends on nothing but what the file's path leads to: a file is read, a
directory and a path that leads nowhere give nothing, and only a path that is too long fails by itself. -/
namespace UtilityLayout.ThemeStore

def ofStored (text fileName : String) : Except Failure Theme := do
  let text := String.ofList (FileTree.normalizeNewlines text.toList)
  let data ← (Yaml.read text).mapError .document
  (Theme.ofDocument (if data.isAbsent then .map [] else data) fileName).mapError .theme

def passOver : Except Failure Theme → Except Failure (Option Theme)
  | .ok theme => .ok (some theme)
  | .error failure => if failure.isPassedOver then .ok none else .error failure

def probe (files : FileTree) (path : Path) : Except Failure (Option Theme) :=
  match files.lookup path with
  | .ok (.file text) => passOver (ofStored text path.stem)
  | .error .nameTooLong => .error (.file ⟨.nameTooLong, path⟩)
  | _ => .ok none

def loaded? (files : FileTree) (path : Path) : Option Theme :=
  match load? files path with
  | .ok found => found
  | .error _ => none

def told (files : FileTree) (location : Location) (fileName : String) :
    Except Failure (Option Theme) :=
  match files.entry? location with
  | some (.file text) => passOver (ofStored text fileName)
  | _ => .ok none

theorem toldFile {files : FileTree} {location : Location} {text : String}
    (found : files.entry? location = some (.file text)) (fileName : String) :
    told files location fileName = passOver (ofStored text fileName) := by
  simp only [told, found]

theorem probeLocated {files : FileTree} {path : Path} {location : Location}
    (leads : files.locate path = .ok location) :
    probe files path = told files location path.stem := by
  unfold probe told
  rw [FileTree.lookupLocated leads]
  cases files.entry? location with
  | none => rfl
  | some entry => cases entry <;> rfl

theorem probeUnlocated {files : FileTree} {path : Path} {cause : FileError.Cause}
    (fails : files.locate path = .error cause) :
    probe files path =
      if cause = .nameTooLong then .error (.file ⟨.nameTooLong, path⟩) else .ok none := by
  rw [probe, FileTree.lookupUnlocated fails]
  cases cause <;> rfl

theorem loadPassOver (files : FileTree) (path : Path) :
    load? files path = passOver (readTheme files path) := by
  unfold load?
  cases readTheme files path <;> rfl

theorem loadFile {files : FileTree} {path : Path} {text : String}
    (leads : files.lookup path = .ok (.file text)) :
    load? files path = passOver (ofStored text path.stem) := by
  rw [loadPassOver, readTheme, FileTree.readText, FileTree.read, leads]
  simp only [Except.map, mapErrorOk, bind, Except.bind, ofStored]

theorem loadNoFile {files : FileTree} {path : Path}
    (leads : ∀ text, files.lookup path ≠ .ok (.file text)) : load? files path = .ok none := by
  rw [loadPassOver, readTheme, FileTree.readText, FileTree.read]
  cases same : files.lookup path with
  | error cause => rfl
  | ok entry =>
    cases entry with
    | file text => exact absurd same (leads text)
    | directory => rfl

theorem firstThemeProbe (files : FileTree) (path : Path) (rest : List Path) :
    firstTheme? files (path :: rest) = match probe files path with
      | .ok none => firstTheme? files rest
      | found => found := by
  rw [firstTheme?, FileTree.exists?, probe]
  cases leads : files.lookup path with
  | error cause => cases cause <;> rfl
  | ok entry =>
    cases entry with
    | file text =>
      simp only [mapErrorOk, bind, Except.bind, if_pos, loadFile leads]
      cases passOver (ofStored text path.stem) with
      | error failure => rfl
      | ok found => cases found <;> rfl
    | directory =>
      have nothing : load? files path = .ok none := loadNoFile (by simp [leads])
      simp only [mapErrorOk, bind, Except.bind, if_pos, nothing]

theorem firstThemeLast (files : FileTree) (path : Path) :
    firstTheme? files [path] = probe files path := by
  rw [firstThemeProbe]
  split
  · rename_i nothing
    exact nothing.symm
  · rfl

theorem firstThemePair (files : FileTree) (first second : Path) :
    firstTheme? files [first, second] = match probe files first with
      | .ok none => probe files second
      | found => found := by
  rw [firstThemeProbe, firstThemeLast]

theorem probeCongr {files other : FileTree} {path : Path}
    (same : other.lookup path = files.lookup path) : probe other path = probe files path := by
  rw [probe, probe, same]

theorem firstThemeProbes {files other : FileTree} {paths : List Path}
    (same : ∀ path ∈ paths, probe other path = probe files path) :
    firstTheme? other paths = firstTheme? files paths := by
  induction paths with
  | nil => rfl
  | cons path rest ih =>
    rw [firstThemeProbe, firstThemeProbe, same path List.mem_cons_self,
      ih fun other member => same other (List.mem_cons_of_mem _ member)]

theorem firstThemeCongr {files other : FileTree} {paths : List Path}
    (same : ∀ path ∈ paths, other.lookup path = files.lookup path) :
    firstTheme? other paths = firstTheme? files paths :=
  firstThemeProbes fun path member => probeCongr (same path member)

theorem probeLoaded {files : FileTree} {path : Path} {found : Option Theme}
    (returns : probe files path = .ok found) : loaded? files path = found := by
  unfold probe at returns
  unfold loaded?
  split at returns
  · rename_i text leads
    rw [loadFile leads, returns]
  · contradiction
  · rename_i noFile _
    cases returns
    rw [loadNoFile noFile]

theorem firstThemeLoaded {files : FileTree} {paths : List Path} {found : Option Theme}
    (returns : firstTheme? files paths = .ok found) : found = paths.findSome? (loaded? files) := by
  induction paths with
  | nil =>
    cases returns
    rfl
  | cons path rest ih =>
    rw [firstThemeProbe] at returns
    rw [List.findSome?_cons]
    split at returns
    · rename_i nothing
      rw [probeLoaded nothing]
      exact ih returns
    · rename_i something
      rw [probeLoaded returns]
      cases found with
      | none => exact absurd returns something
      | some theme => rfl

theorem findSomeCandidates {α : Type} (store : ThemeStore) (name : String) (f : Path → Option α) :
    (store.candidates name).findSome? f =
      (store.project?.bind fun project => f (fileOf project name)).or
        (f (fileOf store.library name)) := by
  obtain ⟨library, project?, cache⟩ := store
  have last : [fileOf library name].findSome? f = f (fileOf library name) := by
    rw [List.findSome?_cons]
    cases f (fileOf library name) <;> rfl
  cases project? with
  | none => exact last
  | some project =>
    change [fileOf project name, fileOf library name].findSome? f =
      (f (fileOf project name)).or (f (fileOf library name))
    rw [List.findSome?_cons, last]
    cases f (fileOf project name) <;> rfl

end UtilityLayout.ThemeStore
