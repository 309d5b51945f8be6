import UtilityLayout.Proofs.Store.Naming
import UtilityLayout.Proofs.Store.Outcomes

/-! Theme names and the files they reach. A name without a slash reaches one entry in each directory, and that stands
directly inside: no other file is read for it, and a copy of it is made nowhere else. A slash in the name leads
anywhere. -/
namespace UtilityLayout
open FileTree ThemeStore

namespace FileTree

def Inside (t : FileTree) (directory : Path) (name : String) (location : Location) : Prop :=
  ∃ base, t.locate directory = .ok base ∧ t.entry? base = some .directory ∧ location = base ++ [name]

theorem textChild (path : Path) (name : String) :
    path.text.utf8ByteSize < pathLimit ∨ path.text.utf8ByteSize ≤ (path.child name).text.utf8ByteSize := by
  obtain ⟨anchor, parts⟩ := path
  cases parts with
  | nil =>
    left
    cases anchor <;> decide
  | cons first rest =>
    right
    have joined : "/".intercalate (first :: (rest ++ [name])) =
        "/".intercalate (first :: rest) ++ "/" ++ "/".intercalate [name] :=
      String.intercalate_append_of_ne_nil (List.cons_ne_nil first rest) (List.cons_ne_nil name [])
    simp only [Path.text, Path.child, List.cons_append, List.isEmpty_cons, Bool.and_false, Bool.false_eq_true,
      if_false, joined, String.utf8ByteSize_append]
    omega

theorem acceptedParent {path : Path} {name : String} (accepted : refused? (path.child name) = none) :
    refused? path = none := by
  have clean : ¬HasNull path := fun null => acceptedNoNull accepted ((hasNullChild path name).mpr (.inl null))
  unfold HasNull at clean
  unfold refused? at accepted ⊢
  rw [if_neg clean, if_neg]
  split at accepted
  · contradiction
  · split at accepted
    · contradiction
    · rename_i short
      rcases textChild path name with small | below
      · exact Nat.not_le_of_lt small
      · exact fun long => short (Nat.le_trans long below)

theorem insideOfLocate {t : FileTree} {directory : Path} {name : String} {location : Location}
    (leads : t.locate (directory.child name) = .ok location) (down : name ≠ "..") :
    Inside t directory name location := by
  obtain ⟨accepted, _, base, walks, there, here⟩ := locateChildOk leads down
  exact ⟨base, by rw [locateWalk (acceptedParent accepted), walks], there, here⟩

theorem insideGrown {t s : FileTree} (grown : Grown t s) {directory : Path} {name : String} {location : Location}
    (inside : Inside t directory name location) : Inside s directory name location := by
  obtain ⟨base, leads, there, here⟩ := inside
  exact ⟨base, locateGrown grown leads, grown.2 _ _ there, here⟩

end FileTree

namespace ThemeStore

theorem loadedStored {files : FileTree} {path : Path} {theme : Theme} (loads : loaded? files path = some theme) :
    ∃ text, files.lookup path = .ok (.file text) ∧ ofStored text path.stem = .ok theme := by
  obtain ⟨text, leads⟩ := loadedFile loads
  rw [loadedRead, readTheme, FileTree.readText, FileTree.read, leads] at loads
  exact ⟨text, leads, loads⟩

theorem candidatesPlain {name : String} (plain : Plain name) (store : ThemeStore) {path : Path}
    (candidate : path ∈ store.candidates name) :
    ∃ directory ∈ store.directories, path = directory.child (fileName name) := by
  obtain ⟨directory, inside, rfl⟩ := List.mem_map.mp candidate
  refine ⟨directory, ?_, fileOfPlain plain directory⟩
  rw [directories, List.mem_cons]
  exact (List.mem_append.mp inside).symm.imp_left List.mem_singleton.mp

theorem findInside {files : FileTree} {store : ThemeStore} {name : String} {theme : Theme} (plain : Plain name)
    (uncached : store.cache.find? name = none) (finds : find? files store name = .ok (some theme)) :
    ∃ directory ∈ store.directories, ∃ location text, Inside files directory (fileName name) location ∧
      files.entry? location = some (.file text) ∧
      ofStored text (directory.child (fileName name)).stem = .ok theme := by
  rw [find?, uncached] at finds
  obtain ⟨path, candidate, loads⟩ := List.exists_of_findSome?_eq_some (firstThemeLoaded finds).symm
  obtain ⟨directory, inside, rfl⟩ := candidatesPlain plain store candidate
  obtain ⟨text, leads, stored⟩ := loadedStored loads
  obtain ⟨location, located, file⟩ := locateOfLookup leads
  exact ⟨directory, inside, location, text, insideOfLocate located (fileNameDown name), file, stored⟩

theorem probeShape {t s : FileTree} (shape : SameShape t s) {path : Path}
    (agree : ∀ location, t.locate path = .ok location → s.entry? location = t.entry? location) :
    probe s path = probe t path := by
  have same := locateShape shape path
  cases leads : t.locate path with
  | error cause =>
    rw [leads] at same
    rw [probeUnlocated leads, probeUnlocated same]
  | ok location =>
    rw [leads] at same
    rw [probeLocated leads, probeLocated same, told, told, agree location leads]

theorem findShape {t s : FileTree} {store : ThemeStore} {name : String} (plain : Plain name) (shape : SameShape t s)
    (agree : ∀ directory ∈ store.directories, ∀ location, Inside t directory (fileName name) location →
      s.entry? location = t.entry? location) : find? s store name = find? t store name := by
  unfold find?
  cases store.cache.find? name with
  | some theme => rfl
  | none =>
    refine firstThemeProbes fun path candidate => ?_
    obtain ⟨directory, inside, rfl⟩ := candidatesPlain plain store candidate
    refine probeShape shape fun location leads => ?_
    exact agree directory inside location (insideOfLocate leads (fileNameDown name))

end ThemeStore

namespace Workspace
variable {w : Workspace} {name : String}

structure CopyMade (w : Workspace) (after : FileTree) (project : Path) (name : String) (location : Location) :
    Prop where
  inside : Inside after project (fileName name) location
  absent : w.files.entry? location = none
  original : ∃ source text, Inside w.files w.themes.library (fileName name) source ∧
    w.files.entry? source = some (.file text) ∧
    after.entry? location = some (.file (String.ofList (normalizeNewlines text.toList)))
  others : ∀ other, other ≠ location → after.entry? other = w.files.entry? other ∨
    w.files.entry? other = none ∧ after.entry? other = some .directory

def CopyKept (w : Workspace) (name : String) (result : Except Failure (Option Path)) (after : FileTree) : Prop :=
  (Spread w.files after ∧ ∀ path, result ≠ .ok (some path)) ∨
    ∃ project location, w.themes.project? = some project ∧
      result = .ok (some (project.child (fileName name))) ∧ CopyMade w after project name location

theorem copyKept (plain : Plain name) (w : Workspace) :
    CopyKept w name (w.copy name).1 (w.copy name).2.files := by
  by_cases copies : ∃ path, (w.copy name).1 = .ok (some path)
  · obtain ⟨path, copies⟩ := copies
    obtain ⟨project, made, location, stored, done⟩ := copyDone copies
    have down := fileNameDown name
    have paved := donePaved done
    obtain ⟨source, located, here⟩ := locateOfLookup done.original
    have leads := done.leads
    rw [done.named] at copies leads
    rw [fileOfPlain plain] at copies located leads
    refine .inr ⟨project, location, done.configured, copies, ?_⟩
    exact {
      inside := by
        rw [done.result]
        exact insideGrown (grownSet done.nothing _) (insideOfLocate leads down)
      absent := doneAbsent done
      original := by
        refine ⟨source, stored, insideOfLocate located down, here, ?_⟩
        rw [doneEntry done, if_pos rfl]
      others := by
        intro other differs
        rw [doneEntry done, if_neg differs]
        exact (pavedSpread paved).2 other }
  · have fails := not_exists.mp copies
    exact .inl ⟨stoppedSpread (copyStopped fails), fails⟩

theorem copyFileShape {t s : FileTree} (shape : SameShape t s) (w : Workspace) (name : String)
    (source target : Path) :
    (copyFile { w with files := s } name source target).1 =
      (copyFile { w with files := t } name source target).1 := by
  unfold copyFile
  dsimp only
  rw [existsShape shape]
  split
  · rfl
  · rfl
  · rcases readShape shape source with ⟨failure, first, second⟩ | ⟨text, other, first, second⟩
    · rw [first, second]
    · have written := writeShape shape target text other
      rw [first, second]
      dsimp only
      generalize t.write target text = before, s.write target other = after at written
      cases written <;> rfl

theorem copyShape {files : FileTree} (shape : SameShape w.files files) (name : String) :
    (copy { w with files } name).1 = (w.copy name).1 := by
  unfold copy
  dsimp only
  split
  · rfl
  · rename_i project configured
    rw [existsShape shape]
    split
    · rfl
    · rfl
    · have made := ensureDirectoriesShape shape project
      rcases first : w.files.ensureDirectories project with ⟨before, failed⟩
      rcases second : files.ensureDirectories project with ⟨after, again⟩
      rw [first, second] at made
      obtain ⟨below, same⟩ := made
      cases same
      cases failed with
      | some cause => rfl
      | none => exact congrArg (Except.map some) (copyFileShape below w name _ _)

/- A name without a slash: the theme that is found for it is an entry directly inside a directory, and what any other
file says is not noticed; a copy is made from an entry directly inside the library to one directly inside the project,
and all else that is new are directories. -/
theorem namesConfined {name : String} (plain : Plain name) (w : Workspace) :
    (∀ theme, w.themes.cache.find? name = none → (w.get name).1 = .ok (some theme) →
      ∃ directory ∈ w.themes.directories, ∃ location text, Inside w.files directory (fileName name) location ∧
        w.files.entry? location = some (.file text) ∧
        ofStored text (directory.child (fileName name)).stem = .ok theme) ∧
    (∀ files, SameShape w.files files →
      (∀ directory ∈ w.themes.directories, ∀ location, Inside w.files directory (fileName name) location →
        files.entry? location = w.files.entry? location) →
      (get { w with files } name).1 = (w.get name).1) ∧
    CopyKept w name (w.copy name).1 (w.copy name).2.files ∧
    ∀ files, SameShape w.files files → (copy { w with files } name).1 = (w.copy name).1 := by
  refine ⟨?_, ?_, copyKept plain w, fun files shape => copyShape shape name⟩
  · intro theme uncached finds
    exact findInside plain uncached finds
  · intro files shape agree
    exact findShape plain shape agree

theorem namesConfinedLibrary :
    let files : FileTree := ⟨.ofList [(["lib"], .directory), (["lib", "t.yaml"], .file "spacing_unit: 2")], []⟩
    let w : Workspace := ⟨files, .fresh ⟨.root, ["lib"]⟩ (some ⟨.root, ["p", "q"]⟩)⟩
    let theme : Theme := { Theme.builtIn with name := "t", spacingUnit := 2 }
    (w.get "t").1 = .ok (some theme) ∧
      (∃ directory ∈ w.themes.directories, ∃ location text, Inside w.files directory "t.yaml" location ∧
        w.files.entry? location = some (.file text) ∧ ofStored text (directory.child "t.yaml").stem = .ok theme) ∧
      CopyKept w "t" (w.copy "t").1 (w.copy "t").2.files := by
  intro files w theme
  have plain : Plain "t" := by unfold Plain; decide
  have finds : (w.get "t").1 = .ok (some theme) := okOfOption (by decide +kernel)
  have confined := namesConfined plain w
  exact ⟨finds, confined.1 theme rfl finds, confined.2.2.1⟩

theorem namesNotConfined :
    ∃ (w : Workspace) (project : Path) (theme : Theme) (path : Path) (text : String),
      w.themes.cache = ∅ ∧ w.themes.project? = some project ∧
      (∀ directory ∈ w.themes.directories, ∀ name location text, Inside w.files directory name location →
        w.files.entry? location ≠ some (.file text)) ∧
      (w.get "../t").1 = .ok (some theme) ∧ (w.copy "../t").1 = .ok (some path) ∧
      w.files.entry? ["p", "t.yaml"] = none ∧
      (w.copy "../t").2.files.entry? ["p", "t.yaml"] = some (.file text) ∧
      ∀ name, ¬Inside (w.copy "../t").2.files project name ["p", "t.yaml"] := by
  let files : FileTree := ⟨.ofList [(["lib"], .directory), (["t.yaml"], .file "name: secret")], []⟩
  let w : Workspace := ⟨files, .fresh ⟨.root, ["lib"]⟩ (some ⟨.root, ["p", "q"]⟩)⟩
  let theme : Theme := { Theme.builtIn with name := "secret" }
  have finds : (w.get "../t").1 = .ok (some theme) := okOfOption (by decide +kernel)
  have copied : (w.copy "../t").1 = .ok (some ⟨.root, ["p", "q", "..", "t.yaml"]⟩) := okOfOption (by decide +kernel)
  refine ⟨w, _, theme, _, "name: secret", rfl, rfl, ?_, finds, copied, rfl, by decide +kernel, ?_⟩
  · intro directory inside name location text stands
    obtain ⟨base, leads, there, rfl⟩ := stands
    rcases List.mem_cons.mp inside with rfl | inside
    · cases leads
      have nothing : w.files.entry? (["lib"] ++ [name]) = none := rfl
      exact fun file => Option.some_ne_none _ (file.symm.trans nothing)
    · cases List.mem_singleton.mp inside
      contradiction
  · intro name stands
    obtain ⟨base, leads, there, here⟩ := stands
    have project : (w.copy "../t").2.files.locate ⟨.root, ["p", "q"]⟩ = .ok ["p", "q"] :=
      okOfOption (by decide +kernel)
    rw [project] at leads
    cases leads
    simp at here

end Workspace
end UtilityLayout
