import UtilityLayout.Proofs.Files.Walk

/-! Directories made along a path. If the path goes straight on from where the directories end, either nothing
changes, or the path leads to a directory afterwards and all that is new are directories where nothing was. -/
namespace UtilityLayout.FileTree
open FileError (Cause)

structure Opened (t made : FileTree) (path : Path) (location : Location) : Prop where
  grown : Grown t made
  leads : made.locate path = .ok location
  directory : made.entry? location = some .directory
  before : made = t ∨ t.entry? location = none ∧
    (t.locate path = .ok location ∨ t.locate path = .error .missing)
  fresh : ∀ other, made.entry? other = t.entry? other ∨
    t.entry? other = none ∧ made.entry? other = some .directory

def Ensured (t : FileTree) (path : Path) (result : FileTree × Option FileError) : Prop :=
  (result.1 = t ∧ result.2 ≠ none) ∨
    (result.2 = none ∧ ∃ location, Opened t result.1 path location)

theorem directoryOfLookup {t : FileTree} {path : Path} (directory : t.isDirectory path = true) :
    ∃ location, t.locate path = .ok location ∧ t.entry? location = some .directory := by
  unfold isDirectory at directory
  split at directory
  · rename_i leads
    exact locateOfLookup leads
  · contradiction

theorem isDirectoryOf {t : FileTree} {path : Path} {location : Location}
    (leads : t.locate path = .ok location) (directory : t.entry? location = some .directory) :
    t.isDirectory path = true := by
  rw [isDirectory, lookupLocated leads, directory]

theorem makeDirectoryLocated {t : FileTree} {path : Path} {location : Location}
    (leads : t.locate path = .ok location) :
    t.makeDirectory path = match t.entry? location with
      | some _ => .error .present
      | none => .ok (t.set location .directory) := by
  cases found : t.entry? location <;> simp only [makeDirectory, leads, found]

theorem makeDirectoryOk {t made : FileTree} {path : Path} (makes : t.makeDirectory path = .ok made) :
    ∃ location, t.locate path = .ok location ∧ t.entry? location = none ∧
      made = t.set location .directory := by
  cases leads : t.locate path with
  | error cause =>
    rw [makeDirectory, leads] at makes
    contradiction
  | ok location =>
    rw [makeDirectoryLocated leads] at makes
    split at makes
    · contradiction
    · rename_i absent
      cases makes
      exact ⟨location, rfl, absent, rfl⟩

theorem openedAlready {t : FileTree} {path : Path} {location : Location}
    (leads : t.locate path = .ok location) (directory : t.entry? location = some .directory) :
    Opened t t path location :=
  ⟨⟨rfl, fun _ _ => id⟩, leads, directory, .inl rfl, fun _ => .inl rfl⟩

theorem setFresh {t : FileTree} {location : Location} (absent : t.entry? location = none)
    (other : Location) :
    entry? (t.set location .directory) other = t.entry? other ∨
      t.entry? other = none ∧ entry? (t.set location .directory) other = some .directory := by
  rw [entrySet t (notRootOfAbsent absent)]
  split
  · rename_i same
    exact .inr ⟨same ▸ absent, rfl⟩
  · exact .inl rfl

theorem ensureDirectoryEnsured (t : FileTree) (path : Path) :
    Ensured t path (t.ensureDirectory path) := by
  unfold ensureDirectory
  split
  · rename_i made makes
    obtain ⟨location, leads, absent, rfl⟩ := makeDirectoryOk makes
    have grown := grownSet absent .directory
    have directory : entry? (t.set location .directory) location = some .directory := by
      rw [entrySet t (notRootOfAbsent absent), if_pos rfl]
    exact .inr ⟨rfl, location, grown, locateGrown grown leads, directory,
      .inr ⟨absent, .inl leads⟩, setFresh absent⟩
  · split
    · rename_i there
      simp only [Bool.and_eq_true] at there
      obtain ⟨location, leads, directory⟩ := directoryOfLookup there.2
      exact .inr ⟨rfl, location, openedAlready leads directory⟩
    · exact .inl ⟨rfl, Option.some_ne_none _⟩

theorem ensureDirectoryAlready {t : FileTree} {path : Path} {location : Location}
    (leads : t.locate path = .ok location) (directory : t.entry? location = some .directory) :
    t.ensureDirectory path = (t, none) := by
  have there := isDirectoryOf leads directory
  simp only [ensureDirectory, makeDirectoryLocated leads, directory, there]
  rfl

theorem locateChild {t : FileTree} {path : Path} {name : String} {location : Location}
    (accepted : refused? (path.child name) = none) (leads : t.walk path = .ok location) :
    t.locate (path.child name) = t.step location name := by
  rw [locateWalk accepted, walkChild, leads]

theorem ensureDirectoriesAlready {t : FileTree} {path : Path} {location : Location}
    (leads : t.locate path = .ok location) (directory : t.entry? location = some .directory) :
    t.ensureDirectories path = (t, none) := by
  have already := ensureDirectoryAlready leads directory
  have same : path.parts = path.parts.reverse.reverse := by rw [List.reverse_reverse]
  unfold ensureDirectories
  cases parts : path.parts.reverse with
  | nil =>
    rw [parts] at same
    rw [ensureParts, ← already]
    exact congrArg t.ensureDirectory (congrArg (Path.mk path.anchor) same.symm)
  | cons last parents =>
    rw [parts] at same
    rw [ensureParts, ← same]
    simp only [makeDirectoryLocated leads, directory, already]

end UtilityLayout.FileTree
