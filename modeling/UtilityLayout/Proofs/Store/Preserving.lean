import UtilityLayout.Proofs.Store.Outcomes

/-! Copies leave what is there. However a copy ends, every file says afterwards what it said before, wherever the name
may lead. A copy that is made is one new file with the text of the original, line ends aside, and all else that is new
are directories on the way to the project. -/
namespace UtilityLayout
open FileTree ThemeStore

namespace FileTree

def followed (text : List Char) : List (Char × Option Char) :=
  text.zip (text.tail.map some ++ [none])

def unified (text : List Char) : List Char :=
  (followed text).filterMap fun (c, next?) =>
    if c = '\r' then if next? = some '\n' then none else some '\n' else some c

theorem followedCons (c : Char) (rest : List Char) : followed (c :: rest) = (c, rest.head?) :: followed rest := by
  cases rest <;> rfl

theorem normalizeUnified (text : List Char) : normalizeNewlines text = unified text := by
  induction text using normalizeNewlines.induct with
  | case1 rest ih => simp [normalizeNewlines, unified, followedCons, ih]
  | case2 rest lone ih =>
    have next : rest.head? ≠ some '\n' := by
      intro feed
      obtain ⟨tail, rfl⟩ := List.head?_eq_some_iff.mp feed
      exact lone tail rfl
    rw [normalizeNewlines, ih]
    · simp [unified, followedCons, next]
    · exact lone
  | case3 c rest pair lone ih =>
    have other : c ≠ '\r' := lone
    rw [normalizeNewlines, ih]
    · simp [unified, followedCons, other]
    · exact pair
    · exact lone
  | case4 => rfl

end FileTree

namespace Workspace
variable {w after : Workspace} {name : String} {path : Path}

structure NewFile (w after : Workspace) (name : String) (path project : Path) (location : Location) (text : String) :
    Prop where
  configured : w.themes.project? = some project
  named : path = fileOf project name
  original : w.files.read (fileOf w.themes.library name) = .ok text
  leads : after.files.locate path = .ok location
  absent : w.files.entry? location = none
  content : after.files.entry? location = some (.file (String.ofList (unified text.toList)))
  opened : after.files.isDirectory project = true
  others : ∀ other, other ≠ location → after.files.entry? other = w.files.entry? other ∨
    w.files.entry? other = none ∧ after.files.entry? other = some .directory ∧
      ∃ front, front <+: project.parts ∧ after.files.locate ⟨project.anchor, front⟩ = .ok other
  forgets : after.themes = { w.themes with cache := w.themes.cache.erase name }
  remembers : ∀ other, after.themes.cache.find? other = if other = name then none else w.themes.cache.find? other

theorem newFileOfDone {project : Path} {made : FileTree} {location : Location} {stored : String}
    (done : Done w name path after project made location stored) :
    NewFile w after name path project location stored := by
  have paved := donePaved done
  have grown : Grown made after.files := by
    rw [done.result]
    exact grownSet done.nothing _
  exact {
    configured := done.configured
    named := done.named
    original := by rw [FileTree.read, done.original]
    leads := locateGrown grown done.leads
    absent := doneAbsent done
    content := by rw [doneEntry done, if_pos rfl, normalizeUnified]
    opened := by
      obtain ⟨base, leads, there⟩ := directoryOfLookup (ensureDirectoriesOpens done.makes)
      exact isDirectoryOf (locateGrown grown leads) (grown.2 _ _ there)
    others := by
      intro other differs
      rw [doneEntry done, if_neg differs]
      rcases paved.2 other with same | ⟨absent, directory, front, before, leads⟩
      · exact .inl same
      · exact .inr ⟨absent, directory, front, before, locateGrown grown leads⟩
    forgets := by
      rw [done.result]
      rfl
    remembers := by
      intro other
      rw [done.result]
      exact Table.findErase _ _ _ }

theorem newFileGrown {project : Path} {location : Location} {text : String}
    (new : NewFile w after name path project location text) {other : Location} {entry : Entry}
    (there : w.files.entry? other = some entry) : after.files.entry? other = some entry := by
  have differs : other ≠ location := by
    rintro rfl
    rw [new.absent] at there
    contradiction
  rcases new.others other differs with same | ⟨absent, _⟩
  · rw [same, there]
  · rw [absent] at there
    contradiction

theorem copyPreserves (w : Workspace) (name : String) :
    (∀ location text, w.files.entry? location = some (.file text) →
      (w.copy name).2.files.entry? location = some (.file text)) ∧
    ∀ path, (w.copy name).1 = .ok (some path) →
      ∃ project location text, NewFile w (w.copy name).2 name path project location text := by
  have made (path : Path) (copies : (w.copy name).1 = .ok (some path)) :
      ∃ project location text, NewFile w (w.copy name).2 name path project location text := by
    obtain ⟨project, _, location, stored, done⟩ := copyDone copies
    exact ⟨project, location, stored, newFileOfDone done⟩
  refine ⟨?_, made⟩
  intro location text there
  by_cases copies : ∃ path, (w.copy name).1 = .ok (some path)
  · obtain ⟨path, copies⟩ := copies
    obtain ⟨project, _, _, new⟩ := made path copies
    exact newFileGrown new there
  · have fails := not_exists.mp copies
    exact (spreadGrown (stoppedSpread (copyStopped fails))).2 _ _ there

theorem copyPreservesAside :
    let files : FileTree := ⟨.ofList [(["lib"], .directory), (["t.yaml"], .file "a\r\r\nb\rc\n"),
      (["p"], .directory), (["p", "u.yaml"], .file "x\r\n")], []⟩
    let w : Workspace := ⟨files, .fresh ⟨.root, ["lib"]⟩ (some ⟨.root, ["p", "q"]⟩)⟩
    w.files.entry? ["p", "u.yaml"] = some (.file "x\r\n") ∧
      (w.copy "../t").2.files.entry? ["p", "u.yaml"] = some (.file "x\r\n") ∧
      (w.copy "../t").1 = .ok (some ⟨.root, ["p", "q", "..", "t.yaml"]⟩) ∧
      (w.copy "../t").2.files.entry? ["p", "t.yaml"] = some (.file "a\n\nb\nc\n") ∧
      ∃ project location text, NewFile w (w.copy "../t").2 "../t" ⟨.root, ["p", "q", "..", "t.yaml"]⟩ project location
        text := by
  intro files w
  have there : w.files.entry? ["p", "u.yaml"] = some (.file "x\r\n") := rfl
  have copied : (w.copy "../t").1 = .ok (some ⟨.root, ["p", "q", "..", "t.yaml"]⟩) := okOfOption (by decide +kernel)
  obtain ⟨kept, made⟩ := copyPreserves w "../t"
  exact ⟨there, kept _ _ there, copied, by decide +kernel, made _ copied⟩

end Workspace
end UtilityLayout
