import UtilityLayout.Proofs.Files.Names
import UtilityLayout.Proofs.Store.Confinement

/-! Copies that fail. The directories of the project are made before the theme is read, and a file is there before its
text is written; nothing takes them back. But all of that is new: nothing that was there is touched, and no theme is
forgotten. -/
namespace UtilityLayout
open FileTree ThemeStore

namespace FileTree
variable {t s : FileTree} {path : Path}

theorem foldDown {parts : List String} (down : ".." ∉ parts) {location last : Location}
    (leads : parts.foldlM t.step location = .ok last) : last = location ++ parts := by
  induction parts generalizing location with
  | nil =>
    cases leads
    exact (List.append_nil _).symm
  | cons part rest ih =>
    rw [List.mem_cons, not_or] at down
    rw [List.foldlM_cons] at leads
    obtain ⟨next, steps, leads⟩ := bindOk leads
    obtain ⟨_, ⟨up, _⟩ | ⟨_, _, rfl⟩⟩ := stepOk steps
    · exact absurd up.symm down.1
    · rw [ih down.2 leads, List.append_assoc, List.singleton_append]

theorem foldRooted (rooted : Rooted t) {parts : List String} (down : ".." ∉ parts) {location last : Location}
    (leads : parts.foldlM s.step location = .ok last) (there : t.entry? last ≠ none) :
    parts.foldlM t.step location = .ok last := by
  induction parts generalizing location with
  | nil => exact leads
  | cons part rest ih =>
    have whole := foldDown down leads
    rw [List.mem_cons, not_or] at down
    rw [List.foldlM_cons] at leads ⊢
    obtain ⟨next, steps, leads⟩ := bindOk leads
    obtain ⟨_, ⟨up, _⟩ | ⟨notUp, short, rfl⟩⟩ := stepOk steps
    · exact absurd up.symm down.1
    · have above : t.entry? location = some .directory := by
        refine aboveDirectory rooted (part :: rest).reverse (by simp) ?_
        rw [List.reverse_reverse, ← whole]
        exact there
      rw [stepDown above notUp, if_neg (Nat.not_lt_of_le short)]
      exact ih down.2 leads

theorem pavedEmpty (rooted : Rooted t) (paved : Paved t s path) (down : ".." ∉ path.parts) {name : String}
    {base : Location} (leads : s.locate path = .ok base) (there : s.entry? (base ++ [name]) ≠ none) :
    t.isDirectory path = true := by
  have accepted := acceptedOfLocate leads
  rw [locateWalk accepted] at leads
  have whole := foldDown down leads
  have old : t.entry? (base ++ [name]) ≠ none := by
    rcases paved.2 (base ++ [name]) with same | ⟨_, _, front, before, further⟩
    · rwa [← same]
    · -- No part of the path leads below its end.
      have under : ".." ∉ front := fun up => down (before.subset up)
      have here := foldDown under (walkOfLocate further)
      have longer := congrArg List.length here
      have shorter := before.length_le
      simp only [whole, start, List.length_append, List.length_singleton] at longer
      omega
  have directory := aboveDirectory rooted [name] (List.cons_ne_nil _ _) old
  have back : t.walk path = .ok base := by
    rw [walk, ← startWider (grownWider (pavedGrown paved))]
    refine foldRooted rooted down leads ?_
    rw [directory]
    exact Option.some_ne_none _
  exact isDirectoryOf (by rw [locateWalk accepted, back]) directory

theorem directoryParent {name : String} (directory : t.isDirectory (path.child name) = true) :
    t.isDirectory path = true := by
  obtain ⟨location, leads, _⟩ := directoryOfLookup directory
  have accepted := acceptedOfLocate leads
  rw [locateWalk accepted, walkChild] at leads
  split at leads
  · rename_i base walks
    have opens : t.locate path = .ok base := by rw [locateWalk (acceptedParent accepted), walks]
    exact isDirectoryOf opens (stepOk leads).1
  · cases leads

theorem directoryAbove {anchor : Anchor} {front back : List String}
    (directory : t.isDirectory ⟨anchor, front ++ back⟩ = true) : t.isDirectory ⟨anchor, front⟩ = true := by
  induction back generalizing front with
  | nil => rwa [List.append_nil] at directory
  | cons part rest ih =>
    have longer : t.isDirectory ⟨anchor, front ++ [part] ++ rest⟩ = true := by
      rwa [List.append_assoc, List.singleton_append]
    exact @directoryParent t ⟨anchor, front⟩ part (ih longer)

theorem ensureDirectoriesIdle (directory : t.isDirectory path = true) : t.ensureDirectories path = (t, none) := by
  obtain ⟨location, leads, there⟩ := directoryOfLookup directory
  exact ensureDirectoriesAlready leads there

end FileTree

namespace Interruption
open FileTree
variable {ε : Type} {broken? : Option (Interruption ε)} {project : Path} {t : FileTree}

theorem wayAlong (broken? : Option (Interruption ε)) (project : Path) :
    ∃ front back, (wayOf broken? project).1 = ⟨project.anchor, front⟩ ∧ project.parts = front ++ back := by
  unfold wayOf
  split
  · rename_i made _
    exact ⟨_, project.parts.drop made, rfl, (List.take_append_drop made project.parts).symm⟩
  · exact ⟨project.parts, [], rfl, (List.append_nil _).symm⟩

theorem wayPaved (broken? : Option (Interruption ε)) (t : FileTree) (project : Path) :
    Paved t (t.ensureDirectories (wayOf broken? project).1).1 project := by
  obtain ⟨front, back, way, parts⟩ := wayAlong broken? project
  have paved := ensureDirectoriesPaved t (wayOf broken? project).1
  rw [way] at paved ⊢
  exact pavedFurther ⟨back, parts.symm⟩ paved (pavedSelf _ project)

theorem wayIdle (broken? : Option (Interruption ε)) (directory : t.isDirectory project = true) :
    t.ensureDirectories (wayOf broken? project).1 = (t, none) := by
  obtain ⟨front, back, way, parts⟩ := wayAlong broken? project
  obtain ⟨anchor, _⟩ := project
  cases parts
  rw [way]
  exact ensureDirectoriesIdle (directoryAbove directory)

end Interruption

namespace Workspace
open Interruption (wayOf wayPaved wayIdle)
variable {ε : Type} {w after : Workspace} {name : String} {broken? : Option (Interruption ε)}

def Prepared (w : Workspace) (name : String) (made : FileTree) : Prop :=
  made = w.files ∨ ∃ project entry, w.themes.project? = some project ∧ w.files.isDirectory project = false ∧
    w.files.lookup (fileOf w.themes.library name) = .ok entry ∧ Paved w.files made project

def LeftOpen (w : Workspace) (name : String) (broken? : Option (Interruption ε)) (made files : FileTree) : Prop :=
  ∃ project location left failure, broken? = some ⟨.writing left, failure⟩ ∧ w.themes.project? = some project ∧
    made.locate (fileOf project name) = .ok location ∧ w.files.entry? location = none ∧
    files = made.set location (.file left)

theorem wayPrepared {project : Path} {entry : Entry} {made : FileTree} {failed : Option FileError}
    (configured : w.themes.project? = some project)
    (stands : w.files.lookup (fileOf w.themes.library name) = .ok entry)
    (makes : w.files.ensureDirectories (wayOf broken? project).1 = (made, failed)) : Prepared w name made := by
  cases directory : w.files.isDirectory project with
  | true =>
    rw [wayIdle broken? directory] at makes
    exact .inl (Prod.mk.inj makes).1.symm
  | false =>
    have paved := wayPaved broken? w.files project
    rw [makes] at paved
    exact .inr ⟨project, entry, configured, directory, stands, paved⟩

theorem preparedGrown {made : FileTree} (prepared : Prepared w name made) : Grown w.files made := by
  rcases prepared with rfl | ⟨_, _, _, _, _, paved⟩
  · exact ⟨rfl, fun _ _ => id⟩
  · exact pavedGrown paved

theorem alreadyIdle {project : Path} {made : FileTree} (down : ".." ∉ project.parts) (plain : Plain name)
    (rooted : Rooted w.files) (makes : w.files.ensureDirectories project = (made, none))
    (already : made.exists? (fileOf project name) = .ok true) : made = w.files := by
  have paved := ensureDirectoriesPaved w.files project
  rw [makes] at paved
  obtain ⟨entry, stands⟩ := lookupOfExists already
  rw [fileOfPlain plain] at stands
  obtain ⟨location, leads, there⟩ := locateOfLookup stands
  obtain ⟨base, opens, _, rfl⟩ := insideOfLocate leads (fileNameDown name)
  have directory := pavedEmpty rooted paved down opens (by rw [there]; exact Option.some_ne_none _)
  rw [ensureDirectoriesIdle directory] at makes
  exact (Prod.mk.inj makes).1.symm

/- A copy that is not made, whether it fails by itself or is broken off by the system, forgets no theme and keeps every
entry. New are at most directories on the way to that of the project, only for a theme of the library and only where
that directory is missing; and, if the write itself failed, the file of the copy, where nothing was. If there is no such
theme, or the project has one already and no double dots lead anywhere else, then nothing changes. -/
theorem failedCopyPaves {result : Except (CopyFailure ε) (Option Path)}
    (copies : w.copyCut name broken? = (result, after)) (fails : ∀ path, result ≠ .ok (some path)) :
    after.themes = w.themes ∧
    (∃ made, Prepared w name made ∧ (after.files = made ∨ LeftOpen w name broken? made after.files)) ∧
    (result = .ok none → after = w) ∧
    (∀ project other, w.themes.project? = some project → ".." ∉ project.parts → Plain name → Rooted w.files →
      result = .error (.own (.alreadyThere other)) → after = w) ∧
    (broken? = none → result = (w.copy name).1.mapError .own ∧ after = (w.copy name).2) := by
  have plainly (unbroken : broken? = none) : result = (w.copy name).1.mapError .own ∧ after = (w.copy name).2 := by
    rw [unbroken, copyUncut] at copies
    cases copies
    exact ⟨rfl, rfl⟩
  cases copyCutStopped copies fails with
  | before kind =>
    exact ⟨rfl, ⟨_, .inl rfl, .inl rfl⟩, fun _ => rfl, fun _ _ _ _ _ _ same => absurd same (kind _), plainly⟩
  | way configured stands makes kind already =>
    have prepared := wayPrepared configured stands makes
    exact ⟨rfl, ⟨_, prepared, .inl rfl⟩, fun same => absurd same kind,
      fun _ _ _ _ _ _ same => absurd same (already _), plainly⟩
  | @file project _ made _ copied configured stands makes whole stopped same =>
    have prepared := wayPrepared configured stands makes
    have kind : result ≠ .ok none := by
      rw [same]
      cases copied <;> nofun
    cases stopped with
    | before already =>
      refine ⟨rfl, ⟨_, prepared, .inl rfl⟩, fun same => absurd same kind, ?_, plainly⟩
      intro given other here down plain rooted twice
      rw [configured] at here
      cases here
      rw [whole] at makes
      rw [same] at twice
      cases copied with
      | ok path => cases twice
      | error failure =>
        cases twice
        rw [alreadyIdle down plain rooted makes (already other rfl)]
    | @opened left failure location broken outside leads absent =>
      have none : w.files.entry? location = none := by
        cases found : w.files.entry? location with
        | none => rfl
        | some entry =>
          have kept := (preparedGrown prepared).2 location entry found
          rw [absent] at kept
          cases kept
      have left : LeftOpen w name broken? made (made.set location (.file left)) :=
        ⟨project, location, left, failure, broken, configured, leads, none, rfl⟩
      refine ⟨rfl, ⟨made, prepared, .inr left⟩, fun same => absurd same kind, ?_, plainly⟩
      intro _ other _ _ _ _ twice
      rw [same, outside] at twice
      cases twice

theorem failedCopyPavesUnreadable :
    (let files : FileTree := ⟨.ofList [(["lib"], .directory), (["lib", "t.yaml"], .directory)], []⟩
      let w : Workspace := ⟨files, .fresh ⟨.root, ["lib"]⟩ (some ⟨.root, ["p"]⟩)⟩
      (w.copy "t").1 = .error (.file ⟨.isDirectory, ⟨.root, ["lib", "t.yaml"]⟩⟩) ∧
        (w.copy "t").2.themes = w.themes ∧ Prepared w "t" (w.copy "t").2.files) ∧
    (let files : FileTree := ⟨.ofList [(["lib"], .directory), (["lib", "t.yaml"], .file ""), (["p"], .directory),
        (["p", "t.yaml"], .file "")], []⟩
      let w : Workspace := ⟨files, .fresh ⟨.root, ["lib"]⟩ (some ⟨.root, ["p"]⟩)⟩
      (w.copy "t").1 = .error (.alreadyThere "t") ∧ (w.copy "t").2 = w) ∧
    (let files : FileTree := ⟨.ofList [(["lib"], .directory), (["lib", "t.yaml"], .file "name: t")], []⟩
      let w : Workspace := ⟨files, .fresh ⟨.root, ["lib"]⟩ (some ⟨.root, ["p"]⟩)⟩
      let full : Interruption String := ⟨.writing "na", "No space left on device"⟩
      let after := (w.copyCut "t" (some full)).2
      (w.copyCut "t" (some full)).1 = .error (.outside "No space left on device") ∧ after.themes = w.themes ∧
        ∃ made, Prepared w "t" made ∧ (after.files = made ∨ LeftOpen w "t" (some full) made after.files)) := by
  refine ⟨?_, ?_, ?_⟩
  · intro files w
    have fails : (w.copy "t").1 = .error (.file ⟨.isDirectory, ⟨.root, ["lib", "t.yaml"]⟩⟩) := by rfl
    have copies := @copyUncut Empty w "t"
    obtain ⟨themes, ⟨made, prepared, same | ⟨_, _, _, _, broken, _⟩⟩, _⟩ :=
      failedCopyPaves copies (by rw [fails]; nofun)
    · exact ⟨fails, themes, same ▸ prepared⟩
    · cases broken
  · intro files w
    have fails : (w.copy "t").1 = .error (.alreadyThere "t") := by rfl
    have plain : Plain "t" := by unfold Plain; decide
    have rooted : Rooted w.files := rootedOfKeys rfl (by decide +kernel)
    have copies := @copyUncut Empty w "t"
    obtain ⟨_, _, _, idle, _⟩ := failedCopyPaves copies (by rw [fails]; nofun)
    exact ⟨fails, idle ⟨.root, ["p"]⟩ "t" rfl (by decide) plain rooted (by rw [fails]; rfl)⟩
  · intro files w full after
    have fails : (w.copyCut "t" (some full)).1 = .error (.outside "No space left on device") := by rfl
    have copies : w.copyCut "t" (some full) = (.error (.outside "No space left on device"), after) := by
      rw [← fails]
    obtain ⟨themes, made, _⟩ := failedCopyPaves copies nofun
    exact ⟨fails, themes, made⟩

theorem failedCopyLeavesDirectory :
    (let files : FileTree := ⟨.ofList [(["lib"], .directory), (["lib", "t.yaml"], .directory)], []⟩
      let w : Workspace := ⟨files, .fresh ⟨.root, ["lib"]⟩ (some ⟨.root, ["p"]⟩)⟩
      (w.copy "t").1 = .error (.file ⟨.isDirectory, ⟨.root, ["lib", "t.yaml"]⟩⟩) ∧
        w.files.entry? ["p"] = none ∧ (w.copy "t").2.files.entry? ["p"] = some .directory) ∧
    (let files : FileTree := ⟨.ofList [(["lib"], .directory), (["lib", "t.yaml"], .file ""), (["v"], .directory),
        (["v", "t.yaml"], .file "")], []⟩
      let w : Workspace := ⟨files, .fresh ⟨.root, ["lib"]⟩ (some ⟨.root, ["new", "..", "v"]⟩)⟩
      (w.copy "t").1 = .error (.alreadyThere "t") ∧
        w.files.entry? ["new"] = none ∧ (w.copy "t").2.files.entry? ["new"] = some .directory) ∧
    (let files : FileTree := ⟨.ofList [(["lib"], .directory), (["lib", "t.yaml"], .file "name: t"),
        (["p"], .directory)], []⟩
      let w : Workspace := ⟨files, .fresh ⟨.root, ["lib"]⟩ (some ⟨.root, ["p"]⟩)⟩
      let full : Interruption String := ⟨.writing "", "No space left on device"⟩
      (w.copyCut "t" (some full)).1 = .error (.outside "No space left on device") ∧
        w.files.entry? ["p", "t.yaml"] = none ∧
        (w.copyCut "t" (some full)).2.files.entry? ["p", "t.yaml"] = some (.file "")) :=
  ⟨⟨by rfl, by rfl, by rfl⟩, ⟨by rfl, by rfl, by rfl⟩, by rfl, by rfl, by rfl⟩

end Workspace
end UtilityLayout
