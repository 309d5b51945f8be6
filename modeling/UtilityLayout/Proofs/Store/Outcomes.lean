import UtilityLayout.Proofs.Files.Frame
import UtilityLayout.Proofs.Results
import UtilityLayout.Store.Interruption

/-! How copying a theme can end, told once: with a file at a place where nothing was, or before that, with at most the
directories of the project made. -/
namespace UtilityLayout
open FileTree ThemeStore

namespace FileTree
variable {t s : FileTree} {path : Path}

theorem lookupOfExists (there : t.exists? path = .ok true) :
    ∃ entry, t.lookup path = .ok entry := by
  unfold exists? at there
  split at there
  · rename_i entry leads
    exact ⟨entry, leads⟩
  · cases there
  · cases there

theorem absentOfExists {location : Location} (absent : t.exists? path = .ok false)
    (leads : t.locate path = .ok location) : t.entry? location = none := by
  unfold exists? at absent
  rw [lookupLocated leads] at absent
  cases found : t.entry? location with
  | none => rfl
  | some entry =>
    rw [found] at absent
    cases absent

theorem storedOfRead {text : String} (reads : t.readText path = .ok text) :
    ∃ stored, t.lookup path = .ok (.file stored) ∧
      text = String.ofList (normalizeNewlines stored.toList) := by
  unfold readText FileTree.read at reads
  split at reads
  · rename_i stored leads
    cases reads
    exact ⟨stored, leads, rfl⟩
  · cases reads
  · cases reads

theorem lookupGrown (grown : Grown t s) {entry : Entry} (stands : t.lookup path = .ok entry) :
    s.lookup path = .ok entry := by
  obtain ⟨location, leads, here⟩ := locateOfLookup stands
  rw [lookupLocated (locateGrown grown leads), grown.2 _ _ here]

theorem writeOk {text : String} (writes : t.write path text = .ok s) :
    ∃ location, t.locate path = .ok location ∧ s = t.set location (.file text) := by
  unfold write at writes
  split at writes
  · contradiction
  · rename_i location leads
    split at writes
    · contradiction
    · cases writes
      exact ⟨location, leads, rfl⟩

theorem ensureDirectoryOpens (makes : t.ensureDirectory path = (s, none)) : s.isDirectory path = true := by
  have ensured := ensureDirectoryEnsured t path
  rw [makes] at ensured
  rcases ensured with ⟨_, failed⟩ | ⟨_, location, opened⟩
  · exact absurd rfl failed
  · exact isDirectoryOf opened.leads opened.directory

theorem ensureDirectoriesOpens (makes : t.ensureDirectories path = (s, none)) : s.isDirectory path = true := by
  obtain ⟨anchor, parts⟩ := path
  have same : parts = parts.reverse.reverse := by rw [List.reverse_reverse]
  unfold ensureDirectories at makes
  dsimp only at makes
  rw [same]
  cases reversed : parts.reverse with
  | nil =>
    rw [reversed] at makes
    exact ensureDirectoryOpens makes
  | cons last parents =>
    rw [reversed, ensureParts] at makes
    split at makes
    · split at makes
      · exact ensureDirectoryOpens makes
      · rename_i failed
        exact absurd makes (failed s)
    · exact ensureDirectoryOpens makes

end FileTree

namespace Interruption
variable {ε : Type} {broken? : Option (Interruption ε)} {project : Path}

theorem wayWhole (whole : (wayOf broken? project).2 = none) : (wayOf broken? project).1 = project := by
  unfold wayOf at whole ⊢
  split at whole
  · cases whole
  · rfl

theorem writtenOutside {text : String} {failure : ε} (broken : (writtenOf broken? text).2 = some failure) :
    broken? = some ⟨.writing (writtenOf broken? text).1, failure⟩ := by
  unfold writtenOf at broken ⊢
  split at broken
  · cases broken
    rfl
  · cases broken

end Interruption

namespace Workspace
open Interruption (wayOf wayWhole writtenOutside)
variable {w after : Workspace} {name : String}

structure Done (w : Workspace) (name : String) (path : Path) (after : Workspace) (project : Path) (made : FileTree)
    (location : Location) (stored : String) : Prop where
  configured : w.themes.project? = some project
  named : path = fileOf project name
  makes : w.files.ensureDirectories project = (made, none)
  original : w.files.lookup (fileOf w.themes.library name) = .ok (.file stored)
  leads : made.locate path = .ok location
  nothing : made.entry? location = none
  result : after =
    ⟨made.set location (.file (String.ofList (normalizeNewlines stored.toList))), w.themes.forget name⟩

theorem copyFileDone {source target path : Path} (copies : w.copyFile name source target = (.ok path, after)) :
    path = target ∧ ∃ location stored, w.files.lookup source = .ok (.file stored) ∧
      w.files.locate target = .ok location ∧ w.files.entry? location = none ∧
      after = ⟨w.files.set location (.file (String.ofList (normalizeNewlines stored.toList))),
        w.themes.forget name⟩ := by
  unfold copyFile at copies
  split at copies
  · cases copies
  · cases copies
  · rename_i nothing
    split at copies
    · cases copies
    · rename_i text reads
      split at copies
      · cases copies
      · rename_i written writes
        cases copies
        obtain ⟨location, leads, rfl⟩ := writeOk writes
        obtain ⟨stored, stands, rfl⟩ := storedOfRead reads
        exact ⟨rfl, location, stored, stands, leads, absentOfExists nothing leads, rfl⟩

theorem copyDone {path : Path} (copies : (w.copy name).1 = .ok (some path)) :
    ∃ project made location stored, Done w name path (w.copy name).2 project made location stored := by
  unfold copy at copies ⊢
  split
  · rename_i missing
    simp [missing] at copies
  · rename_i project configured
    simp only [configured] at copies
    dsimp only at copies ⊢
    split
    · rename_i fails
      simp [fails] at copies
    · rename_i nothing
      simp [nothing] at copies
    · rename_i there
      obtain ⟨entry, before⟩ := lookupOfExists there
      simp only [there] at copies
      have grown := spreadGrown (ensureDirectoriesSpread w.files project)
      rcases makes : w.files.ensureDirectories project with ⟨made, failed⟩
      rw [makes] at copies grown
      cases failed with
      | some cause => cases copies
      | none =>
        dsimp only at copies ⊢
        rcases result : copyFile { w with files := made } name (fileOf w.themes.library name) (fileOf project name)
          with ⟨copied, after⟩
        rw [result] at copies
        obtain ⟨target, returns, same⟩ := mapOk copies
        cases returns
        cases same
        obtain ⟨named, location, stored, stands, leads, nothing, rfl⟩ := copyFileDone result
        refine ⟨project, made, location, stored, ?_⟩
        exact {
          configured, named, makes, leads := named ▸ leads, nothing, result := rfl
          original := by
            have same := (lookupGrown grown before).symm.trans stands
            rw [before, Except.ok.inj same] }

section Done
variable {path project : Path} {made : FileTree} {location : Location} {stored : String}
  (done : Done w name path after project made location stored)
include done

theorem donePaved : Paved w.files made project := by
  have paved := ensureDirectoriesPaved w.files project
  rwa [done.makes] at paved

theorem doneAbsent : w.files.entry? location = none := by
  rcases (donePaved done).2 location with same | ⟨absent, _⟩
  · rw [← same, done.nothing]
  · exact absent

theorem doneEntry (other : Location) :
    after.files.entry? other = if other = location then
      some (.file (String.ofList (normalizeNewlines stored.toList))) else made.entry? other := by
  rw [done.result]
  exact entrySet made (notRootOfAbsent done.nothing) _ _

end Done

section Cut
variable {ε : Type} {broken? : Option (Interruption ε)}

inductive FileStopped (w : Workspace) (target : Path) (broken? : Option (Interruption ε))
    (result : Except (CopyFailure ε) Path) : Workspace → Prop where
  | before (already : ∀ other, result = .error (.own (.alreadyThere other)) → w.files.exists? target = .ok true) :
      FileStopped w target broken? result w
  | opened {left failure location} (broken : broken? = some ⟨.writing left, failure⟩)
      (fails : result = .error (.outside failure)) (leads : w.files.locate target = .ok location)
      (absent : w.files.entry? location = none) :
      FileStopped w target broken? result { w with files := w.files.set location (.file left) }

theorem copyFileCutStopped {source target : Path} {failure : CopyFailure ε}
    (stops : w.copyFileCut name source target broken? = (.error failure, after)) :
    FileStopped w target broken? (.error failure) after := by
  unfold copyFileCut at stops
  split at stops
  · cases stops
    exact .before nofun
  · cases stops
    exact .before nofun
  · rename_i there
    cases stops
    exact .before fun _ _ => there
  · rename_i nothing
    split at stops
    · cases stops
      exact .before nofun
    · cases stops
      exact .before nofun
    · split at stops
      · cases stops
        exact .before nofun
      · cases stops
        exact .before nofun
      · rename_i text _ _ _ files _ writes
        obtain ⟨location, leads, rfl⟩ := writeOk writes
        split at stops
        · rename_i failure broken
          cases stops
          exact .opened (writtenOutside broken) rfl leads (absentOfExists nothing leads)
        · cases stops

inductive CopyStopped (w : Workspace) (name : String) (broken? : Option (Interruption ε))
    (result : Except (CopyFailure ε) (Option Path)) : Workspace → Prop where
  | before (kind : ∀ other, result ≠ .error (.own (.alreadyThere other))) : CopyStopped w name broken? result w
  | way {project entry made failed} (configured : w.themes.project? = some project)
      (stands : w.files.lookup (fileOf w.themes.library name) = .ok entry)
      (makes : w.files.ensureDirectories (wayOf broken? project).1 = (made, failed)) (kind : result ≠ .ok none)
      (already : ∀ other, result ≠ .error (.own (.alreadyThere other))) :
      CopyStopped w name broken? result { w with files := made }
  | file {project entry made after copied} (configured : w.themes.project? = some project)
      (stands : w.files.lookup (fileOf w.themes.library name) = .ok entry)
      (makes : w.files.ensureDirectories (wayOf broken? project).1 = (made, none))
      (whole : (wayOf broken? project).1 = project)
      (stopped : FileStopped { w with files := made } (fileOf project name) broken? copied after)
      (same : result = copied.map some) : CopyStopped w name broken? result after

theorem copyCutStopped {result : Except (CopyFailure ε) (Option Path)}
    (copies : w.copyCut name broken? = (result, after)) (fails : ∀ path, result ≠ .ok (some path)) :
    CopyStopped w name broken? result after := by
  unfold copyCut at copies
  split at copies
  · cases copies
    exact .before nofun
  · rename_i project configured
    dsimp only at copies
    split at copies
    · cases copies
      exact .before nofun
    · cases copies
      exact .before nofun
    · cases copies
      exact .before nofun
    · rename_i there
      obtain ⟨entry, stands⟩ := lookupOfExists there
      split at copies
      · rename_i made cause makes
        cases copies
        exact .way configured stands makes nofun nofun
      · rename_i made makes
        split at copies
        · cases copies
          exact .way configured stands makes nofun nofun
        · rename_i whole
          rcases outcome : copyFileCut { w with files := made } name (fileOf w.themes.library name)
            (fileOf project name) broken? with ⟨copied, left⟩
          rw [outcome] at copies
          cases copies
          cases copied with
          | ok path => exact absurd rfl (fails path)
          | error failure => exact .file configured stands makes (wayWhole whole) (copyFileCutStopped outcome) rfl

end Cut

inductive Stopped (w : Workspace) (name : String) : Workspace → Prop where
  | before : Stopped w name w
  | after {project entry made failed} (configured : w.themes.project? = some project)
      (stands : w.files.lookup (fileOf w.themes.library name) = .ok entry)
      (makes : w.files.ensureDirectories project = (made, failed)) : Stopped w name { w with files := made }

theorem copyStopped (fails : ∀ path, (w.copy name).1 ≠ .ok (some path)) : Stopped w name (w.copy name).2 := by
  have stopped := copyCutStopped (@copyUncut Empty w name) fun path same => fails path (okOfMapError same)
  generalize (w.copy name).2 = after at stopped ⊢
  cases stopped with
  | before => exact .before
  | way configured stands makes => exact .after configured stands makes
  | file configured stands makes _ stopped =>
    cases stopped with
    | before => exact .after configured stands makes
    | opened broken => cases broken

theorem stoppedSpread (stopped : Stopped w name after) : Spread w.files after.files := by
  cases stopped with
  | before => exact spreadSelf w.files
  | @after project _ _ _ _ _ makes =>
    have spread := ensureDirectoriesSpread w.files project
    rwa [makes] at spread

end Workspace
end UtilityLayout
