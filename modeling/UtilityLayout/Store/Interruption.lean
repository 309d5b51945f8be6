import UtilityLayout.Store.Workspace
/-! Copies that break off. A tree of files knows of no full disk, of no missing right and of no file that is not text:
such a failure comes from outside, at one of the operations that a copy consists of, and the copy ends there. What was
done by then stays done. -/
namespace UtilityLayout

/- The operation that fails, in the order of a copy. Directories are made one after the other from the top, and a file
is there from the moment it is opened, whatever is left of the text that should go into it. -/
inductive Cut where
  | search
  | directories (made : Nat)
  | target
  | source
  | opening
  | writing (left : String)
  deriving DecidableEq, Repr

structure Interruption (ε : Type) where
  cut : Cut
  failure : ε
  deriving DecidableEq, Repr

inductive CopyFailure (ε : Type) where
  | own (failure : Failure)
  | outside (failure : ε)
  deriving DecidableEq, Repr

namespace Interruption
variable {ε α : Type}

def at? (broken? : Option (Interruption ε)) (cut : Cut) : Option ε :=
  match broken? with
  | some broken => if broken.cut = cut then some broken.failure else none
  | none => none

def wayOf (broken? : Option (Interruption ε)) (project : Path) : Path × Option ε :=
  match broken? with
  | some ⟨.directories made, failure⟩ => (⟨project.anchor, project.parts.take made⟩, some failure)
  | _ => (project, none)

def writtenOf (broken? : Option (Interruption ε)) (text : String) : String × Option ε :=
  match broken? with
  | some ⟨.writing left, failure⟩ => (left, some failure)
  | _ => (text, none)

end Interruption

namespace Workspace
open Interruption (at? wayOf writtenOf)
variable {ε : Type}

def copyFileCut (w : Workspace) (name : String) (source target : Path) (broken? : Option (Interruption ε)) :
    Except (CopyFailure ε) Path × Workspace :=
  match at? broken? .target, w.files.exists? target with
  | some failure, _ => (.error (.outside failure), w)
  | none, .error cause => (.error (.own (.file cause)), w)
  | none, .ok true => (.error (.own (.alreadyThere name)), w)
  | none, .ok false =>
    match at? broken? .source, w.files.readText source with
    | some failure, _ => (.error (.outside failure), w)
    | none, .error cause => (.error (.own (.file cause)), w)
    | none, .ok text =>
      match at? broken? .opening, w.files.write target (writtenOf broken? text).1 with
      | some failure, _ => (.error (.outside failure), w)
      | none, .error cause => (.error (.own (.file cause)), w)
      | none, .ok files =>
        match (writtenOf broken? text).2 with
        | some failure => (.error (.outside failure), { w with files })
        | none => (.ok target, ⟨files, w.themes.forget name⟩)

def copyCut (w : Workspace) (name : String) (broken? : Option (Interruption ε)) :
    Except (CopyFailure ε) (Option Path) × Workspace :=
  match w.themes.project? with
  | none => (.error (.own .noProject), w)
  | some project =>
    let source := ThemeStore.fileOf w.themes.library name
    match at? broken? .search, w.files.exists? source with
    | some failure, _ => (.error (.outside failure), w)
    | none, .error cause => (.error (.own (.file cause)), w)
    | none, .ok false => (.ok none, w)
    | none, .ok true =>
      match w.files.ensureDirectories (wayOf broken? project).1 with
      | (files, some cause) => (.error (.own (.file cause)), { w with files })
      | (files, none) =>
        match (wayOf broken? project).2 with
        | some failure => (.error (.outside failure), { w with files })
        | none =>
          let (copied, w) := copyFileCut { w with files } name source (ThemeStore.fileOf project name) broken?
          (copied.map some, w)

theorem copyFileUncut (w : Workspace) (name : String) (source target : Path) :
    w.copyFileCut name source target (none : Option (Interruption ε)) =
      ((w.copyFile name source target).1.mapError .own, (w.copyFile name source target).2) := by
  unfold copyFileCut copyFile
  cases w.files.exists? target with
  | error cause => rfl
  | ok there =>
    cases there with
    | true => rfl
    | false =>
      cases w.files.readText source with
      | error cause => rfl
      | ok text =>
        simp only [at?, writtenOf]
        cases w.files.write target text <;> rfl

theorem copyUncut (w : Workspace) (name : String) :
    w.copyCut name (none : Option (Interruption ε)) = ((w.copy name).1.mapError .own, (w.copy name).2) := by
  unfold copyCut copy
  cases w.themes.project? with
  | none => rfl
  | some project =>
    simp only [at?, wayOf]
    cases w.files.exists? (ThemeStore.fileOf w.themes.library name) with
    | error cause => rfl
    | ok there =>
      cases there with
      | false => rfl
      | true =>
        rcases w.files.ensureDirectories project with ⟨made, failed⟩
        cases failed with
        | some cause => rfl
        | none =>
          simp only [copyFileUncut]
          rcases copyFile _ name _ _ with ⟨copied, after⟩
          cases copied <;> rfl

end Workspace
end UtilityLayout
