import UtilityLayout.Proofs.Files.Making
import UtilityLayout.Proofs.Store.Probe

/-! A tree with copies of theme files over the tree without them. Every theme is found as before: a copy stands where
nothing was, and holds what the lookup would have read from the library next. -/
namespace UtilityLayout

def Failure.Alike (f g : Failure) : Prop :=
  f = g ∨ ∃ cause p q, f = .file ⟨cause, p⟩ ∧ g = .file ⟨cause, q⟩

inductive Alike {α : Type} : Except Failure α → Except Failure α → Prop where
  | ok (value : α) : Alike (.ok value) (.ok value)
  | error {f g : Failure} (alike : f.Alike g) : Alike (.error f) (.error g)

namespace ThemeStore
open FileTree

def Plain (name : String) : Prop :=
  '/' ∉ name.toList

def fileName (name : String) : String :=
  name ++ ".yaml"

theorem fileOfPlain {name : String} (plain : Plain name) (directory : Path) :
    fileOf directory name = directory.child (fileName name) := by
  have chars : (fileName name).toList = name.toList ++ ".yaml".toList := String.toList_append
  have clean : '/' ∉ (fileName name).toList := by
    rw [chars, List.mem_append, not_or]
    exact ⟨plain, by decide⟩
  have long : 1 < (fileName name).toList.length := by
    rw [chars, List.length_append]
    exact Nat.lt_of_lt_of_le (by decide) (Nat.le_add_left _ _)
  have path : Path.ofText (fileName name) = ⟨.relative, [fileName name]⟩ := by
    rw [Path.ofText, Path.anchorPlain clean, Path.componentsPlain clean long, String.ofList_toList]
  change directory.join (.ofText (fileName name)) = _
  rw [path]
  rfl

theorem fileNameDown (name : String) : fileName name ≠ ".." := by
  intro same
  have long := congrArg (fun text => text.toList.length) same
  simp [fileName, String.toList_append] at long

end ThemeStore

namespace FileTree

def HasNull (path : Path) : Prop :=
  path.parts.any (fun part => part.toList.contains '\x00') = true

theorem acceptedNoNull {path : Path} (accepted : refused? path = none) : ¬HasNull path := by
  unfold refused? at accepted
  split at accepted
  · contradiction
  · rename_i plain
    exact plain

theorem refusedNoNull {path : Path} {cause : FileError.Cause} (refused : refused? path = some cause)
    (clean : ¬HasNull path) : cause = .nameTooLong := by
  unfold refused? at refused
  split at refused
  · rename_i null
    exact absurd null clean
  · split at refused
    · cases refused
      rfl
    · contradiction

theorem hasNullChild (path : Path) (name : String) :
    HasNull (path.child name) ↔ HasNull path ∨ name.toList.contains '\x00' = true := by
  simp only [HasNull, Path.child, List.any_append, List.any_cons, List.any_nil, Bool.or_false,
    Bool.or_eq_true]

end FileTree

namespace ThemeStore
open FileTree
variable {t s : FileTree} {library project : Path} {source target : Location} {name : String}

end ThemeStore
end UtilityLayout
