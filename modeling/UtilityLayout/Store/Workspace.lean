import UtilityLayout.Store.Basic
/-! Files and themes together. Every operation answers and leaves a workspace; one that fails may have
changed the files already. -/
namespace UtilityLayout

structure Workspace where
  files : FileTree
  themes : ThemeStore
  deriving DecidableEq

namespace Workspace

def list (w : Workspace) : Except Failure (List Theme.Summary) :=
  ThemeStore.list w.files w.themes

def get (w : Workspace) (name : String) : Except Failure (Option Theme) × Workspace :=
  let found := ThemeStore.find? w.files w.themes name
  (found, { w with themes := w.themes.remember name found })

def clear (w : Workspace) : Workspace :=
  { w with themes := w.themes.forgetAll }

def copyFile (w : Workspace) (name : String) (source target : Path) :
    Except Failure Path × Workspace :=
  match w.files.exists? target with
  | .error cause => (.error (.file cause), w)
  | .ok true => (.error (.alreadyThere name), w)
  | .ok false =>
    match w.files.readText source with
    | .error cause => (.error (.file cause), w)
    | .ok text =>
      match w.files.write target text with
      | .error cause => (.error (.file cause), w)
      | .ok files => (.ok target, ⟨files, w.themes.forget name⟩)

def copy (w : Workspace) (name : String) : Except Failure (Option Path) × Workspace :=
  match w.themes.project? with
  | none => (.error .noProject, w)
  | some project =>
    let source := ThemeStore.fileOf w.themes.library name
    match w.files.exists? source with
    | .error cause => (.error (.file cause), w)
    | .ok false => (.ok none, w)
    | .ok true =>
      match w.files.ensureDirectories project with
      | (files, some cause) => (.error (.file cause), { w with files })
      | (files, none) =>
        let (copied, w) := copyFile { w with files } name source (ThemeStore.fileOf project name)
        (copied.map some, w)

def write (w : Workspace) (path : Path) (text : String) : Except Failure Unit × Workspace :=
  match w.files.ensureDirectories path.parent with
  | (files, some cause) => (.error (.file cause), { w with files })
  | (files, none) =>
    match files.write path text with
    | .error cause => (.error (.file cause), { w with files })
    | .ok files => (.ok (), { w with files })

def makeDirectory (w : Workspace) (path : Path) : Except Failure Unit × Workspace :=
  match w.files.ensureDirectories path with
  | (files, some cause) => (.error (.file cause), { w with files })
  | (files, none) => (.ok (), { w with files })

def remove (w : Workspace) (path : Path) : Except Failure Unit × Workspace :=
  match w.files.remove path with
  | .error cause => (.error (.file cause), w)
  | .ok files => (.ok (), { w with files })

end Workspace
end UtilityLayout
