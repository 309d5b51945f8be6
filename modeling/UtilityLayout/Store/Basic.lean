import UtilityLayout.Files.Tree
import UtilityLayout.Theme.Document
import UtilityLayout.Yaml.Document
/-! Themes kept in files. A theme named n is the file n.yaml of a library directory or of a project
directory. A file that cannot be read, is no document or describes no theme counts as absent; a scalar in it
that has no value stops the operation instead, and so do a document that is nested too deeply, a keyword table of
another kind and a name that is too long. -/
namespace UtilityLayout

inductive Failure where
  | file (cause : FileError)
  | document (cause : Yaml.Fault)
  | theme (cause : ThemeError)
  | noProject
  | alreadyThere (name : String)
  deriving DecidableEq, Repr

namespace Failure

def message : Failure → String
  | file cause => cause.message
  | document cause => cause.message
  | theme cause => cause.message?.getD ""
  | noProject => "No project path configured"
  | alreadyThere name => "Theme already exists in project: " ++ name

def isPassedOver : Failure → Bool
  | file _ => true
  | document cause => cause == .malformed || cause == .notTime
  | theme cause => match cause with
    | .notMapping _ | .longName => false
    | _ => true
  | _ => false

end Failure

structure ThemeStore where
  library : Path
  project? : Option Path
  cache : Table String Theme
  deriving DecidableEq

namespace ThemeStore

def fresh (library : Path) (project? : Option Path) : ThemeStore :=
  ⟨library, project?, ∅⟩

/- The file of a theme in a directory. What the name says about directories is followed. -/
def fileOf (directory : Path) (name : String) : Path :=
  directory.join (.ofText (name ++ ".yaml"))

def readTheme (files : FileTree) (path : Path) : Except Failure Theme := do
  let text ← (files.readText path).mapError .file
  let data ← (Yaml.read text).mapError .document
  (Theme.ofDocument (if data.isAbsent then .map [] else data) path.stem).mapError .theme

def load? (files : FileTree) (path : Path) : Except Failure (Option Theme) :=
  match readTheme files path with
  | .ok theme => .ok (some theme)
  | .error failure => if failure.isPassedOver then .ok none else .error failure

def isThemeName (name : String) : Bool :=
  ".yaml".toList.isSuffixOf name.toList

def themeFiles (files : FileTree) (directory : Path) : List Path :=
  match files.locate directory with
  | .error _ => []
  | .ok location =>
    if files.entry? location = some .directory then
      ((files.names location).filter isThemeName).map directory.child
    else []

def themesIn (files : FileTree) (directory : Path) : Except Failure (List Theme) := do
  if ← (files.exists? directory).mapError .file then
    let found ← (themeFiles files directory).mapM (load? files)
    pure (found.filterMap id)
  else pure []

def themes (files : FileTree) (store : ThemeStore) : Except Failure (List Theme) := do
  let found ← (store.library :: store.project?.toList).mapM (themesIn files)
  pure found.flatten

def list (files : FileTree) (store : ThemeStore) : Except Failure (List Theme.Summary) := do
  let found ← themes files store
  pure (Table.ofList (found.map fun theme => (theme.name, theme.summary))).values

def firstTheme? (files : FileTree) : List Path → Except Failure (Option Theme)
  | [] => .ok none
  | path :: rest => do
    if ← (files.exists? path).mapError .file then
      match ← load? files path with
      | some theme => .ok (some theme)
      | none => firstTheme? files rest
    else firstTheme? files rest

def candidates (store : ThemeStore) (name : String) : List Path :=
  (store.project?.toList ++ [store.library]).map (fileOf · name)

def find? (files : FileTree) (store : ThemeStore) (name : String) : Except Failure (Option Theme) :=
  match store.cache.find? name with
  | some theme => .ok (some theme)
  | none => firstTheme? files (store.candidates name)

def remember (store : ThemeStore) (name : String) : Except Failure (Option Theme) → ThemeStore
  | .ok (some theme) => { store with cache := store.cache.insert name theme }
  | _ => store

def forget (store : ThemeStore) (name : String) : ThemeStore :=
  { store with cache := store.cache.erase name }

def forgetAll (store : ThemeStore) : ThemeStore :=
  { store with cache := ∅ }

end ThemeStore
end UtilityLayout
