import UtilityLayout.Table
import UtilityLayout.Text.Quoted
import UtilityLayout.Files.Path
/-! A tree of files and directories without links or permissions, and a working directory. Entries are kept
under their absolute locations; the root is always there. A path is walked part by part: each part needs a
directory to stand in, so that double dots are taken where they stand. The text of every file is valid, and a write
puts the whole text there or fails before it opens the file: where the system itself fails, on the way or half-way
through a write, is said by the interruptions of `UtilityLayout.Store.Interruption`. -/
namespace UtilityLayout

abbrev Location := List String

inductive Entry where
  | file (text : String)
  | directory
  deriving DecidableEq, Repr

inductive FileError.Cause where
  | missing
  | present
  | notDirectory
  | isDirectory
  | nameTooLong
  | nullCharacter
  deriving DecidableEq, Repr

structure FileError where
  cause : FileError.Cause
  path : Path
  deriving DecidableEq, Repr

namespace FileError

def Cause.number : Cause → Nat
  | missing => 2
  | present => 17
  | notDirectory => 20
  | isDirectory => 21
  | nameTooLong => 36
  | nullCharacter => 0

def Cause.text : Cause → String
  | missing => "No such file or directory"
  | present => "File exists"
  | notDirectory => "Not a directory"
  | isDirectory => "Is a directory"
  | nameTooLong => "File name too long"
  | nullCharacter => "embedded null byte"

def message (e : FileError) : String :=
  if e.cause = .nullCharacter then e.cause.text
  else "[Errno " ++ toString e.cause.number ++ "] " ++ e.cause.text ++ ": " ++ Text.quoted e.path.text

end FileError

structure FileTree where
  entries : Table Location Entry
  workingDirectory : Location
  deriving DecidableEq

namespace FileTree
open FileError (Cause)

def entry? (t : FileTree) (location : Location) : Option Entry :=
  if location = [] then some .directory else t.entries.find? location

def longestName : Nat := 255

def pathLimit : Nat := 4096

def step (t : FileTree) (location : Location) (part : String) : Except Cause Location :=
  match t.entry? location with
  | none => .error .missing
  | some (.file _) => .error .notDirectory
  | some .directory =>
    if part = ".." then .ok location.dropLast
    else if longestName < part.utf8ByteSize then .error .nameTooLong
    else .ok (location ++ [part])

def start (t : FileTree) (path : Path) : Location :=
  if path.anchor = .relative then t.workingDirectory else []

def locate (t : FileTree) (path : Path) : Except Cause Location :=
  if path.parts.any fun part => part.toList.contains '\x00' then .error .nullCharacter
  else if pathLimit ≤ path.text.utf8ByteSize then .error .nameTooLong
  else path.parts.foldlM t.step (t.start path)

def lookup (t : FileTree) (path : Path) : Except Cause Entry := do
  let location ← t.locate path
  match t.entry? location with
  | some entry => .ok entry
  | none => .error .missing

def exists? (t : FileTree) (path : Path) : Except FileError Bool :=
  match t.lookup path with
  | .ok _ => .ok true
  | .error .nameTooLong => .error ⟨.nameTooLong, path⟩
  | .error _ => .ok false

def isDirectory (t : FileTree) (path : Path) : Bool :=
  match t.lookup path with
  | .ok .directory => true
  | _ => false

def read (t : FileTree) (path : Path) : Except FileError String :=
  match t.lookup path with
  | .ok (.file text) => .ok text
  | .ok .directory => .error ⟨.isDirectory, path⟩
  | .error cause => .error ⟨cause, path⟩

def normalizeNewlines : List Char → List Char
  | '\r' :: '\n' :: rest => '\n' :: normalizeNewlines rest
  | '\r' :: rest => '\n' :: normalizeNewlines rest
  | c :: rest => c :: normalizeNewlines rest
  | [] => []

def readText (t : FileTree) (path : Path) : Except FileError String :=
  (t.read path).map fun text => String.ofList (normalizeNewlines text.toList)

def set (t : FileTree) (location : Location) (entry : Entry) : FileTree :=
  { t with entries := t.entries.insert location entry }

def write (t : FileTree) (path : Path) (text : String) : Except FileError FileTree :=
  match t.locate path with
  | .error cause => .error ⟨cause, path⟩
  | .ok location =>
    match t.entry? location with
    | some .directory => .error ⟨.isDirectory, path⟩
    | _ => .ok (t.set location (.file text))

def makeDirectory (t : FileTree) (path : Path) : Except Cause FileTree :=
  match t.locate path with
  | .error cause => .error cause
  | .ok location =>
    match t.entry? location with
    | some _ => .error .present
    | none => .ok (t.set location .directory)

def ensureDirectory (t : FileTree) (path : Path) : FileTree × Option FileError :=
  match t.makeDirectory path with
  | .ok made => (made, none)
  | .error cause =>
    if cause ≠ .missing && t.isDirectory path then (t, none) else (t, some ⟨cause, path⟩)

/- Makes a directory given by its parts from last to first, with all its parents. What was made before
a failure stays. -/
def ensureParts (t : FileTree) (anchor : Anchor) : List String → FileTree × Option FileError
  | [] => t.ensureDirectory ⟨anchor, []⟩
  | last :: parents =>
    let path : Path := ⟨anchor, (last :: parents).reverse⟩
    match t.makeDirectory path with
    | .error .missing =>
      match t.ensureParts anchor parents with
      | (made, none) => made.ensureDirectory path
      | failed => failed
    | _ => t.ensureDirectory path

def ensureDirectories (t : FileTree) (path : Path) : FileTree × Option FileError :=
  t.ensureParts path.anchor path.parts.reverse

def sorted (texts : List String) : List String :=
  texts.mergeSort fun a b => !decide (b < a)

def names (t : FileTree) (location : Location) : List String :=
  sorted (t.entries.keys.filterMap fun key =>
    match key.getLast? with
    | some name => if key.dropLast = location then some name else none
    | none => none)

def remove (t : FileTree) (path : Path) : Except FileError FileTree :=
  match t.locate path with
  | .error cause => .error ⟨cause, path⟩
  | .ok location =>
    match t.entry? location with
    | none => .error ⟨.missing, path⟩
    | some .directory => .error ⟨.isDirectory, path⟩
    | some (.file _) => .ok { t with entries := t.entries.erase location }

def listing (t : FileTree) (location : Location) : List String :=
  sorted (t.entries.entries.filterMap fun (key, entry) =>
    if location.isPrefixOf key && location.length < key.length then
      let path := "/".intercalate (key.drop location.length)
      some (if entry = .directory then path ++ "/" else path)
    else none)

end FileTree
end UtilityLayout
