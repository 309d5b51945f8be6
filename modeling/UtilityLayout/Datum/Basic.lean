import UtilityLayout.Datum.Scalar
import UtilityLayout.Json.Basic
/-! Documents as data: scalars, lists, sets and mappings with scalar keys in order. A reference to a
collection that encloses it is kept as such, without its content. -/
namespace UtilityLayout

inductive Datum where
  | scalar (s : Scalar)
  | list (items : List Datum)
  | set (members : List Scalar)
  | map (entries : List (Scalar × Datum))
  /-- A reference to an enclosing mapping, or else to an enclosing list. -/
  | enclosing (mapping : Bool)
  deriving Repr

namespace Datum

abbrev Entries := List (Scalar × Datum)

abbrev null : Datum := .scalar .null

abbrev text (t : Text) : Datum := .scalar (.text t)

/- A later entry with the same key replaces the value, and keeps key and place of the first. -/
def put (key : Scalar) (value : α) : List (Scalar × α) → List (Scalar × α)
  | [] => [(key, value)]
  | entry :: rest =>
    if entry.1.sameKey key then (entry.1, value) :: rest else entry :: put key value rest

def putAll (found entries : List (Scalar × α)) : List (Scalar × α) :=
  entries.foldl (fun found entry => put entry.1 entry.2 found) found

def collect (entries : List (Scalar × α)) : List (Scalar × α) :=
  putAll [] entries

def kind : Datum → String
  | scalar s => s.kind
  | list _ => "list"
  | set _ => "set"
  | map _ => "dict"
  | enclosing mapping => if mapping then "dict" else "list"

def isAbsent : Datum → Bool
  | scalar s => s.isAbsent
  | list items => items.isEmpty
  | set members => members.isEmpty
  | map entries => entries.isEmpty
  | enclosing _ => false

def find? (entries : Entries) (key : String) : Option Datum :=
  (entries.find? fun entry => entry.1.sameKey (.text key)).map Prod.snd

mutual

def ofJson : Json → Datum
  | .null => .null
  | .bool b => .scalar (.bool b)
  | .int i => .scalar (.int i)
  | .float x => .scalar (.float x)
  | .string t => .text t
  | .array items => .list (ofItems items)
  | .object members => .map (collect (ofMembers members))

def ofItems : List Json → List Datum
  | [] => []
  | item :: rest => ofJson item :: ofItems rest

def ofMembers : List (Text × Json) → Entries
  | [] => []
  | (name, value) :: rest => (.text name, ofJson value) :: ofMembers rest

end

end Datum
end UtilityLayout
