import UtilityLayout.Datum.Basic
import UtilityLayout.Yaml.Value
/-! The data of a document: the values of its nodes put together from the root. -/
namespace UtilityLayout.Yaml

abbrev Unfold := StateM (Array (Option Datum))

namespace Value

def keep (id : NodeId) (datum : Datum) : Unfold Datum := do
  modify fun found => found.setIfInBounds id (some datum)
  return datum

/- The datum of a node. The nodes that are being put together are given; a reference to one of them stays a
reference. The first argument bounds how many there are. -/
def datum (values : Array (Option Value)) : Nat → List NodeId → NodeId → Unfold Datum
  | 0, _, _ => return .null
  | more + 1, within, id => do
    match (← get).getD id none with
    | some found => return found
    | none =>
      let part := datum values more (id :: within)
      match values.getD id none with
      | some (.scalar s) => return .scalar s
      | some (.set members) => return .set members
      | some (.list items) =>
        if within.contains id then return .enclosing false
        keep id (.list (← items.mapM part))
      | some (.pairs entries) =>
        if within.contains id then return .enclosing false
        keep id (.list (← entries.mapM fun (key, value) => do return .list [← part key, ← part value]))
      | some (.map entries) =>
        if within.contains id then return .enclosing true
        keep id (.map (← entries.mapM fun (key, value) => do return (key, ← part value)))
      | none => return .null

end Value

namespace Graph

def datum (g : Graph) (root : NodeId) : Except Fault Datum := do
  let values ← g.values root
  return ((Value.datum values (g.size + 1) [] root).run (Array.replicate g.size none)).1

end Graph

/- A text comes in pieces, and the first piece is twice as long. -/
def pieceLength : Nat := 4096

def lengthBefore (index : Nat) : Nat :=
  if index < 2 * pieceLength then 0 else index / pieceLength * pieceLength

/- A document that cannot be read to its end. What comes in before the piece with an unreadable character
is read all the same, and may fail in its own way. -/
def readBroken (characters : List Char) (index : Nat) : Fault :=
  match Graph.read? (characters.take (lengthBefore index) ++ (characters.drop index).take 1) with
  | .error fault => fault
  | .ok _ => .malformed

def read (text : String) : Except Fault Datum := do
  let characters := text.toList
  match characters.findIdx? fun c => !isAllowed c with
  | some index => throw (readBroken characters index)
  | none =>
    match ← Graph.read? characters with
    | (none, _) => return .null
    | (some root, graph) => graph.datum root

end UtilityLayout.Yaml
