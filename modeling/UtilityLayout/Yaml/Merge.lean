import UtilityLayout.Yaml.Fault
import UtilityLayout.Yaml.Graph
/-! Merge keys in a graph. A mapping with such keys is replaced by one without: first the entries that they
stand for, then its own. The key of a default value becomes a text by the same step, wherever it is used. -/
namespace UtilityLayout.Yaml

abbrev Edit := StateT Graph (Except Fault)

namespace Graph

def farthest : Nat := 2 * deepest

def entries (g : Graph) (id : NodeId) : List (NodeId × NodeId) :=
  match g.node id with
  | .mapping _ entries => entries
  | _ => []

def setEntries (g : Graph) (id : NodeId) (entries : List (NodeId × NodeId)) : Graph :=
  g.set id (.mapping (g.tag id) entries)

def setTag (g : Graph) (id : NodeId) (tag : Tag) : Graph :=
  g.set id ((g.node id).withTag tag)

end Graph

namespace Merge

def entriesOf (flatten : NodeId → Edit Unit) (id : NodeId) : Edit (List (NodeId × NodeId)) := do
  match (← get).node id with
  | .mapping .. =>
    flatten id
    return (← get).entries id
  | _ => throw .malformed

/- The entries that a merge key stands for. Of several mappings the last comes first, so that the values of
the first count. -/
def standsFor (flatten : NodeId → Edit Unit) (value : NodeId) : Edit (List (NodeId × NodeId)) := do
  match (← get).node value with
  | .sequence _ items =>
    let found ← items.mapM (entriesOf flatten)
    return found.reverse.flatten
  | _ => entriesOf flatten value

/- Goes through the entries of a mapping from some place on, and gives what its merge keys stand for. A merge
key is taken out before it is followed; if it leads back to the mapping, nothing is left to do here. -/
def collect (flatten : NodeId → Edit Unit) (id : NodeId) (before : List (NodeId × NodeId)) :
    List (NodeId × NodeId) → Edit (List (NodeId × NodeId))
  | [] => pure []
  | (key, value) :: rest => do
    match (← get).tag key with
    | .merge =>
      modify (·.setEntries id (before ++ rest))
      let found ← standsFor flatten value
      if (← get).entries id = before ++ rest then
        return found ++ (← collect flatten id before rest)
      else return found
    | .default =>
      modify (·.setTag key .text)
      collect flatten id (before ++ [(key, value)]) rest
    | _ => collect flatten id (before ++ [(key, value)]) rest

def flatten : Nat → NodeId → Edit Unit
  | 0, _ => throw .tooDeep
  | more + 1, id => do
    let merged ← collect (flatten more) id [] ((← get).entries id)
    modify fun g => g.setEntries id (merged ++ g.entries id)

end Merge
end UtilityLayout.Yaml
