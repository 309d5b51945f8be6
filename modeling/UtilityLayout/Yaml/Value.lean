import UtilityLayout.Datum.Basic
import UtilityLayout.Yaml.Content
import UtilityLayout.Yaml.Merge
/-! The values of nodes. A scalar has its value at once; a collection gets its parts later, when those of all
collections that were met before it have been taken. So of several faults the one nearest to the root counts,
and a collection may be part of itself. -/
namespace UtilityLayout.Yaml

inductive Value where
  | scalar (s : Scalar)
  | list (items : List NodeId)
  | pairs (entries : List (NodeId × NodeId))
  | set (members : List Scalar)
  | map (entries : List (Scalar × NodeId))
  deriving DecidableEq, Repr

structure Valuation where
  graph : Graph
  values : Array (Option Value)
  waiting : List NodeId
  deriving Repr

abbrev Evaluate := StateT Valuation (Except Fault)

namespace Graph

def text (g : Graph) : Nat → NodeId → Except Fault Text
  | 0, _ => .error .tooDeep
  | more + 1, id =>
    match g.node id with
    | .scalar _ t => .ok t
    | .sequence .. => .error .malformed
    | .mapping _ entries =>
      match entries.find? fun entry => g.tag entry.1 = .default with
      | some (_, value) => g.text more value
      | none => .error .malformed

def scalar (g : Graph) (id : NodeId) : Except Fault Scalar := do
  let node := g.node id
  if !node.tag.isScalar then throw .malformed
  let text ← g.text farthest id
  if node.tag = .time && node.isMapping then throw .timeOfMapping
  Content.scalar node.tag text

end Graph

namespace Value

def empty? : Tag → Option Value
  | .list => some (.list [])
  | .pairs => some (.pairs [])
  | .set => some (.set [])
  | .map => some (.map [])
  | _ => none

def assign (id : NodeId) (value : Value) : Evaluate Unit :=
  modify fun v => { v with values := v.values.setIfInBounds id (some value) }

def find? (id : NodeId) : Evaluate (Option Value) := do
  return (← get).values.getD id none

def visit (id : NodeId) : Evaluate Value := do
  match ← find? id with
  | some value => return value
  | none =>
    let graph := (← get).graph
    match empty? (graph.tag id) with
    | some value =>
      assign id value
      modify fun v => { v with waiting := id :: v.waiting }
      return value
    | none =>
      let value ← .scalar <$> graph.scalar id
      assign id value
      return value

def visitKey (id : NodeId) : Evaluate Scalar := do
  match ← visit id with
  | .scalar s => return s
  | _ => throw .malformed

def visitMapping (id : NodeId) : Evaluate (List (Scalar × NodeId)) := do
  match (← get).graph.node id with
  | .mapping .. =>
    let ((), graph) ← (Merge.flatten Graph.farthest id).run (← get).graph
    modify fun v => { v with graph }
    let entries ← (graph.entries id).mapM fun (key, value) => do
      let key ← visitKey key
      let _ ← visit value
      return (key, value)
    return Datum.collect entries
  | _ => throw .malformed

def visitPair (id : NodeId) : Evaluate (NodeId × NodeId) := do
  match (← get).graph.node id with
  | .mapping _ [(key, value)] =>
    let _ ← visit key
    let _ ← visit value
    return (key, value)
  | _ => throw .malformed

def visitItem (id : NodeId) : Evaluate NodeId := do
  let _ ← visit id
  return id

def visitSequence (id : NodeId) (visitItem : NodeId → Evaluate α) : Evaluate (List α) := do
  match (← get).graph.node id with
  | .sequence _ items => items.mapM visitItem
  | _ => throw .malformed

def complete (id : NodeId) : Evaluate Unit := do
  match (← get).graph.tag id with
  | .list => assign id (.list (← visitSequence id visitItem))
  | .pairs => assign id (.pairs (← visitSequence id visitPair))
  | .set => assign id (.set ((← visitMapping id).map Prod.fst))
  | .map => assign id (.map (← visitMapping id))
  | _ => pure ()

def completeAll : Nat → Evaluate Unit
  | 0 => pure ()
  | rounds + 1 => do
    let waiting := (← get).waiting.reverse
    if waiting.isEmpty then return
    modify fun v => { v with waiting := [] }
    waiting.forM complete
    completeAll rounds

end Value

def Graph.values (g : Graph) (root : NodeId) : Except Fault (Array (Option Value)) := do
  let start : Valuation := ⟨g, Array.replicate g.size none, []⟩
  let (_, found) ← (do
    let _ ← Value.visit root
    Value.completeAll (g.size + 1) : Evaluate Unit).run start
  return found.values

end UtilityLayout.Yaml
