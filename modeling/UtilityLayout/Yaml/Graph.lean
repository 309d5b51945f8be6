import UtilityLayout.Yaml.Tag
import UtilityLayout.Yaml.TokenStream
/-! The graph of a document: tagged scalars, sequences and mappings, which name their parts by number. A
reference names the node that was declared, so that a node may be part of several others and of itself. -/
namespace UtilityLayout.Yaml

abbrev NodeId := Nat

inductive Node where
  | scalar (tag : Tag) (text : Text)
  | sequence (tag : Tag) (items : List NodeId)
  | mapping (tag : Tag) (entries : List (NodeId × NodeId))
  deriving DecidableEq, Repr

namespace Node

def tag : Node → Tag
  | scalar tag _ | sequence tag _ | mapping tag _ => tag

def withTag (tag : Tag) : Node → Node
  | scalar _ text => .scalar tag text
  | sequence _ items => .sequence tag items
  | mapping _ entries => .mapping tag entries

def isMapping : Node → Bool
  | mapping .. => true
  | _ => false

def absent : Node :=
  .scalar .null ⟨[]⟩

end Node

structure Graph where
  nodes : Array Node
  deriving DecidableEq, Repr

namespace Graph

def size (g : Graph) : Nat :=
  g.nodes.size

def node (g : Graph) (id : NodeId) : Node :=
  g.nodes.getD id .absent

def tag (g : Graph) (id : NodeId) : Tag :=
  (g.node id).tag

def add (g : Graph) (node : Node) : NodeId × Graph :=
  (g.nodes.size, ⟨g.nodes.push node⟩)

def set (g : Graph) (id : NodeId) (node : Node) : Graph :=
  ⟨g.nodes.setIfInBounds id node⟩

def deepest : Nat := 488

inductive Place where
  | flow
  | block
  | blockValue
  deriving DecidableEq

structure Reader where
  lexer : Lexer
  graph : Graph
  anchors : List (String × NodeId)
  handles : List (String × String)

abbrev Read := StateT Reader (Except Fault)

namespace Read

def peek : Read Token := do
  let (token, lexer) ← (← get).lexer.peek
  modify fun r => { r with lexer }
  pure token

def drop : Read Unit :=
  modify fun r => { r with lexer := r.lexer.drop }

def accept (token : Token) : Read Bool := do
  if (← peek) = token then drop; pure true else pure false

def expect (token : Token) : Read Unit := do
  if !(← accept token) then throw .malformed

def add (node : Node) : Read NodeId := do
  let (id, graph) := (← get).graph.add node
  modify fun r => { r with graph }
  pure id

def declare (anchor? : Option String) (node : Node) : Read NodeId := do
  match anchor? with
  | none => add node
  | some name =>
    if ((← get).anchors.lookup name).isSome then throw .malformed
    let id ← add node
    modify fun r => { r with anchors := (name, id) :: r.anchors }
    pure id

def complete (id : NodeId) (node : Node) : Read NodeId := do
  modify fun r => { r with graph := r.graph.set id node }
  pure id

def fullName (name : TagName) : Read String := do
  match name.handle? with
  | none => pure name.suffix
  | some handle =>
    match (← get).handles.lookup handle with
    | some value => pure (value ++ name.suffix)
    | none => throw .malformed

def properties : Read (Option String × Option String) := do
  match ← peek with
  | .anchor name =>
    drop
    match ← peek with
    | .tag tag => drop; pure (some name, some (← fullName tag))
    | _ => pure (some name, none)
  | .tag tag =>
    drop
    match ← peek with
    | .anchor name => drop; pure (some name, some (← fullName tag))
    | _ => pure (none, some (← fullName tag))
  | _ => pure (none, none)

def collectionTag (tag? : Option String) (standard : Tag) : Tag :=
  match tag? with
  | none => standard
  | some name => if name = "!" then standard else .ofName name

def plainTag (text : Text) : Tag :=
  (text.chars?.map Tag.ofPlain).getD .text

def scalarTag (tag? : Option String) (plain : Bool) (text : Text) : Tag :=
  match tag? with
  | none => if plain then plainTag text else .text
  | some name => if name = "!" then plainTag text else .ofName name

mutual

/- A node. The first argument bounds the number of steps, here and below; the second tells how many
collections may still stand in each other. -/
def node : Nat → Nat → Place → Read NodeId
  | 0, _, _ => throw .malformed
  | fuel + 1, depth, place => do
    match ← peek with
    | .alias name =>
      drop
      match (← get).anchors.lookup name with
      | some found => pure found
      | none => throw .malformed
    | _ => do
      let (anchor?, tag?) ← properties
      match ← peek with
      | .scalar text plain =>
        drop
        declare anchor? (.scalar (scalarTag tag? plain text) text)
      | token =>
        if token = .entry && place = .blockValue then
          sequenceOf anchor? tag? depth (indentless fuel)
        else if token = .openBracket then do
          drop
          sequenceOf anchor? tag? depth (bracketed fuel true)
        else if token = .openBrace then do
          drop
          mappingOf anchor? tag? depth (braced fuel true)
        else if token = .sequenceStart && place ≠ .flow then do
          drop
          sequenceOf anchor? tag? depth (entries fuel)
        else if token = .mappingStart && place ≠ .flow then do
          drop
          mappingOf anchor? tag? depth (pairs fuel)
        else if anchor?.isSome || tag?.isSome then
          declare anchor? (.scalar (scalarTag tag? tag?.isNone ⟨[]⟩) ⟨[]⟩)
        else throw .malformed

def sequenceOf (anchor? tag? : Option String) (depth : Nat) (items : Nat → Read (List NodeId)) :
    Read NodeId := do
  let tag := collectionTag tag? .list
  let id ← declare anchor? (.sequence tag [])
  match depth with
  | 0 => throw .tooDeep
  | depth + 1 => complete id (.sequence tag (← items depth))

def mappingOf (anchor? tag? : Option String) (depth : Nat)
    (pairs : Nat → Read (List (NodeId × NodeId))) : Read NodeId := do
  let tag := collectionTag tag? .map
  let id ← declare anchor? (.mapping tag [])
  match depth with
  | 0 => throw .tooDeep
  | depth + 1 => complete id (.mapping tag (← pairs depth))

def nodeUnless : Nat → Nat → Place → List Token → Read NodeId
  | 0, _, _, _ => throw .malformed
  | fuel + 1, depth, place, stops => do
    if stops.contains (← peek) then add .absent else node fuel depth place

def entries : Nat → Nat → Read (List NodeId)
  | 0, _ => throw .malformed
  | fuel + 1, depth => do
    if ← accept .entry then
      let item ← nodeUnless fuel depth .block [.entry, .blockEnd]
      let more ← entries fuel depth
      pure (item :: more)
    else
      expect .blockEnd
      pure []

def indentless : Nat → Nat → Read (List NodeId)
  | 0, _ => throw .malformed
  | fuel + 1, depth => do
    if ← accept .entry then
      let item ← nodeUnless fuel depth .block [.entry, .key, .value, .blockEnd]
      let more ← indentless fuel depth
      pure (item :: more)
    else pure []

def pairs : Nat → Nat → Read (List (NodeId × NodeId))
  | 0, _ => throw .malformed
  | fuel + 1, depth => do
    if ← accept .key then
      let key ← nodeUnless fuel depth .blockValue [.key, .value, .blockEnd]
      let value ←
        if ← accept .value then nodeUnless fuel depth .blockValue [.key, .value, .blockEnd]
        else add .absent
      let more ← pairs fuel depth
      pure ((key, value) :: more)
    else
      expect .blockEnd
      pure []

def bracketed : Nat → Bool → Nat → Read (List NodeId)
  | 0, _, _ => throw .malformed
  | fuel + 1, first, depth => do
    if ← accept .closeBracket then pure []
    else
      if !first then expect .comma
      if ← accept .key then
        let item ← mappingOf none none depth (pair fuel)
        let more ← bracketed fuel false depth
        pure (item :: more)
      else if ← accept .closeBracket then pure []
      else
        let item ← node fuel depth .flow
        let more ← bracketed fuel false depth
        pure (item :: more)

def pair : Nat → Nat → Read (List (NodeId × NodeId))
  | 0, _ => throw .malformed
  | fuel + 1, depth => do
    let key ← nodeUnless fuel depth .flow [.value, .comma, .closeBracket]
    let value ←
      if ← accept .value then nodeUnless fuel depth .flow [.comma, .closeBracket] else add .absent
    pure [(key, value)]

def braced : Nat → Bool → Nat → Read (List (NodeId × NodeId))
  | 0, _, _ => throw .malformed
  | fuel + 1, first, depth => do
    if ← accept .closeBrace then pure []
    else
      if !first then expect .comma
      if ← accept .key then
        let key ← nodeUnless fuel depth .flow [.value, .comma, .closeBrace]
        let value ←
          if ← accept .value then nodeUnless fuel depth .flow [.comma, .closeBrace] else add .absent
        let more ← braced fuel false depth
        pure ((key, value) :: more)
      else if ← accept .closeBrace then pure []
      else
        let key ← node fuel depth .flow
        let value ← add .absent
        let more ← braced fuel false depth
        pure ((key, value) :: more)

end

def standardHandles : List (String × String) :=
  [("!", "!"), ("!!", Tag.standard)]

def directives : Nat → Bool → List (String × String) → Read (List (String × String))
  | 0, _, _ => throw .malformed
  | fuel + 1, versioned, handles => do
    match ← peek with
    | .directive d =>
      drop
      match d with
      | .version major _ =>
        if versioned || major != 1 then throw .malformed
        directives fuel true handles
      | .handle name value =>
        if (handles.lookup name).isSome then throw .malformed
        directives fuel versioned ((name, value) :: handles)
      | .unknown => directives fuel versioned handles
    | _ => pure handles

def skipEnds : Nat → Read Unit
  | 0 => pure ()
  | fuel + 1 => do
    if ← accept .documentEnd then skipEnds fuel

def isDirective : Token → Bool
  | .directive _ => true
  | _ => false

def marked (fuel : Nat) : Read NodeId := do
  let handles ← directives fuel false []
  expect .documentStart
  modify fun r => { r with handles := handles ++ standardHandles }
  let token ← peek
  if isDirective token || token = .documentStart || token = .documentEnd || token = .streamEnd then
    add .absent
  else node fuel deepest .block

/- The root of the only document; `none` if there is no document. The directives of a second document are
read before it is refused. -/
def single (fuel : Nat) : Read (Option NodeId) := do
  let first ← peek
  if first = .streamEnd then return none
  let root ←
    if isDirective first || first = .documentStart then marked fuel else node fuel deepest .block
  skipEnds fuel
  if (← peek) = .streamEnd then return some root
  let _ ← directives fuel false []
  throw .malformed

end Read

/- The graph of the only document in a text, and its root. A character gives five tokens at most, and a token
takes four steps at most. -/
def read? (text : List Char) : Except Fault (Option NodeId × Graph) :=
  let reader : Reader := ⟨.ofText text, ⟨#[]⟩, [], Read.standardHandles⟩
  ((Read.single (20 * text.length + 40)).run reader).map fun (root?, r) => (root?, r.graph)

end Graph
end UtilityLayout.Yaml
