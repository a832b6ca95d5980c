import TenPuzzle.Yaml.Members
import TenPuzzle.Yaml.Merge
import TenPuzzle.Yaml.Scalar

/-!
From the nodes of a document to its values. A scalar has its value at once; a collection is only
noted when it is met, and filled after all those that were met before it. So the outer collections
are read before the inner ones, and the first fault is the outermost.
-/

namespace TenPuzzle.Yaml

/-- The text of a node that is read as a scalar. For a mapping the value of an equals sign stands
in. -/
def textWithin (nodes : Nodes) : Nat → Nat → Except Fault (List Char)
  | 0, _ => .error .tooDeep
  | levels + 1, number =>
    match nodes[number]?.map Node.content with
    | some (.scalar text) => .ok text
    | some (.mapping pairs) =>
      match nodes.findKey? pairs .standIn with
      | some pair => textWithin nodes levels pair.2
      | none => .error .malformed
    | _ => .error .malformed

def scalarAt (nodes : Nodes) (number : Nat) (kind : Kind) : Except Fault Value := do
  if [.merge, .standIn, .unknown].contains kind then .error .malformed
  else
    let text ← textWithin nodes chainLimit number
    if kind = .moment ∧ (nodes.pairs? number).isSome then .error .momentOfCollection
    else readScalar text kind

/-- What is known of the values so far. -/
structure Reading where
  nodes : Nodes
  values : Array (Option Value)
  met : Array Nat
  filled : Array Collection

abbrev Reader (α : Type) := StateT Reading (Except Fault) α

def Kind.isCollection (kind : Kind) : Bool :=
  [.sequence, .mapping, .set, .pairs].contains kind

namespace Reading

def start (nodes : Nodes) : Reading :=
  ⟨nodes, Array.replicate nodes.size none, #[], #[]⟩

def valueOf (number : Nat) : Reader Value := do
  let state ← get
  match state.values[number]?.join with
  | some value => return value
  | none =>
    let kind := state.nodes.kind number
    if kind.isCollection then
      let value := Value.collection state.met.size
      set { state with
        values := state.values.setIfInBounds number (some value)
        met := state.met.push number }
      return value
    else
      let value ← scalarAt state.nodes number kind
      set { state with values := state.values.setIfInBounds number (some value) }
      return value

def entryOf (pair : Nat × Nat) : Reader (Value × Value) := do
  let key ← valueOf pair.1
  if key.isCollection then throw .malformed
  return (key, ← valueOf pair.2)

def onlyEntryOf (number : Nat) : Reader (Value × Value) := do
  match (← get).nodes.pairs? number with
  | some [pair] => return (← valueOf pair.1, ← valueOf pair.2)
  | _ => throw .malformed

def entriesOf (number : Nat) : Reader Entries := do
  let state ← get
  if (state.nodes.pairs? number).isNone then throw .malformed
  let merged ← merge number state.nodes
  set { state with nodes := merged }
  let entries ← ((merged.pairs? number).getD []).mapM entryOf
  return entries.foldl putEntry []

def itemsOf (number : Nat) : Reader (List Nat) := do
  match (← get).nodes[number]?.map Node.content with
  | some (.sequence items) => return items
  | _ => throw .malformed

def collectionOf (number : Nat) : Reader Collection := do
  match (← get).nodes.kind number with
  | .sequence => return .sequence (← (← itemsOf number).mapM valueOf)
  | .mapping => return .mapping (← entriesOf number)
  | .set => return .set (inSlotOrder ((← entriesOf number).map Prod.fst))
  | .pairs => return .pairs (← (← itemsOf number).mapM onlyEntryOf)
  | _ => throw .malformed

/-- Fills the collections that were met, and those that are met meanwhile. Each node is met once, so
that there are no more collections than nodes. -/
def fill : Nat → Reader Unit
  | 0 => return
  | fuel + 1 => do
    let state ← get
    match state.met[state.filled.size]? with
    | none => return
    | some number =>
      let collection ← collectionOf number
      modify fun later => { later with filled := later.filled.push collection }
      fill fuel

end Reading

def Graph.read (graph : Graph) : Except Fault Document := do
  let (root, state) ← (Reading.valueOf graph.root).run (.start graph.nodes)
  let (_, final) ← (Reading.fill graph.nodes.size).run state
  .ok ⟨root, final.filled⟩

def read (text : String) : Except Fault Document := do
  match ← Graph.ofText text.toList with
  | some graph => graph.read
  | none => .ok ⟨.null, #[]⟩

end TenPuzzle.Yaml
