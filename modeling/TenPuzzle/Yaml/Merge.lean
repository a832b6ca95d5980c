import TenPuzzle.Yaml.Node

/-!
Merge keys. The pairs of the mappings that a merge key names are put in front of the pairs of the
mapping that holds it, which thereby prevail. A mapping that is merged takes in what it merges
itself, once and for all.
-/

namespace TenPuzzle.Yaml

/-- How far one mapping may lead to another where mappings are merged, or stand for scalars. -/
def chainLimit : Nat := 970

namespace Nodes

def kind (nodes : Nodes) (number : Nat) : Kind :=
  (nodes[number]?.map Node.kind).getD .unknown

def pairs? (nodes : Nodes) (number : Nat) : Option (List (Nat × Nat)) :=
  match nodes[number]?.map Node.content with
  | some (.mapping pairs) => some pairs
  | _ => none

def setPairs (nodes : Nodes) (number : Nat) (pairs : List (Nat × Nat)) : Nodes :=
  nodes.modify number fun node => { node with content := .mapping pairs }

def setKind (nodes : Nodes) (number : Nat) (kind : Kind) : Nodes :=
  nodes.modify number fun node => { node with kind := kind }

def findKey? (nodes : Nodes) (pairs : List (Nat × Nat)) (kind : Kind) : Option (Nat × Nat) :=
  pairs.find? fun pair => nodes.kind pair.1 = kind

def settleStandIns (nodes : Nodes) (pairs : List (Nat × Nat)) : Nodes :=
  pairs.foldl (fun nodes pair =>
    if nodes.kind pair.1 = .standIn then nodes.setKind pair.1 .text else nodes) nodes

end Nodes

def pairsToMerge (merge : Nat → Nodes → Except Fault Nodes) (number : Nat) (nodes : Nodes) :
    Except Fault (List (Nat × Nat) × Nodes) := do
  match nodes.pairs? number with
  | none => .error .malformed
  | some _ =>
    let merged ← merge number nodes
    .ok ((merged.pairs? number).getD [], merged)

/-- The pairs that the value of a merge key brings: of a sequence, first those of its last item. -/
def broughtBy (merge : Nat → Nodes → Except Fault Nodes) (value : Nat) (nodes : Nodes) :
    Except Fault (List (Nat × Nat) × Nodes) :=
  match nodes[value]?.map Node.content with
  | some (.sequence items) =>
    items.foldlM (fun (brought, nodes) item => do
      let (pairs, merged) ← pairsToMerge merge item nodes
      .ok (pairs ++ brought, merged)) ([], nodes)
  | _ => pairsToMerge merge value nodes

def takeMergeKeys (merge : Nat → Nodes → Except Fault Nodes) (number : Nat) :
    Nat → Nodes → Except Fault (List (Nat × Nat) × Nodes)
  | 0, nodes => .ok ([], nodes)
  | fuel + 1, nodes => do
    let pairs := (nodes.pairs? number).getD []
    match nodes.findKey? pairs .merge with
    | none => .ok ([], nodes)
    | some pair =>
      let (brought, merged) ← broughtBy merge pair.2 (nodes.setPairs number (pairs.erase pair))
      let (more, final) ← takeMergeKeys merge number fuel merged
      .ok (brought ++ more, final)

def mergeWithin : Nat → Nat → Nodes → Except Fault Nodes
  | 0, _, _ => .error .tooDeep
  | levels + 1, number, nodes => do
    let count := ((nodes.pairs? number).getD []).length
    let (brought, taken) ← takeMergeKeys (mergeWithin levels) number count nodes
    let own := (taken.pairs? number).getD []
    .ok ((taken.settleStandIns own).setPairs number (brought ++ own))

def merge (number : Nat) (nodes : Nodes) : Except Fault Nodes :=
  mergeWithin chainLimit number nodes

end TenPuzzle.Yaml
