import TenPuzzle.Yaml.Kind
import TenPuzzle.Yaml.Lexer

/-!
From tokens to the nodes of a document. Nodes are numbered as they start, and a collection names
its parts by number: an alias mentions the node of its anchor once more, inside of that node too.
Where a node may be left out an empty plain scalar stands in. A fault at the end of the tokens
counts as soon as a reader looks at it.
-/

namespace TenPuzzle.Yaml

inductive Content where
  | scalar (text : List Char)
  | sequence (items : List Nat)
  | mapping (pairs : List (Nat × Nat))
  deriving DecidableEq, Repr

structure Node where
  kind : Kind
  content : Content
  deriving DecidableEq, Repr

abbrev Nodes := Array Node

/-- The nodes of a document, and the number of the outermost one. -/
structure Graph where
  nodes : Nodes
  root : Nat
  deriving DecidableEq, Repr

def nestingLimit : Nat := 485

abbrev Handles := List (List Char × List Char)

def standardHandles : Handles :=
  [(['!'], ['!']), (['!', '!'], "tag:yaml.org,2002:".toList)]

inductive Place where
  | flow
  | block
  | pair
  deriving DecidableEq, Repr

def faultAt : List Token → Fault
  | .broken fault :: _ => fault
  | _ => .malformed

structure Properties where
  anchor : Option (List Char)
  tag : Option WrittenTag
  deriving DecidableEq, Repr

def splitProperties : List Token → Except Fault (Properties × List Token)
  | .anchor name :: .tag tag :: rest => .ok (⟨some name, some tag⟩, rest)
  | .tag tag :: .anchor name :: rest => .ok (⟨some name, some tag⟩, rest)
  | .anchor _ :: .broken fault :: _ => .error fault
  | .tag _ :: .broken fault :: _ => .error fault
  | .anchor name :: rest => .ok (⟨some name, none⟩, rest)
  | .tag tag :: rest => .ok (⟨none, some tag⟩, rest)
  | rest => .ok (⟨none, none⟩, rest)

def fullTag (handles : Handles) : Option WrittenTag → Except Fault (Option (List Char))
  | none => .ok none
  | some ⟨none, suffix⟩ => .ok (some suffix)
  | some ⟨some handle, suffix⟩ =>
    match handles.lookup handle with
    | some expansion => .ok (some (expansion ++ suffix))
    | none => .error .malformed

/-- What is left of the tokens, the nodes so far, and those of the anchors, latest first. -/
structure Remaining where
  tokens : List Token
  nodes : Nodes
  anchors : List (List Char × Nat)
  levels : Nat
  deriving DecidableEq, Repr

namespace Remaining

def drop (state : Remaining) (count : Nat) : Remaining :=
  { state with tokens := state.tokens.drop count }

def refuse (state : Remaining) : Except Fault α :=
  .error (faultAt state.tokens)

def isBroken (state : Remaining) : Bool :=
  match state.tokens with
  | .broken _ :: _ => true
  | _ => false

def names (state : Remaining) (anchor : Option (List Char)) : Bool :=
  anchor.any fun name => (state.anchors.lookup name).isSome

def add (state : Remaining) (anchor : Option (List Char)) (node : Node) : Nat × Remaining :=
  let number := state.nodes.size
  let anchors := match anchor with
    | some name => (name, number) :: state.anchors
    | none => state.anchors
  (number, { state with nodes := state.nodes.push node, anchors := anchors })

def addEmpty (state : Remaining) : Nat × Remaining :=
  state.add none ⟨.null, .scalar []⟩

/-- Adds the node of a collection that starts, so that what is inside of it may mention it. -/
def enter (state : Remaining) (anchor : Option (List Char)) (kind : Kind) :
    Except Fault (Nat × Remaining) :=
  match state.levels with
  | 0 => .error .tooDeep
  | levels + 1 => .ok ({ state with levels := levels }.add anchor ⟨kind, .sequence []⟩)

def leave (state : Remaining) (number : Nat) (content : Content) : Nat × Remaining :=
  (number, { state with
    nodes := state.nodes.modify number fun node => { node with content := content }
    levels := state.levels + 1 })

def stopsAt (state : Remaining) (stops : List Token) : Bool :=
  state.tokens.head?.any stops.contains

def passComma (state : Remaining) (first : Bool) (closing : Token) : Except Fault Remaining :=
  if first || state.tokens.head? = some closing then .ok state
  else if state.tokens.head? = some .comma then .ok (state.drop 1)
  else state.refuse

end Remaining

def blockStops : List Token :=
  [.dash, .key, .value, .blockEnd]

def pairStops : List Token :=
  [.key, .value, .blockEnd]

def flowStops (closing : Token) : List Token :=
  [.value, .comma, closing]

mutual

def readNode (handles : Handles) (place : Place) :
    Nat → Remaining → Except Fault (Nat × Remaining)
  | 0, _ => .error .malformed
  | fuel + 1, state => do
    match state.tokens with
    | .alias name :: _ =>
      match state.anchors.lookup name with
      | some number => .ok (number, state.drop 1)
      | none => .error .malformed
    | _ =>
      let (properties, tokens) ← splitProperties state.tokens
      let tag ← fullTag handles properties.tag
      let bare := { state with tokens := tokens }
      if bare.isBroken then bare.refuse
      else if state.names properties.anchor then .error .malformed
      else readContent handles place properties.anchor tag fuel bare

def readContent (handles : Handles) (place : Place) (anchor tag : Option (List Char)) :
    Nat → Remaining → Except Fault (Nat × Remaining)
  | 0, _ => .error .malformed
  | fuel + 1, state => do
    match place, state.tokens with
    | _, .scalar text plain :: _ =>
      let implied := if plain || tag.isSome then impliedKind text else .text
      .ok ((state.drop 1).add anchor ⟨kindOf tag implied, .scalar text⟩)
    | _, .sequenceStart :: _ =>
      let (number, inside) ← (state.drop 1).enter anchor (kindOf tag .sequence)
      let (items, after) ← readFlowItems handles true fuel inside
      .ok (after.leave number (.sequence items))
    | _, .mappingStart :: _ =>
      let (number, inside) ← (state.drop 1).enter anchor (kindOf tag .mapping)
      let (pairs, after) ← readFlowPairs handles true fuel inside
      .ok (after.leave number (.mapping pairs))
    | .pair, .dash :: _ =>
      let (number, inside) ← state.enter anchor (kindOf tag .sequence)
      let (items, after) ← readItems handles fuel inside
      .ok (after.leave number (.sequence items))
    | .flow, _ => leftOut anchor tag state
    | _, .blockSequence :: _ =>
      let (number, inside) ← (state.drop 1).enter anchor (kindOf tag .sequence)
      let (items, after) ← readItems handles fuel inside
      if after.tokens.head? = some .blockEnd then
        .ok ((after.drop 1).leave number (.sequence items))
      else after.refuse
    | _, .blockMapping :: _ =>
      let (number, inside) ← (state.drop 1).enter anchor (kindOf tag .mapping)
      let (pairs, after) ← readPairs handles fuel inside
      .ok (after.leave number (.mapping pairs))
    | _, _ => leftOut anchor tag state

def leftOut (anchor tag : Option (List Char)) (state : Remaining) :
    Except Fault (Nat × Remaining) :=
  if anchor.isSome || tag.isSome then .ok (state.add anchor ⟨kindOf tag .null, .scalar []⟩)
  else state.refuse

def readOrEmpty (handles : Handles) (place : Place) (stops : List Token) :
    Nat → Remaining → Except Fault (Nat × Remaining)
  | 0, _ => .error .malformed
  | fuel + 1, state =>
    if state.stopsAt stops then .ok state.addEmpty
    else readNode handles place fuel state

def readPair (handles : Handles) (place : Place) (stops : List Token) :
    Nat → Remaining → Except Fault ((Nat × Nat) × Remaining)
  | 0, _ => .error .malformed
  | fuel + 1, state => do
    let (key, afterKey) ← readOrEmpty handles place stops fuel state
    let (value, afterValue) ←
      if afterKey.tokens.head? = some .value then
        readOrEmpty handles place stops fuel (afterKey.drop 1)
      else .ok afterKey.addEmpty
    .ok ((key, value), afterValue)

def readItems (handles : Handles) : Nat → Remaining → Except Fault (List Nat × Remaining)
  | 0, _ => .error .malformed
  | fuel + 1, state => do
    if state.tokens.head? = some .dash then
      let (item, afterItem) ← readOrEmpty handles .block blockStops fuel (state.drop 1)
      let (items, afterItems) ← readItems handles fuel afterItem
      .ok (item :: items, afterItems)
    else .ok ([], state)

def readPairs (handles : Handles) : Nat → Remaining → Except Fault (List (Nat × Nat) × Remaining)
  | 0, _ => .error .malformed
  | fuel + 1, state => do
    match state.tokens with
    | .key :: _ =>
      let (pair, afterPair) ← readPair handles .pair pairStops fuel (state.drop 1)
      let (pairs, afterPairs) ← readPairs handles fuel afterPair
      .ok (pair :: pairs, afterPairs)
    | .blockEnd :: _ => .ok ([], state.drop 1)
    | _ => state.refuse

/-- Reads the items of a flow sequence, and its end. A pair among them is a mapping of its own. -/
def readFlowItems (handles : Handles) (first : Bool) :
    Nat → Remaining → Except Fault (List Nat × Remaining)
  | 0, _ => .error .malformed
  | fuel + 1, state => do
    let behind ← state.passComma first .sequenceEnd
    match behind.tokens with
    | .sequenceEnd :: _ => .ok ([], behind.drop 1)
    | .key :: _ =>
      let (number, inside) ← (behind.drop 1).enter none .mapping
      let (pair, afterPair) ← readPair handles .flow (flowStops .sequenceEnd) fuel inside
      let (item, afterItem) := afterPair.leave number (.mapping [pair])
      let (items, afterItems) ← readFlowItems handles false fuel afterItem
      .ok (item :: items, afterItems)
    | _ =>
      let (item, afterItem) ← readNode handles .flow fuel behind
      let (items, afterItems) ← readFlowItems handles false fuel afterItem
      .ok (item :: items, afterItems)

def readFlowPairs (handles : Handles) (first : Bool) :
    Nat → Remaining → Except Fault (List (Nat × Nat) × Remaining)
  | 0, _ => .error .malformed
  | fuel + 1, state => do
    let behind ← state.passComma first .mappingEnd
    match behind.tokens with
    | .mappingEnd :: _ => .ok ([], behind.drop 1)
    | .key :: _ =>
      let (pair, afterPair) ← readPair handles .flow (flowStops .mappingEnd) fuel (behind.drop 1)
      let (pairs, afterPairs) ← readFlowPairs handles false fuel afterPair
      .ok (pair :: pairs, afterPairs)
    | _ =>
      let (key, afterKey) ← readNode handles .flow fuel behind
      let (value, afterValue) := afterKey.addEmpty
      let (pairs, afterPairs) ← readFlowPairs handles false fuel afterValue
      .ok ((key, value) :: pairs, afterPairs)

end

structure Directives where
  versioned : Bool
  handles : Handles
  deriving DecidableEq, Repr

def Directives.add (directives : Directives) : Directive → Except Fault Directives
  | .version major =>
    if directives.versioned || major ≠ 1 then .error .malformed
    else .ok { directives with versioned := true }
  | .handle name expansion =>
    if (directives.handles.lookup name).isSome then .error .malformed
    else .ok { directives with handles := directives.handles ++ [(name, expansion)] }
  | .unknown => .ok directives

def readDirectives (directives : Directives) : List Token → Except Fault (Directives × List Token)
  | .directive directive :: rest => do readDirectives (← directives.add directive) rest
  | rest => .ok (directives, rest)

def readRoot (handles : Handles) (tokens : List Token) : Except Fault (Nat × Remaining) :=
  readNode handles .block (4 * tokens.length + 4) ⟨tokens, #[], [], nestingLimit⟩

def startsDocument : List Token → Bool
  | .directive _ :: _ | .documentStart :: _ => true
  | _ => false

def isDocumentBound : List Token → Bool
  | [] | .documentEnd :: _ => true
  | tokens => startsDocument tokens

/-- Reads a document behind its directives. Its own handles stand before the standard ones. -/
def readMarked (tokens : List Token) : Except Fault (Nat × Remaining) := do
  let (directives, afterDirectives) ← readDirectives ⟨false, []⟩ tokens
  match afterDirectives with
  | .documentStart :: rest =>
    if isDocumentBound rest then
      .ok (Remaining.addEmpty ⟨rest, #[], [], nestingLimit⟩)
    else readRoot (directives.handles ++ standardHandles) rest
  | other => .error (faultAt other)

def finish (tokens : List Token) : Except Fault Unit :=
  match tokens.dropWhile (· = .documentEnd) with
  | [] => .ok ()
  | rest => do
    let (_, afterDirectives) ← readDirectives ⟨false, []⟩ rest
    .error (faultAt afterDirectives)

def Graph.ofText (text : List Char) : Except Fault (Option Graph) := do
  match tokens text with
  | [] => .ok none
  | all =>
    let (root, after) ← if startsDocument all then readMarked all else readRoot standardHandles all
    finish after.tokens
    .ok (some ⟨after.nodes, root⟩)

end TenPuzzle.Yaml
