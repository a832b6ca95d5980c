import TenPuzzle.Yaml.Line

/-!
Block scalars: indented lines under a header, kept as they are or folded. The header may fix the
indentation and say what becomes of the line ends at the end.
-/

namespace TenPuzzle.Yaml

inductive Chomping where
  | clip
  | keep
  | strip
  deriving DecidableEq, Repr

structure BlockHeader where
  chomping : Chomping
  indentation : Option Nat
  deriving DecidableEq, Repr

def chomping? (character : Char) : Option Chomping :=
  if character = '+' then some .keep
  else if character = '-' then some .strip
  else none

def splitChomping : List Char → Option Chomping × List Char
  | [] => (none, [])
  | character :: rest =>
    match chomping? character with
    | some chomping => (some chomping, rest)
    | none => (none, character :: rest)

def splitIndentation : List Char → Except Fault (Option Nat × List Char)
  | [] => .ok (none, [])
  | character :: rest =>
    if character = '0' then .error .malformed
    else if character.isDigit then .ok (some (character.toNat - '0'.toNat), rest)
    else .ok (none, character :: rest)

def readBlockHeader (text : List Char) : Except Fault (BlockHeader × List Char) := do
  let (before, afterFirst) := splitChomping text
  let (indentation, afterDigit) ← splitIndentation afterFirst
  let (behind, afterBoth) :=
    if before.isNone ∧ indentation.isSome then splitChomping afterDigit else (none, afterDigit)
  if atSpaceOrLineEnd afterBoth then
    .ok (⟨(before.or behind).getD .clip, indentation⟩, (← skipComment afterBoth).drop 1)
  else .error .malformed

/-- What two lines of a block have between them beside empty lines. -/
def lineJoint (folded : Bool) (ending : Char) (line : List Char) (next : Skipped) : List Char :=
  let indented := fun (text : List Char) => text.head?.any isFill
  if folded && breakText ending = '\n' && !indented line && !indented next.rest then
    if next.breaks.isEmpty then [' '] else []
  else [breakText ending]

structure BlockBody where
  content : List Char
  ending : List Char
  trailing : List Char
  rest : List Char
  deriving DecidableEq, Repr

def readLines (folded : Bool) (column : Nat) : Nat → Skipped → BlockBody
  | 0, start => ⟨[], [], start.breaks, start.rest⟩
  | fuel + 1, start =>
    if start.column ≠ column ∨ start.rest.isEmpty then ⟨[], [], start.breaks, start.rest⟩
    else
      let line := restOfLine start.rest
      match afterLine start.rest with
      | [] => ⟨start.breaks ++ line, [], [], []⟩
      | ending :: below =>
        let next := skipLines (fun place character => place < column && character = ' ') 0 below
        if next.column = column ∧ !next.rest.isEmpty then
          let body := readLines folded column fuel next
          { body with
            content := start.breaks ++ line ++ lineJoint folded ending line next ++ body.content }
        else ⟨start.breaks ++ line, [breakText ending], next.breaks, next.rest⟩

def BlockBody.chomped (body : BlockBody) : Chomping → List Char
  | .clip => body.content ++ body.ending
  | .keep => body.content ++ body.ending ++ body.trailing
  | .strip => body.content

/-- Reads a block scalar from behind its first indicator; its lines start at the least column or
behind it, and never at the margin. -/
def readBlock (folded : Bool) (least : Nat) (text : List Char) :
    Except Fault (List Char × List Char) := do
  let (header, below) ← readBlockHeader text
  let least := max least 1
  let (column, start) := match header.indentation with
    | some extra =>
      let column := least + extra - 1
      (column, skipLines (fun place character => place < column && character = ' ') 0 below)
    | none =>
      let start := skipLines (fun _ character => character = ' ') 0 below
      (max least start.widest, start)
  let body := readLines folded column (below.length + 1) start
  .ok (body.chomped header.chomping, body.rest)

end TenPuzzle.Yaml
