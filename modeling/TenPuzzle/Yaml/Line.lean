import TenPuzzle.Yaml.Fault

/-!
Lines of a YAML text: the characters that end a line, the gaps between words, the marks between
documents, and what a run of line ends stands for when lines are folded.
-/

namespace TenPuzzle.Yaml

def isBreak (character : Char) : Bool :=
  character = '\n' || character = '\u0085' || character = '\u2028' || character = '\u2029'

/-- A line end as it stands in a value: the two separators of Unicode stay, others are line feeds. -/
def breakText (character : Char) : Char :=
  if character = '\u2028' || character = '\u2029' then character else '\n'

def isFill (character : Char) : Bool :=
  character = ' ' || character = '\t'

def isGap (character : Char) : Bool :=
  isFill character || isBreak character

def atGap : List Char → Bool
  | [] => true
  | character :: _ => isGap character

def atLineEnd : List Char → Bool
  | [] => true
  | character :: _ => isBreak character

def atSpaceOrLineEnd : List Char → Bool
  | ' ' :: _ => true
  | text => atLineEnd text

def restOfLine (text : List Char) : List Char :=
  text.takeWhile fun character => !isBreak character

def afterLine (text : List Char) : List Char :=
  text.dropWhile fun character => !isBreak character

/-- One line feed at the end is overlooked where the form of a text is asked for. -/
def withoutFinalBreak (text : List Char) : List Char :=
  if text.getLast? = some '\n' then text.dropLast else text

def dropSpaces (text : List Char) : List Char :=
  text.dropWhile (· = ' ')

def skipComment (text : List Char) : Except Fault (List Char) :=
  match dropSpaces text with
  | '#' :: rest => .ok (afterLine rest)
  | rest => if atLineEnd rest then .ok rest else .error .malformed

def atDocumentMark : List Char → Bool
  | '-' :: '-' :: '-' :: rest => atGap rest
  | '.' :: '.' :: '.' :: rest => atGap rest
  | _ => false

def unifyBreaks : List Char → List Char
  | [] => []
  | '\r' :: '\n' :: rest => '\n' :: unifyBreaks rest
  | '\r' :: rest => '\n' :: unifyBreaks rest
  | character :: rest => character :: unifyBreaks rest

/-- What lies behind a run of line ends and indentation, and where. -/
structure Skipped where
  breaks : List Char
  column : Nat
  widest : Nat
  rest : List Char
  deriving DecidableEq, Repr

def skipLines (indents : Nat → Char → Bool) (column : Nat) : List Char → Skipped
  | [] => ⟨[], column, column, []⟩
  | character :: rest =>
    if isBreak character then
      let later := skipLines indents 0 rest
      { later with
        breaks := breakText character :: later.breaks
        widest := max column later.widest }
    else if indents column character then skipLines indents (column + 1) rest
    else ⟨[], column, column, character :: rest⟩

def Skipped.atMark (skipped : Skipped) : Bool :=
  skipped.column = 0 && atDocumentMark skipped.rest

def Skipped.folded (first : Char) (skipped : Skipped) : List Char :=
  if breakText first ≠ '\n' then breakText first :: skipped.breaks
  else if skipped.breaks.isEmpty then [' ']
  else skipped.breaks

end TenPuzzle.Yaml
