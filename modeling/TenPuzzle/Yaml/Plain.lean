import TenPuzzle.Yaml.Line

/-!
Plain scalars: words without quotes. In a flow collection brackets and commas end them; in a block
a line that is not indented enough does.
-/

namespace TenPuzzle.Yaml

def flowMarks : List Char :=
  [',', '[', ']', '\x7b', '\x7d']

def reservedMarks : List Char :=
  ['-', '?', ':', ',', '[', ']', '\x7b', '\x7d', '#', '&', '*', '!', '|', '>', '\x27', '\x22', '%',
   '@', '\x60']

def startsPlain (inFlow : Bool) : List Char → Bool
  | [] => false
  | character :: rest =>
    (!isGap character && !reservedMarks.contains character) ||
      (!atGap rest && (character = '-' || (!inFlow && (character = '?' || character = ':'))))

def endsKey (inFlow : Bool) : List Char → Bool
  | [] => true
  | character :: _ => isGap character || (inFlow && flowMarks.contains character)

def endsWord (inFlow : Bool) (character : Char) (rest : List Char) : Bool :=
  isGap character || (character = ':' && endsKey inFlow rest) ||
    (inFlow && (character = '?' || flowMarks.contains character))

def splitWord (inFlow : Bool) : List Char → List Char × List Char
  | [] => ([], [])
  | character :: rest =>
    if endsWord inFlow character rest then ([], character :: rest)
    else
      let (word, after) := splitWord inFlow rest
      (character :: word, after)

/-- What stands between two words of a plain scalar. -/
structure WordGap where
  filler : List Char
  broken : Bool
  column : Nat
  rest : List Char
  deriving DecidableEq, Repr

def wordGap (text : List Char) : WordGap :=
  let spaces := text.takeWhile (· = ' ')
  match text.dropWhile (· = ' ') with
  | [] => ⟨spaces, false, 0, []⟩
  | character :: rest =>
    if isBreak character then
      let skipped := skipLines (fun _ other => other = ' ') 0 rest
      let filler := if skipped.atMark then [] else skipped.folded character
      ⟨filler, true, skipped.column, skipped.rest⟩
    else ⟨spaces, false, 0, character :: rest⟩

def WordGap.continues (gap : WordGap) (inFlow : Bool) (least : Nat) : Bool :=
  !gap.filler.isEmpty && gap.rest.head? ≠ some '#' &&
    (inFlow || !gap.broken || least ≤ gap.column)

structure Plain where
  text : List Char
  broken : Bool
  rest : List Char
  deriving DecidableEq, Repr

def readPlainFrom (inFlow : Bool) (least : Nat) : Nat → List Char → Plain
  | 0, text => ⟨[], false, text⟩
  | fuel + 1, text =>
    let (word, after) := splitWord inFlow text
    let gap := wordGap after
    if gap.continues inFlow least then
      let more := readPlainFrom inFlow least fuel gap.rest
      if more.text.isEmpty then ⟨word, gap.broken, gap.rest⟩
      else ⟨word ++ gap.filler ++ more.text, more.broken, more.rest⟩
    else ⟨word, gap.broken, gap.rest⟩

/-- Reads a plain scalar whose further lines start at the least column or behind it. -/
def readPlain (inFlow : Bool) (least : Nat) (text : List Char) : Plain :=
  readPlainFrom inFlow least (text.length + 1) text

end TenPuzzle.Yaml
