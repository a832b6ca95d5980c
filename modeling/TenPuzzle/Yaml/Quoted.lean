import TenPuzzle.Text.Hexadecimal
import TenPuzzle.Yaml.Line

/-!
Quoted scalars. Between apostrophes a doubled one stands for itself; between quotation marks
backslashes start escapes. Line ends fold in both.
-/

namespace TenPuzzle.Yaml

def escapedLetters : List (Char × Char) :=
  [('0', '\x00'), ('a', '\x07'), ('b', '\x08'), ('t', '\t'), ('\t', '\t'), ('n', '\n'),
   ('v', '\x0b'), ('f', '\x0c'), ('r', '\r'), ('e', '\x1b'), (' ', ' '), ('\x22', '\x22'),
   ('\x5c', '\x5c'), ('/', '/'), ('N', '\u0085'), ('_', '\u00a0'), ('L', '\u2028'),
   ('P', '\u2029')]

def codeWidths : List (Char × Nat) :=
  [('x', 2), ('u', 4), ('U', 8)]

def codePoint (code : Nat) : Except Fault Char :=
  if 0x7FFFFFFF < code then .error .codeTooLarge
  else if 0x10FFFF < code then .error .noCodePoint
  else if 0xD800 ≤ code ∧ code < 0xE000 then .ok '\uFFFD'
  else .ok (Char.ofNat code)

def readCode (width : Nat) (text : List Char) : Except Fault (List Char × List Char) := do
  let digits := text.take width
  match Text.digitsInBase? 16 digits with
  | some code =>
    if digits.length = width then .ok ([← codePoint code], text.drop width)
    else .error .malformed
  | none => .error .malformed

def skipQuotedLines (text : List Char) : Except Fault Skipped :=
  let skipped := skipLines (fun _ => isFill) 0 text
  if skipped.atMark then .error .malformed else .ok skipped

/-- Reads what follows a backslash. An escaped line end vanishes, with the indentation behind it. -/
def readEscape : List Char → Except Fault (List Char × List Char)
  | [] => .error .malformed
  | letter :: rest =>
    match escapedLetters.lookup letter, codeWidths.lookup letter with
    | some meant, _ => .ok ([meant], rest)
    | none, some width => readCode width rest
    | none, none =>
      if isBreak letter then do
        let skipped ← skipQuotedLines rest
        .ok (skipped.breaks, skipped.rest)
      else .error .malformed

/-- Reads a run of blanks, and with a line end in it folds the lines. -/
def readQuotedGap (text : List Char) : Except Fault (List Char × List Char) :=
  match text.dropWhile isFill with
  | [] => .error .malformed
  | character :: rest =>
    if isBreak character then do
      let skipped ← skipQuotedLines rest
      .ok (skipped.folded character, skipped.rest)
    else .ok (text.takeWhile isFill, character :: rest)

def readQuotedFrom (quote : Char) : Nat → List Char → Except Fault (List Char × List Char)
  | 0, _ => .error .malformed
  | _, [] => .error .malformed
  | fuel + 1, character :: rest => do
    if character = quote then
      match rest with
      | next :: after =>
        if quote = '\x27' ∧ next = quote then
          let (more, final) ← readQuotedFrom quote fuel after
          .ok (quote :: more, final)
        else .ok ([], rest)
      | [] => .ok ([], rest)
    else
      let (piece, after) ←
        if quote = '\x22' ∧ character = '\x5c' then readEscape rest
        else if isGap character then readQuotedGap (character :: rest)
        else .ok ([character], rest)
      let (more, final) ← readQuotedFrom quote fuel after
      .ok (piece ++ more, final)

def readQuoted (quote : Char) (text : List Char) : Except Fault (List Char × List Char) :=
  readQuotedFrom quote (text.length + 1) text

end TenPuzzle.Yaml
