import TenPuzzle.Text.Hexadecimal
import TenPuzzle.Yaml.Line
import TenPuzzle.Yaml.Token

/-!
Names of anchors, tags, and directives as they are written.
-/

namespace TenPuzzle.Yaml

def isNameCharacter (character : Char) : Bool :=
  character.isAlphanum || character = '-' || character = '_'

def readName (text : List Char) : Except Fault (List Char × List Char) :=
  let name := text.takeWhile isNameCharacter
  if name.isEmpty then .error .malformed else .ok (name, text.dropWhile isNameCharacter)

def anchorEnds : List Char :=
  ['?', ':', ',', ']', '\x7d', '%', '@', '\x60']

def readAnchor (text : List Char) : Except Fault (List Char × List Char) := do
  let (name, rest) ← readName text
  if atGap rest || rest.head?.any anchorEnds.contains then .ok (name, rest)
  else .error .malformed

def isTagCharacter (character : Char) : Bool :=
  character.isAlphanum ||
    ['-', ';', '/', '?', ':', '@', '&', '=', '+', '$', ',', '_', '.', '!', '~', '*', '\x27', '(',
      ')', '[', ']'].contains character

/-- The bytes that a run of percent escapes spells, and the rest. -/
def splitEscapes : List Char → Except Fault (List UInt8 × List Char)
  | '%' :: rest =>
    match rest with
    | high :: low :: after =>
      match Text.digitsInBase? 16 [high, low] with
      | some byte => do
        let (bytes, final) ← splitEscapes after
        .ok (UInt8.ofNat byte :: bytes, final)
      | none => .error .malformed
    | _ => .error .malformed
  | text => .ok ([], text)

def decodeBytes (bytes : List UInt8) : Except Fault (List Char) :=
  match String.fromUTF8? ⟨bytes.toArray⟩ with
  | some text => .ok text.toList
  | none => .error .malformed

def readTagTextFrom : Nat → List Char → Except Fault (List Char × List Char)
  | 0, text => .ok ([], text)
  | fuel + 1, text =>
    let part := text.takeWhile isTagCharacter
    match text.dropWhile isTagCharacter with
    | '%' :: rest => do
      let (bytes, after) ← splitEscapes ('%' :: rest)
      let decoded ← decodeBytes bytes
      let (more, final) ← readTagTextFrom fuel after
      .ok (part ++ decoded ++ more, final)
    | rest => .ok (part, rest)

def readTagText (text : List Char) : Except Fault (List Char × List Char) :=
  if text.head?.any fun character => character = '%' || isTagCharacter character then
    readTagTextFrom (text.length + 1) text
  else .error .malformed

/-- Reads a handle: a mark, or a name between two marks. -/
def readHandle : List Char → Except Fault (List Char × List Char)
  | '!' :: rest =>
    let name := rest.takeWhile isNameCharacter
    match rest.dropWhile isNameCharacter with
    | '!' :: after => .ok ('!' :: name ++ ['!'], after)
    | ' ' :: after => if name.isEmpty then .ok (['!'], ' ' :: after) else .error .malformed
    | _ => .error .malformed
  | _ => .error .malformed

def hasHandle (text : List Char) : Bool :=
  (text.takeWhile fun character => character ≠ ' ' && !isBreak character).contains '!'

def readWrittenTag (text : List Char) : Except Fault (WrittenTag × List Char) := do
  match text with
  | '<' :: rest =>
    let (suffix, after) ← readTagText rest
    match after with
    | '>' :: final => .ok (⟨none, suffix⟩, final)
    | _ => .error .malformed
  | _ =>
    if atGap text then .ok (⟨none, ['!']⟩, text)
    else if hasHandle text then
      let (handle, rest) ← readHandle ('!' :: text)
      let (suffix, after) ← readTagText rest
      .ok (⟨some handle, suffix⟩, after)
    else
      let (suffix, after) ← readTagText text
      .ok (⟨some ['!'], suffix⟩, after)

def readTag (text : List Char) : Except Fault (WrittenTag × List Char) := do
  let (tag, rest) ← readWrittenTag text
  if atSpaceOrLineEnd rest then .ok (tag, rest) else .error .malformed

def readDigits (text : List Char) : Except Fault (Nat × List Char) :=
  match Text.readInteger (text.takeWhile Char.isDigit) with
  | .ok value => .ok (value.toNat, text.dropWhile Char.isDigit)
  | .error (.tooLong digits) => .error (.integer (.tooLong digits))
  | .error _ => .error .malformed

def readVersion (text : List Char) : Except Fault (Directive × List Char) := do
  let (major, afterMajor) ← readDigits (dropSpaces text)
  match afterMajor with
  | '.' :: rest => .ok (.version major, (← readDigits rest).2)
  | _ => .error .malformed

def readExpansion (text : List Char) : Except Fault (Directive × List Char) := do
  let (handle, afterHandle) ← readHandle (dropSpaces text)
  match afterHandle with
  | ' ' :: rest =>
    let (expansion, after) ← readTagText (dropSpaces rest)
    .ok (.handle handle expansion, after)
  | _ => .error .malformed

def readDirective (text : List Char) : Except Fault (Directive × List Char) := do
  let (name, rest) ← readName text
  if !atSpaceOrLineEnd rest then .error .malformed
  else
    let (directive, after) ←
      if name = ['Y', 'A', 'M', 'L'] then readVersion rest
      else if name = ['T', 'A', 'G'] then readExpansion rest
      else .ok (.unknown, afterLine rest)
    if !atSpaceOrLineEnd after then .error .malformed
    else .ok (directive, (← skipComment after).drop 1)

end TenPuzzle.Yaml
