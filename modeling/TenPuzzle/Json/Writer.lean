import TenPuzzle.Json.Basic
import TenPuzzle.Number.Shortest
import TenPuzzle.Text.Integer
import TenPuzzle.Text.Quoted

/-!
JSON texts in ASCII. A space follows every comma and colon, and characters outside of printable
ASCII are escaped as one or two UTF-16 units. A value with a whole number that is too long has no
text.
-/

namespace TenPuzzle.Json

/-- Numbers as the fewest digits that read back, with a point or an exponent. -/
def numberLayout : Number.Layout where
  positionalFrom := -4
  positionalBelow := 16
  exponentWidth := 2
  infinity := "Infinity"
  notANumber := "NaN"

def unitEscape (unit : Nat) : List Char :=
  '\x5c' :: 'u' :: Text.hexDigits unit 4

def escapeCharacter (character : Char) : List Char :=
  let code := character.toNat
  if character = '\x22' ∨ character = '\x5c' then ['\x5c', character]
  else if character = '\x08' then ['\x5c', 'b']
  else if character = '\t' then ['\x5c', 't']
  else if character = '\n' then ['\x5c', 'n']
  else if character = '\x0c' then ['\x5c', 'f']
  else if character = '\r' then ['\x5c', 'r']
  else if 0x20 ≤ code ∧ code ≤ 0x7E then [character]
  else if code < 0x10000 then unitEscape code
  else
    let offset := code - 0x10000
    unitEscape (0xD800 + offset / 0x400) ++ unitEscape (0xDC00 + offset % 0x400)

def writeString (text : String) : List Char :=
  '\x22' :: text.toList.flatMap escapeCharacter ++ ['\x22']

mutual

def write : Json → List Char
  | .null => "null".toList
  | .bool value => if value then "true".toList else "false".toList
  | .integer value => (toString value).toList
  | .float value => (numberLayout.write value).toList
  | .string value => writeString value
  | .array items => '[' :: writeItems items ++ [']']
  | .object members => '\x7b' :: writeMembers members ++ ['\x7d']

def writeItems : List Json → List Char
  | [] => []
  | [item] => item.write
  | item :: rest => item.write ++ ',' :: ' ' :: writeItems rest

def writeMembers : List (String × Json) → List Char
  | [] => []
  | [(name, value)] => writeString name ++ ':' :: ' ' :: value.write
  | (name, value) :: rest =>
    writeString name ++ ':' :: ' ' :: value.write ++ ',' :: ' ' :: writeMembers rest

end

def text (value : Json) : String :=
  String.ofList value.write

mutual

def isWritable : Json → Bool
  | .integer value => !Text.isTooLong value
  | .array items => areWritable items
  | .object members => haveWritable members
  | _ => true

def areWritable : List Json → Bool
  | [] => true
  | item :: rest => item.isWritable && areWritable rest

def haveWritable : List (String × Json) → Bool
  | [] => true
  | (_, value) :: rest => value.isWritable && haveWritable rest

end

end TenPuzzle.Json
