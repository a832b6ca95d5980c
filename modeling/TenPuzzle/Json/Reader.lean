import TenPuzzle.Json.Basic
import TenPuzzle.Number.Reading
import TenPuzzle.Text.Hexadecimal
import TenPuzzle.Text.Integer

/-!
Reading of JSON texts. Beside the standard's values it takes the words for numbers that are not
finite. A fault carries what was left of the text where it showed.
-/

namespace TenPuzzle.Json

inductive Cause where
  | byteOrderMark
  | expectedValue
  | expectedName
  | expectedColon
  | expectedComma
  | unterminated
  | controlCharacter
  | badEscape
  | badUnit
  | extraData
  | tooLong (digits : Nat)
  | tooDeep (inObject : Bool)
  deriving DecidableEq, Repr

structure Stop where
  cause : Cause
  rest : List Char
  deriving DecidableEq, Repr

def isSpace (character : Char) : Bool :=
  character = ' ' || character = '\t' || character = '\n' || character = '\r'

def skipSpace (text : List Char) : List Char :=
  text.dropWhile isSpace

def unitValue? (first second third fourth : Char) : Option Nat := do
  let a ← Text.hexValue? first
  let b ← Text.hexValue? second
  let c ← Text.hexValue? third
  let d ← Text.hexValue? fourth
  some (((a * 16 + b) * 16 + c) * 16 + d)

def isHighUnit (unit : Nat) : Bool := 0xD800 ≤ unit && unit < 0xDC00

def isLowUnit (unit : Nat) : Bool := 0xDC00 ≤ unit && unit < 0xE000

/-- The character of one UTF-16 unit; half of a pair on its own gives the replacement character. -/
def unitCharacter (unit : Nat) : Char :=
  if isHighUnit unit || isLowUnit unit then '\uFFFD' else Char.ofNat unit

def pairCharacter (high low : Nat) : Char :=
  Char.ofNat (0x10000 + (high - 0xD800) * 0x400 + (low - 0xDC00))

def escaped? (character : Char) : Option Char :=
  if character = '\x22' ∨ character = '\x5c' ∨ character = '/' then some character
  else if character = 'b' then some '\x08'
  else if character = 't' then some '\t'
  else if character = 'n' then some '\n'
  else if character = 'f' then some '\x0c'
  else if character = 'r' then some '\r'
  else none

inductive Part where
  | character (value : Char)
  | unit (value : Nat)
  deriving DecidableEq, Repr

/-- Two units in a row may be the halves of one character. -/
def joinParts : List Part → List Char
  | [] => []
  | .character value :: rest => value :: joinParts rest
  | .unit high :: .unit low :: rest =>
    if isHighUnit high && isLowUnit low then pairCharacter high low :: joinParts rest
    else unitCharacter high :: joinParts (.unit low :: rest)
  | .unit value :: rest => unitCharacter value :: joinParts rest

def readParts (opening : List Char) : List Char → Except Stop (List Part × List Char)
  | [] => .error ⟨.unterminated, opening⟩
  | '\x22' :: rest => .ok ([], rest)
  | ['\x5c'] => .error ⟨.unterminated, opening⟩
  | '\x5c' :: 'u' :: first :: second :: third :: fourth :: next :: rest =>
    match unitValue? first second third fourth with
    | none => .error ⟨.badUnit, 'u' :: first :: second :: third :: fourth :: next :: rest⟩
    | some unit => do
      let (parts, afterString) ← readParts opening (next :: rest)
      .ok (.unit unit :: parts, afterString)
  | '\x5c' :: 'u' :: rest => .error ⟨.badUnit, 'u' :: rest⟩
  | '\x5c' :: letter :: rest =>
    match escaped? letter with
    | none => .error ⟨.badEscape, '\x5c' :: letter :: rest⟩
    | some meant => do
      let (parts, afterString) ← readParts opening rest
      .ok (.character meant :: parts, afterString)
  | character :: rest =>
    if character.toNat < 0x20 then .error ⟨.controlCharacter, character :: rest⟩
    else do
      let (parts, afterString) ← readParts opening rest
      .ok (.character character :: parts, afterString)

def readString (opening rest : List Char) : Except Stop (String × List Char) := do
  let (parts, afterString) ← readParts opening rest
  .ok (String.ofList (joinParts parts), afterString)

def splitFraction : List Char → List Char × List Char
  | '.' :: rest =>
    let digits := rest.takeWhile Char.isDigit
    if digits.isEmpty then ([], '.' :: rest) else (digits, rest.dropWhile Char.isDigit)
  | rest => ([], rest)

def exponentOf (negative : Bool) (mark rest : List Char) : Option Int × List Char :=
  let digits := rest.takeWhile Char.isDigit
  let value : Int := Number.valueOfDigits digits
  if digits.isEmpty then (none, mark ++ rest)
  else (some (if negative then -value else value), rest.dropWhile Char.isDigit)

def splitExponent : List Char → Option Int × List Char
  | mark :: '-' :: rest =>
    if mark = 'e' ∨ mark = 'E' then exponentOf true [mark, '-'] rest else (none, mark :: '-' :: rest)
  | mark :: '+' :: rest =>
    if mark = 'e' ∨ mark = 'E' then exponentOf false [mark, '+'] rest else (none, mark :: '+' :: rest)
  | mark :: rest =>
    if mark = 'e' ∨ mark = 'E' then exponentOf false [mark] rest else (none, mark :: rest)
  | [] => (none, [])

def splitWhole : List Char → List Char × List Char
  | '0' :: rest => (['0'], rest)
  | text => (text.takeWhile Char.isDigit, text.dropWhile Char.isDigit)

def readNumber (opening : List Char) (negative : Bool) (text : List Char) :
    Except Stop (Json × List Char) :=
  let (whole, afterWhole) := splitWhole text
  let (fraction, afterFraction) := splitFraction afterWhole
  let (exponent, rest) := splitExponent afterFraction
  if whole.isEmpty then .error ⟨.expectedValue, opening⟩
  else if fraction.isEmpty && exponent.isNone then
    let value : Int := Number.valueOfDigits whole
    if Text.digitLimit < whole.length then .error ⟨.tooLong whole.length, opening⟩
    else .ok (.integer (if negative then -value else value), rest)
  else
    let mantissa := Number.valueOfDigits (whole ++ fraction)
    let value := Number.nearestFloat mantissa (exponent.getD 0 - fraction.length)
    .ok (.float (if negative then -value else value), rest)

def readScalar (text : List Char) : Except Stop (Json × List Char) :=
  match text with
  | '-' :: 'I' :: 'n' :: 'f' :: 'i' :: 'n' :: 'i' :: 't' :: 'y' :: rest =>
    .ok (.float (-Number.infinity), rest)
  | 'I' :: 'n' :: 'f' :: 'i' :: 'n' :: 'i' :: 't' :: 'y' :: rest =>
    .ok (.float Number.infinity, rest)
  | 'N' :: 'a' :: 'N' :: rest => .ok (.float Number.notANumber, rest)
  | 'n' :: 'u' :: 'l' :: 'l' :: rest => .ok (.null, rest)
  | 't' :: 'r' :: 'u' :: 'e' :: rest => .ok (.bool true, rest)
  | 'f' :: 'a' :: 'l' :: 's' :: 'e' :: rest => .ok (.bool false, rest)
  | '-' :: rest => readNumber text true rest
  | _ => readNumber text false text

def readName : List Char → Except Stop (String × List Char)
  | '\x22' :: rest => do
    let (name, afterName) ← readString ('\x22' :: rest) rest
    match skipSpace afterName with
    | ':' :: afterColon => .ok (name, skipSpace afterColon)
    | other => .error ⟨.expectedColon, other⟩
  | other => .error ⟨.expectedName, other⟩

def nestingLimit : Nat := 985

mutual

def readValue (levels : Nat) : Nat → List Char → Except Stop (Json × List Char)
  | 0, text => .error ⟨.expectedValue, text⟩
  | fuel + 1, text =>
    match text with
    | '\x22' :: rest => do
      let (value, afterString) ← readString text rest
      .ok (.string value, afterString)
    | '[' :: rest =>
      if levels = 0 then .error ⟨.tooDeep false, text⟩
      else
        match skipSpace rest with
        | ']' :: afterArray => .ok (.array [], afterArray)
        | first => do
          let (items, afterArray) ← readItems (levels - 1) fuel first
          .ok (.array items, afterArray)
    | '\x7b' :: rest =>
      if levels = 0 then .error ⟨.tooDeep true, text⟩
      else
        match skipSpace rest with
        | '\x7d' :: afterObject => .ok (.object [], afterObject)
        | first => do
          let (members, afterObject) ← readMembers (levels - 1) fuel first
          .ok (.object members, afterObject)
    | _ => readScalar text

def readItems (levels : Nat) : Nat → List Char → Except Stop (List Json × List Char)
  | 0, text => .error ⟨.expectedValue, text⟩
  | fuel + 1, text => do
    let (item, afterItem) ← readValue levels fuel text
    match skipSpace afterItem with
    | ']' :: rest => .ok ([item], rest)
    | ',' :: rest => do
      let (items, afterItems) ← readItems levels fuel (skipSpace rest)
      .ok (item :: items, afterItems)
    | other => .error ⟨.expectedComma, other⟩

def readMembers (levels : Nat) : Nat → List Char → Except Stop (List (String × Json) × List Char)
  | 0, text => .error ⟨.expectedName, text⟩
  | fuel + 1, text => do
    let (name, afterName) ← readName text
    let (value, afterValue) ← readValue levels fuel afterName
    match skipSpace afterValue with
    | '\x7d' :: rest => .ok ([(name, value)], rest)
    | ',' :: rest => do
      let (members, afterMembers) ← readMembers levels fuel (skipSpace rest)
      .ok ((name, value) :: members, afterMembers)
    | other => .error ⟨.expectedComma, other⟩

end

def readWhole (text : List Char) : Except Stop Json :=
  match text with
  | '\uFEFF' :: _ => .error ⟨.byteOrderMark, text⟩
  | _ => do
    let (value, rest) ← readValue nestingLimit (2 * text.length + 2) (skipSpace text)
    match skipSpace rest with
    | [] => .ok value
    | extra => .error ⟨.extraData, extra⟩

/-- A fault of a text at an offset; lines and columns count from one. -/
structure ReadFault where
  cause : Cause
  line : Nat
  column : Nat
  offset : Nat
  deriving DecidableEq, Repr

def Stop.locate (text : List Char) (stop : Stop) : ReadFault :=
  let offset := text.length - stop.rest.length
  let before := text.take offset
  { cause := stop.cause
    line := before.count '\n' + 1
    column := (before.reverse.takeWhile (· ≠ '\n')).length + 1
    offset := offset }

def read (text : String) : Except ReadFault Json :=
  (readWhole text.toList).mapError (Stop.locate text.toList)

def Cause.message : Cause → String
  | .byteOrderMark => "Unexpected UTF-8 BOM (decode using utf-8-sig)"
  | .expectedValue => "Expecting value"
  | .expectedName => "Expecting property name enclosed in double quotes"
  | .expectedColon => "Expecting ':' delimiter"
  | .expectedComma => "Expecting ',' delimiter"
  | .unterminated => "Unterminated string starting at"
  | .controlCharacter => "Invalid control character at"
  | .badEscape => "Invalid \\escape: "
  | .badUnit => "Invalid \\uXXXX escape"
  | .extraData => "Extra data"
  | .tooLong digits => (Text.IntegerFault.tooLong digits).message
  | .tooDeep inObject =>
    let collection := if inObject then "object" else "array"
    s!"maximum recursion depth exceeded while decoding a JSON {collection} from a unicode string"

def Cause.isLocated : Cause → Bool
  | .tooLong _ | .tooDeep _ => false
  | _ => true

def ReadFault.message (fault : ReadFault) : String :=
  let place := s!": line {fault.line} column {fault.column} (char {fault.offset})"
  fault.cause.message ++ (if fault.cause.isLocated then place else "")

end TenPuzzle.Json
