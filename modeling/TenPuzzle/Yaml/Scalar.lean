import TenPuzzle.Text.Base64
import TenPuzzle.Text.Decimal
import TenPuzzle.Text.LetterCase
import TenPuzzle.Yaml.Kind
import TenPuzzle.Yaml.Value

/-!
Scalars, read from their texts. Underscores in numbers say nothing, and numbers may be written in
base sixty, their groups parted by colons.
-/

namespace TenPuzzle.Yaml

def withoutLines (text : List Char) : List Char :=
  text.filter (· ≠ '_')

def readInBase (base : Nat) (digits : List Char) : Except Fault Int :=
  (Text.readIntegerInBase base digits).mapError Fault.integer

def readSixtieths (groups : List (List Char)) : Except Fault Int :=
  groups.foldlM (fun value group => do .ok (value * 60 + (← readInBase 10 group))) 0

/-- A zero in front means base eight, unless a letter behind it names another base. -/
def readMagnitude (digits : List Char) : Except Fault Int :=
  match digits with
  | [] => .error .noDigits
  | '0' :: 'b' :: rest => readInBase 2 rest
  | '0' :: 'x' :: rest => readInBase 16 rest
  | '0' :: _ => readInBase 8 digits
  | _ => readSixtieths (digits.splitOn ':')

def readWhole (text : List Char) : Except Fault Int := do
  let digits := withoutLines text
  let magnitude ← readMagnitude (Text.withoutSign digits)
  .ok (if Text.isNegative digits then -magnitude else magnitude)

def readDecimal (text : List Char) : Except Fault Float :=
  match Text.readDecimal? text with
  | some value => .ok value
  | none => .error (.notReal text)

/-- Adds up groups of base sixty from the last one, whose weight is one. A weight is a whole number
until it is used. -/
def addSixtieths (weight : Nat) : List Float → Float → Except Fault Float
  | [], sum => .ok sum
  | digit :: rest, sum =>
    let factor := Float.ofNat weight
    if factor.isInf then .error .weightTooLarge
    else addSixtieths (weight * 60) rest (sum + digit * factor)

def readReal (text : List Char) : Except Fault Float := do
  let digits := Text.lower (withoutLines text)
  let body := Text.withoutSign digits
  let word := String.ofList body
  let magnitude ←
    if digits.isEmpty then .error .noDigits
    else if word = ".inf" then .ok Number.infinity
    else if word = ".nan" then .ok Number.notANumber
    else if body.contains ':' then do
      let groups ← (body.splitOn ':').mapM readDecimal
      addSixtieths 1 groups.reverse 0.0
    else readDecimal body
  .ok (if Text.isNegative digits then -magnitude else magnitude)

def readTruth (text : List Char) : Except Fault Bool :=
  let word := String.ofList (text.map Char.toLower)
  if trueWords.contains word then .ok true
  else if falseWords.contains word then .ok false
  else .error .notTruth

def readMoment (text : List Char) : Except Fault Moment :=
  let written := withoutFinalBreak text
  match (Moment.dateOnly? 1 written).or (Moment.withTime? written) with
  | some moment => moment.check
  | none => .error .notMoment

def readBytes (text : List Char) : Except Fault (List UInt8) :=
  if text.any fun character => 0x80 ≤ character.toNat then .error .malformed
  else
    match Text.readBase64? text with
    | some bytes => .ok bytes
    | none => .error .malformed

def readScalar (text : List Char) : Kind → Except Fault Value
  | .null => .ok .null
  | .boolean => do .ok (.boolean (← readTruth text))
  | .integer => do .ok (.integer (← readWhole text))
  | .real => do .ok (.real (← readReal text))
  | .moment => do .ok (.moment (← readMoment text))
  | .text => .ok (.text (String.ofList text))
  | .bytes => do .ok (.bytes (← readBytes text))
  | _ => .error .malformed

end TenPuzzle.Yaml
