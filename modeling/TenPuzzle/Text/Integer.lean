import TenPuzzle.Text.Hexadecimal
import TenPuzzle.Text.Numeral
import TenPuzzle.Text.Quoted

/-!
Integers as people write them: blanks around, at most one sign, digits of any script, and single
underscores between digits. In a base other than ten the letter of the base may stand in front. A
number in base ten may not be too long, neither when it is read nor when it is written.
-/

namespace TenPuzzle.Text

/-- The most digits that a number in base ten may have. -/
def digitLimit : Nat := 4300

inductive IntegerFault where
  | malformed (base : Nat) (shown : String)
  | tooLong (digits : Nat)
  deriving DecidableEq, Repr

def isDigitOf (base : Nat) (character : Char) : Bool :=
  (hexValue? character).any (· < base)

def baseLetter? (base : Nat) : Option Char :=
  if base = 16 then some 'x'
  else if base = 8 then some 'o'
  else if base = 2 then some 'b'
  else none

def withoutBaseMark (base : Nat) : List Char → List Char
  | '0' :: letter :: rest =>
    if baseLetter? base ≠ some letter.toLower then '0' :: letter :: rest
    else if rest.head? = some '_' then rest.drop 1
    else rest
  | text => text

def valueInBase (base : Nat) (digits : List Char) : Nat :=
  digits.foldl (fun value digit => value * base + (hexValue? digit).getD 0) 0

/-- Reads plain characters. The groups of digits between underscores may not be empty, and the
length of a number shows before anything wrong behind it. -/
def readPlainInteger (base : Nat) (shown : String) (text : List Char) : Except IntegerFault Int :=
  let signed := dropMargin text
  let unsigned := withoutBaseMark base (withoutSign signed)
  let isPart := fun character => character = '_' || isDigitOf base character
  let groups := (unsigned.takeWhile isPart).splitOn '_'
  let digits := groups.flatten
  if groups.any List.isEmpty then .error (.malformed base shown)
  else if base = 10 ∧ digitLimit < digits.length then .error (.tooLong digits.length)
  else if !(unsigned.dropWhile isPart).all isMargin then .error (.malformed base shown)
  else
    let magnitude : Int := valueInBase base digits
    .ok (if isNegative signed then -magnitude else magnitude)

def shownLength : Nat := 200

def shown (quoted : String) : String :=
  String.ofList (quoted.toList.take shownLength)

def readIntegerInBase (base : Nat) (text : List Char) : Except IntegerFault Int :=
  readPlainInteger base (shown (quoted (String.ofList text))) (plain text)

def readInteger (text : List Char) : Except IntegerFault Int :=
  readIntegerInBase 10 text

def readIntegerOfBytes (bytes : List UInt8) : Except IntegerFault Int :=
  readPlainInteger 10 (shown (quotedBytes (bytes.take shownLength)))
    (bytes.map fun byte => Char.ofNat byte.toNat)

def isTooLong (value : Int) : Bool :=
  Nat.pow 10 digitLimit ≤ value.natAbs

def lengthMessage (detail : String) : String :=
  s!"Exceeds the limit ({digitLimit} digits) for integer string conversion" ++ detail ++
    "; use sys.set_int_max_str_digits() to increase the limit"

def IntegerFault.message : IntegerFault → String
  | .malformed base shown => s!"invalid literal for int() with base {base}: {shown}"
  | .tooLong digits => lengthMessage s!": value has {digits} digits"

end TenPuzzle.Text
