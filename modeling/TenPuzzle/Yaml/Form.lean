import TenPuzzle.Text.Numeral

/-!
Forms of plain scalars: what numbers look like, and the words for nothing and for truth.
-/

namespace TenPuzzle.Yaml

def isDigitOrLine (character : Char) : Bool :=
  character.isDigit || character = '_'

def isHexDigit (character : Char) : Bool :=
  character.isDigit || ('a' ≤ character && character ≤ 'f') || ('A' ≤ character && character ≤ 'F')

def isSixtieths : List Char → Bool
  | [] => true
  | [':', digit] => digit.isDigit
  | ':' :: first :: second :: rest =>
    if second = ':' then first.isDigit && isSixtieths (second :: rest)
    else '0' ≤ first && first ≤ '5' && second.isDigit && isSixtieths rest
  | _ => false

def isWholeForm (text : List Char) : Bool :=
  match Text.withoutSign text with
  | '0' :: 'b' :: rest => !rest.isEmpty && rest.all ['0', '1', '_'].contains
  | '0' :: 'x' :: rest => !rest.isEmpty && rest.all fun c => isHexDigit c || c = '_'
  | '0' :: rest => rest.all fun c => ('0' ≤ c && c ≤ '7') || c = '_'
  | first :: rest => first.isDigit && isSixtieths (rest.dropWhile isDigitOrLine)
  | [] => false

def isExponent : List Char → Bool
  | [] => true
  | mark :: sign :: digits =>
    (mark = 'e' || mark = 'E') && (sign = '+' || sign = '-') &&
      !digits.isEmpty && digits.all Char.isDigit
  | _ => false

def infinityWords : List (List Char) :=
  [['i', 'n', 'f'], ['I', 'n', 'f'], ['I', 'N', 'F']]

def notANumberWords : List (List Char) :=
  [['n', 'a', 'n'], ['N', 'a', 'N'], ['N', 'A', 'N']]

/-- A real number has a point. With nothing before the point only infinity takes a sign. -/
def isRealForm (text : List Char) : Bool :=
  let unsigned := Text.withoutSign text
  let whole := unsigned.takeWhile (· ≠ '.')
  let groups := whole.dropWhile isDigitOrLine
  match unsigned.dropWhile (· ≠ '.') with
  | [] => false
  | _ :: fraction =>
    if whole.isEmpty then
      infinityWords.contains fraction ||
        (unsigned = text && (notANumberWords.contains fraction ||
          (fraction.head?.any Char.isDigit && isExponent (fraction.dropWhile isDigitOrLine))))
    else
      whole.head?.any Char.isDigit &&
        (if groups.isEmpty then isExponent (fraction.dropWhile isDigitOrLine)
        else isSixtieths groups && fraction.all isDigitOrLine)

def nullWords : List String :=
  ["", "~", "null", "Null", "NULL"]

def trueWords : List String :=
  ["yes", "Yes", "YES", "true", "True", "TRUE", "on", "On", "ON"]

def falseWords : List String :=
  ["no", "No", "NO", "false", "False", "FALSE", "off", "Off", "OFF"]

end TenPuzzle.Yaml
