import TenPuzzle.Text.Blank
import TenPuzzle.Text.DecimalDigit

/-!
Characters of written numbers. Digits of every script count as those of ASCII, and blanks of every
script as spaces, before a number is read.
-/

namespace TenPuzzle.Text

def isMargin (character : Char) : Bool :=
  character = ' ' || (0x09 ≤ character.toNat && character.toNat ≤ 0x0D)

/-- A character as numbers are read: a digit or a blank beyond ASCII is plain, any other such
character is a question mark, which no number has. -/
def plainCharacter (character : Char) : Char :=
  if character.toNat < 0x80 then character
  else if isBlank character then ' '
  else
    match digitValue? character with
    | some value => Nat.digitChar value
    | none => '?'

def plain (text : List Char) : List Char :=
  text.map plainCharacter

def dropMargin (text : List Char) : List Char :=
  text.dropWhile isMargin

def withoutMargins (text : List Char) : List Char :=
  (dropMargin (dropMargin text).reverse).reverse

def withoutSign : List Char → List Char
  | '+' :: rest => rest
  | '-' :: rest => rest
  | text => text

def isNegative (text : List Char) : Bool :=
  text.head? = some '-'

end TenPuzzle.Text
