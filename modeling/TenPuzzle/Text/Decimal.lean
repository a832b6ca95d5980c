import TenPuzzle.Number.Reading
import TenPuzzle.Text.Numeral

/-!
Decimal numbers as people write them: blanks around, a sign, digits of any script with or without a
point, and an exponent; or the words for infinity and for no number.
-/

namespace TenPuzzle.Text

/-- The exponent that is left behind the digits; none is zero. -/
def readExponent? : List Char → Option Int
  | [] => some 0
  | mark :: rest =>
    let digits := withoutSign rest
    let magnitude : Int := Number.valueOfDigits digits
    if (mark ≠ 'e' ∧ mark ≠ 'E') ∨ digits.isEmpty ∨ !digits.all Char.isDigit then none
    else some (if isNegative rest then -magnitude else magnitude)

def readUnsigned? (text : List Char) : Option Float :=
  let whole := text.takeWhile Char.isDigit
  let (fraction, rest) := match text.dropWhile Char.isDigit with
    | '.' :: after => (after.takeWhile Char.isDigit, after.dropWhile Char.isDigit)
    | after => ([], after)
  let word := String.ofList (text.map Char.toLower)
  if word = "inf" ∨ word = "infinity" then some Number.infinity
  else if word = "nan" then some Number.notANumber
  else if whole.isEmpty && fraction.isEmpty then none
  else (readExponent? rest).map fun exponent =>
    Number.nearestFloat (Number.valueOfDigits (whole ++ fraction)) (exponent - fraction.length)

def readDecimal? (text : List Char) : Option Float :=
  let signed := withoutMargins (plain text)
  (readUnsigned? (withoutSign signed)).map fun value => if isNegative signed then -value else value

end TenPuzzle.Text
