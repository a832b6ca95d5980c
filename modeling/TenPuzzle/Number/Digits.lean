/-!
Digits of whole numbers in base ten.
-/

namespace TenPuzzle.Number

def decimalDigits (value : Nat) : List Char :=
  Nat.toDigits 10 value

def valueOfDigits (digits : List Char) : Nat :=
  digits.foldl (fun value digit => value * 10 + (digit.toNat - '0'.toNat)) 0

def padLeft (width : Nat) (digits : List Char) : List Char :=
  List.replicate (width - digits.length) '0' ++ digits

def dropTrailingZeros (digits : List Char) : List Char :=
  (digits.reverse.dropWhile (· = '0')).reverse

/-- Zeros fill up to the width, in which a minus sign counts. -/
def padded (width : Nat) (value : Int) : String :=
  let digits := decimalDigits value.natAbs
  String.ofList (if value < 0 then '-' :: padLeft (width - 1) digits else padLeft width digits)

end TenPuzzle.Number
