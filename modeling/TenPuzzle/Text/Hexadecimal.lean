/-!
Digits of base sixteen. Writing uses small letters; reading takes both cases.
-/

namespace TenPuzzle.Text

def hexDigit (value : Nat) : Char :=
  Nat.digitChar (value % 16)

/-- The lowest digits of a number in base sixteen, small letters, as many as asked for. -/
def hexDigits (value : Nat) : Nat → List Char
  | 0 => []
  | width + 1 => hexDigits (value / 16) width ++ [hexDigit value]

def hexValue? (character : Char) : Option Nat :=
  if character.isDigit then some (character.toNat - '0'.toNat)
  else if 'a' ≤ character ∧ character ≤ 'f' then some (character.toNat - 'a'.toNat + 10)
  else if 'A' ≤ character ∧ character ≤ 'F' then some (character.toNat - 'A'.toNat + 10)
  else none

/-- The number that digits of a base spell; any character but a digit of that base refuses. -/
def digitsInBase? (base : Nat) (digits : List Char) : Option Nat :=
  if digits.isEmpty then none
  else digits.foldlM (fun value digit => do
    let d ← hexValue? digit
    if d < base then some (value * base + d) else none) 0

end TenPuzzle.Text
