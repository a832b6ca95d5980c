import TenPuzzle.Number.Digits

/-!
The binary number nearest to a decimal. Exponents far outside the range of binary numbers are
settled without computing the power.
-/

namespace TenPuzzle.Number

def infinity : Float := 1.0 / 0.0

def notANumber : Float := 0.0 / 0.0

/-- The nearest double to the mantissa times ten to the exponent. -/
def nearestFloat (mantissa : Nat) (exponent : Int) : Float :=
  let leading : Int := exponent + (decimalDigits mantissa).length
  if mantissa = 0 ∨ leading < -400 then 0.0
  else if 400 < leading then infinity
  else Float.ofScientific mantissa (exponent < 0) exponent.natAbs

end TenPuzzle.Number
