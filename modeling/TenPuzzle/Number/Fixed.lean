import TenPuzzle.Number.Shortest

/-!
Decimals with a fixed number of places, rounded from the exact value; a half goes to the even
neighbour.
-/

namespace TenPuzzle.Number

def roundHalfEven (numerator denominator : Nat) : Nat :=
  let whole := numerator / denominator
  let remainder := numerator % denominator
  if 2 * remainder < denominator then whole
  else if denominator < 2 * remainder then whole + 1
  else whole + whole % 2

/-- A magnitude as a whole number of units of its last place. -/
def ExactDecimal.atPlaces (exact : ExactDecimal) (places : Nat) : Nat :=
  match exact.exponent + places with
  | .ofNat power => exact.units * Nat.pow 10 power
  | .negSucc power => roundHalfEven exact.units (Nat.pow 10 (power + 1))

/-- The sign of a negative number stays also when all digits are zeros. -/
def fixed (places : Nat) (value : Float) : String :=
  match Binary64.ofFloat value with
  | .notANumber => "nan"
  | .infinite negative => if negative then "-inf" else "inf"
  | .finite negative mantissa exponent =>
    let units := (ExactDecimal.ofBinary mantissa exponent).atPlaces places
    let digits := padLeft (places + 1) (decimalDigits units)
    let whole := digits.take (digits.length - places)
    let fraction := digits.drop (digits.length - places)
    let point := if places = 0 then [] else '.' :: fraction
    String.ofList ((if negative then ['-'] else []) ++ whole ++ point)

end TenPuzzle.Number
