import TenPuzzle.Number.Binary64
import TenPuzzle.Number.Digits

/-!
Shortest decimals: the fewest digits that read back as the same binary number, and of those the
nearest to it. `Layout` says how such digits are written out.
-/

namespace TenPuzzle.Number

/-- The magnitudes that read back as one binary number, and that number itself, in the same units. -/
structure Rounding where
  low : Nat
  value : Nat
  high : Nat
  closed : Bool
  exponent : Int

/-- The ends lie halfway to the neighbours; below a power of two the neighbour is twice as near. -/
def Rounding.of (mantissa : Nat) (exponent : Int) : Rounding :=
  let scale := ExactDecimal.ofBinary 1 (exponent - 2)
  let below := if mantissa = Binary64.normalMantissa ∧ exponent ≠ Binary64.leastExponent then 1 else 2
  { low := (4 * mantissa - below) * scale.units
    value := 4 * mantissa * scale.units
    high := (4 * mantissa + 2) * scale.units
    closed := mantissa % 2 = 0
    exponent := scale.exponent }

def Rounding.holds (rounding : Rounding) (units : Nat) : Bool :=
  if rounding.closed then rounding.low ≤ units && units ≤ rounding.high
  else rounding.low < units && units < rounding.high

/-- The nearer of the two neighbours on a grid, the even one of two as near, if it reads back. -/
def Rounding.onGrid? (rounding : Rounding) (grid : Nat) : Option Nat :=
  let below := rounding.value / grid
  let down := rounding.value - below * grid
  let up := (below + 1) * grid - rounding.value
  let belowFits := rounding.holds (below * grid)
  let aboveFits := rounding.holds ((below + 1) * grid)
  if belowFits && (!aboveFits || down < up || (down = up && below % 2 = 0)) then some below
  else if aboveFits then some (below + 1)
  else none

def Rounding.shortest (rounding : Rounding) (length : Nat) : Nat → Nat → ExactDecimal
  | 0, _ => ⟨rounding.value, rounding.exponent⟩
  | tries + 1, digits =>
    match rounding.onGrid? (Nat.pow 10 (length - digits)) with
    | some units => ⟨units, rounding.exponent + (length - digits : Nat)⟩
    | none => rounding.shortest length tries (digits + 1)

def shortestDecimal (mantissa : Nat) (exponent : Int) : ExactDecimal :=
  let rounding := Rounding.of mantissa exponent
  rounding.shortest (decimalDigits rounding.value).length 17 1

structure Layout where
  positionalFrom : Int
  positionalBelow : Int
  exponentWidth : Nat
  infinity : String
  notANumber : String

def positional (digits : List Char) (whole : Int) : List Char :=
  if whole ≤ 0 then '0' :: '.' :: List.replicate (-whole).toNat '0' ++ digits
  else
    let padded := digits ++ List.replicate (whole.toNat - digits.length) '0'
    let fraction := padded.drop whole.toNat
    padded.take whole.toNat ++ '.' :: (if fraction.isEmpty then ['0'] else fraction)

def scientific (width : Nat) (digits : List Char) (exponent : Int) : List Char :=
  let point := if (digits.drop 1).isEmpty then [] else '.' :: digits.drop 1
  let sign := if exponent < 0 then '-' else '+'
  digits.take 1 ++ point ++ 'e' :: sign :: padLeft width (decimalDigits exponent.natAbs)

def Layout.write (layout : Layout) (value : Float) : String :=
  match Binary64.ofFloat value with
  | .notANumber => layout.notANumber
  | .infinite negative => (if negative then "-" else "") ++ layout.infinity
  | .finite negative mantissa exponent =>
    let magnitude :=
      if mantissa = 0 then ['0', '.', '0']
      else
        let shortest := shortestDecimal mantissa exponent
        let digits := decimalDigits shortest.units
        let leading : Int := shortest.exponent + digits.length - 1
        let kept := dropTrailingZeros digits
        if layout.positionalFrom ≤ leading ∧ leading < layout.positionalBelow
        then positional kept (leading + 1)
        else scientific layout.exponentWidth kept leading
    String.ofList (if negative then '-' :: magnitude else magnitude)

end TenPuzzle.Number
