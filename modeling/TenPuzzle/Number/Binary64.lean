/-!
Binary floating-point numbers taken apart: a finite number is a sign, a mantissa and a power of two,
and from these every digit of its exact decimal expansion follows.
-/

namespace TenPuzzle.Number

inductive Binary64 where
  | notANumber
  | infinite (negative : Bool)
  | finite (negative : Bool) (mantissa : Nat) (exponent : Int)
  deriving DecidableEq, Repr

def Binary64.leastExponent : Int := -1074

def Binary64.normalMantissa : Nat := Nat.pow 2 52

def Binary64.ofFloat (value : Float) : Binary64 :=
  let bits := value.toBits.toNat
  let negative : Bool := bits / Nat.pow 2 63 == 1
  let biased : Nat := bits / normalMantissa % Nat.pow 2 11
  let fraction : Nat := bits % normalMantissa
  if biased = 2047 then
    if fraction = 0 then infinite negative else notANumber
  else if biased = 0 then finite negative fraction leastExponent
  else finite negative (fraction + normalMantissa) (leastExponent + biased - 1)

/-- A magnitude as a whole number of units of a power of ten, with nothing rounded. -/
structure ExactDecimal where
  units : Nat
  exponent : Int
  deriving DecidableEq, Repr

/-- A half is five tenths, so a negative power of two is a power of five over a power of ten. -/
def ExactDecimal.ofBinary (mantissa : Nat) (exponent : Int) : ExactDecimal :=
  match exponent with
  | .ofNat power => ⟨mantissa * Nat.pow 2 power, 0⟩
  | .negSucc power => ⟨mantissa * Nat.pow 5 (power + 1), .negSucc power⟩

inductive WholeFault where
  | notANumber
  | infinite
  deriving DecidableEq, Repr

def WholeFault.message : WholeFault → String
  | .notANumber => "cannot convert float NaN to integer"
  | .infinite => "cannot convert float infinity to integer"

def wholePart (value : Float) : Except WholeFault Int :=
  match Binary64.ofFloat value with
  | .notANumber => .error .notANumber
  | .infinite _ => .error .infinite
  | .finite negative mantissa exponent =>
    let magnitude : Int := match exponent with
      | .ofNat power => mantissa * Nat.pow 2 power
      | .negSucc power => mantissa / Nat.pow 2 (power + 1)
    .ok (if negative then -magnitude else magnitude)

end TenPuzzle.Number
