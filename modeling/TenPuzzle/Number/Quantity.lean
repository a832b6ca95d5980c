/-!
Numbers as texts keep them: whole, or with a point or an exponent.
-/

namespace TenPuzzle.Number

inductive Quantity where
  | whole (value : Int)
  | real (value : Float)

def Quantity.toFloat : Quantity → Float
  | .whole value => Float.ofInt value
  | .real value => value

end TenPuzzle.Number
