/-!
JSON values. Numbers written with a fraction or an exponent are kept apart from whole numbers, and
objects keep their members in the order of the text.
-/

namespace TenPuzzle

inductive Json where
  | null
  | bool (value : Bool)
  | integer (value : Int)
  | float (value : Float)
  | string (value : String)
  | array (items : List Json)
  | object (members : List (String × Json))
  deriving Inhabited

/-- The value of a member; of several members with one name the last counts. -/
def Json.member? (name : String) (members : List (String × Json)) : Option Json :=
  members.foldl (fun found member => if member.1 = name then some member.2 else found) none

end TenPuzzle
