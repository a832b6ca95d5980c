import TenPuzzle.Number.Binary64
import TenPuzzle.Yaml.Moment

/-!
Values of YAML nodes. A scalar is its own value; a collection is known by its place among the
collections of its document, so that one collection may be the value of many nodes, and hold itself.
-/

namespace TenPuzzle.Yaml

inductive Value where
  | null
  | boolean (value : Bool)
  | integer (value : Int)
  | real (value : Float)
  | moment (value : Moment)
  | text (value : String)
  | bytes (value : List UInt8)
  | collection (place : Nat)

abbrev Entries := List (Value × Value)

inductive Collection where
  | sequence (items : List Value)
  | mapping (entries : Entries)
  | set (members : List Value)
  | pairs (entries : Entries)

/-- What a text stands for: its outermost value, and all collections. -/
structure Document where
  root : Value
  collections : Array Collection

def Value.isCollection : Value → Bool
  | .collection _ => true
  | _ => false

def equalsReal (whole : Int) (value : Float) : Bool :=
  (Number.wholePart value).toOption = some whole && Float.ofInt whole == value

def Value.whole? : Value → Option Int
  | .boolean value => some (if value then 1 else 0)
  | .integer value => some value
  | _ => none

/-- Whether two keys are one: numbers and truth values by their numeric value. -/
def Value.isSameKey (left right : Value) : Bool :=
  match left, right with
  | .null, .null => true
  | .text first, .text second => first = second
  | .bytes first, .bytes second => first = second
  | .moment first, .moment second => first = second
  | .real first, .real second => first == second
  | .real value, other | other, .real value => other.whole?.any fun whole => equalsReal whole value
  | _, _ => left.whole?.isSome && left.whole? = right.whole?

def putEntry (entries : Entries) (entry : Value × Value) : Entries :=
  if entries.any fun other => other.1.isSameKey entry.1 then
    entries.map fun other => if other.1.isSameKey entry.1 then (other.1, entry.2) else other
  else entries ++ [entry]

end TenPuzzle.Yaml
