import TenPuzzle.Yaml.Form
import TenPuzzle.Yaml.Moment

/-!
Kinds of nodes. A tag names a kind; without a tag a plain scalar is a number, a truth value, a date
or nothing at all when its text has the form of one, and text otherwise.
-/

namespace TenPuzzle.Yaml

inductive Kind where
  | null
  | boolean
  | integer
  | real
  | moment
  | text
  | bytes
  | merge
  | standIn
  | sequence
  | mapping
  | set
  | pairs
  | unknown
  deriving DecidableEq, Repr

def kindOfForm (text : List Char) : Kind :=
  let word := String.ofList text
  if nullWords.contains word then .null
  else if trueWords.contains word || falseWords.contains word then .boolean
  else if isRealForm text then .real
  else if isWholeForm text then .integer
  else if (Moment.ofText? text).isSome then .moment
  else if word = "<<" then .merge
  else if word = "=" then .standIn
  else .text

/-- The kind of a scalar without a tag, whose text is more than a line feed if it has a form. -/
def impliedKind (text : List Char) : Kind :=
  if text = ['\n'] then .text else kindOfForm (withoutFinalBreak text)

def standardTags : List (String × Kind) :=
  [("null", .null), ("bool", .boolean), ("int", .integer), ("float", .real),
   ("timestamp", .moment), ("str", .text), ("binary", .bytes), ("merge", .merge),
   ("value", .standIn), ("seq", .sequence), ("map", .mapping), ("set", .set),
   ("omap", .pairs), ("pairs", .pairs)]

def kindOfTag (tag : List Char) : Kind :=
  let named := standardTags.find? fun entry => "tag:yaml.org,2002:" ++ entry.1 = String.ofList tag
  (named.map Prod.snd).getD .unknown

/-- The kind that a tag names; without a tag, or with one that says nothing, the implied one. -/
def kindOf (tag : Option (List Char)) (implied : Kind) : Kind :=
  match tag with
  | none => implied
  | some tag => if tag = ['!'] then implied else kindOfTag tag

end TenPuzzle.Yaml
