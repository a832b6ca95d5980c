/-!
Sets of texts as lists: in the order of code points, each text once.
-/

namespace TenPuzzle.Text

/-- Puts a text at its place in a sorted list, unless it is there already. -/
def insertSorted (text : String) : List String → List String
  | [] => [text]
  | first :: rest =>
    if text < first then text :: first :: rest
    else if text = first then first :: rest
    else first :: insertSorted text rest

def sortedDistinct (texts : List String) : List String :=
  texts.foldr insertSorted []

end TenPuzzle.Text
