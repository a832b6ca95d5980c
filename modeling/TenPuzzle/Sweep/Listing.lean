import TenPuzzle.Text.Order

/-!
The list of problems as a JavaScript constant: quoted entries, sorted, each once, ten to a line.
-/

namespace TenPuzzle

def rowsOf (width : Nat) (entries : List String) : List (List String) :=
  match entries with
  | [] => []
  | first :: rest => (first :: rest.take (width - 1)) :: rowsOf width (rest.drop (width - 1))
termination_by entries.length
decreasing_by
  simp only [List.length_drop, List.length_cons]
  omega

def entryText (problem : String) : String :=
  "\"" ++ problem ++ "\""

def rowText (row : List String) : String :=
  "    " ++ ", ".intercalate (row.map entryText)

/-- A comma ends every row but the last. -/
def rowTexts : List (List String) → List String
  | [] => []
  | [row] => [rowText row]
  | row :: rest => (rowText row ++ ",") :: rowTexts rest

def problemListing (problems : List String) : String :=
  let rows := rowTexts (rowsOf 10 (Text.sortedDistinct problems))
  "\n".intercalate ("const PROBLEMS = [" :: rows ++ ["];"])

end TenPuzzle
