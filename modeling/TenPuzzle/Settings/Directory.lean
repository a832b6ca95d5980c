import TenPuzzle.Text.Quoted

/-!
The texts of a working directory, found by their paths. Names with slashes stand in directories of
their own.
-/

namespace TenPuzzle

structure Directory where
  files : List (String × String)

inductive PathFault where
  | missing
  | insideFile
  | directory
  | tooLong
  | nullCharacter
  deriving DecidableEq, Repr

/-- Where a walk along a path has come to. -/
inductive Location where
  | folder (steps : List (List Char))
  | file (text : String)
  | around
  deriving DecidableEq, Repr

namespace Directory

def stepsOf (path : String) : List (List Char) :=
  path.toList.splitOn '/'

def at? (directory : Directory) (steps : List (List Char)) : Option Location :=
  match directory.files.find? fun file => stepsOf file.1 = steps with
  | some (_, text) => some (.file text)
  | none =>
    if directory.files.any fun file => steps.isPrefixOf (stepsOf file.1) then some (.folder steps)
    else none

def nameLimit : Nat := 255

def pathLimit : Nat := 4095

def isTooLong (name : List Char) : Bool :=
  nameLimit < (String.ofList name).utf8ByteSize

def step (directory : Directory) (name : List Char) : Location → Except PathFault Location
  | .file _ => .error .insideFile
  | .around =>
    if name.isEmpty ∨ name = ['.'] ∨ name = ['.', '.'] then .ok .around
    else .error (if isTooLong name then .tooLong else .missing)
  | .folder steps =>
    if name.isEmpty ∨ name = ['.'] then .ok (.folder steps)
    else if name = ['.', '.'] then
      .ok (if steps.isEmpty then .around else .folder steps.dropLast)
    else if isTooLong name then .error .tooLong
    else match directory.at? (steps ++ [name]) with
      | some location => .ok location
      | none => .error .missing

/-- The text of the file at a path. An empty path names nothing. -/
def text (directory : Directory) (path : String) : Except PathFault String := do
  if path.toList.contains '\x00' then .error .nullCharacter
  else if path.isEmpty then .error .missing
  else if pathLimit < path.utf8ByteSize then .error .tooLong
  else
    let first := if path.toList.head? = some '/' then Location.around else .folder []
    match ← (stepsOf path).foldlM (fun location name => directory.step name location) first with
    | .file text => .ok text
    | _ => .error .directory

end Directory

def PathFault.message (fault : PathFault) (path : String) : String :=
  let failed := "Failed to load game settings: "
  match fault with
  | .missing => failed ++ "[Errno 2] No such file or directory: " ++ Text.quoted path
  | .insideFile => failed ++ "[Errno 20] Not a directory: " ++ Text.quoted path
  | .directory => failed ++ "[Errno 21] Is a directory: " ++ Text.quoted path
  | .tooLong => failed ++ "[Errno 36] File name too long: " ++ Text.quoted path
  | .nullCharacter => "embedded null byte"

end TenPuzzle
