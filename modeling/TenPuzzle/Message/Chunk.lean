/-!
Messages cut into chunks of limited length. Lines stay whole where they fit; a line that is too long
is cut into pieces of full width.
-/

namespace TenPuzzle

structure Piece where
  text : List Char
  cut : Bool
  deriving DecidableEq, Repr

def linesOf (message : List Char) : List (List Char) :=
  message.splitOn '\n'

def piecesOf (width : Nat) (line : List Char) : List Piece :=
  if line.length ≤ width ∨ width = 0 then [⟨line ++ ['\n'], false⟩]
  else ⟨line.take width ++ ['\n'], true⟩ :: piecesOf width (line.drop width)
termination_by line.length
decreasing_by
  simp only [List.length_drop]
  omega

def closeChunk (chunk : List Char) (later : List (List Char)) : List (List Char) :=
  if chunk.isEmpty then later else chunk :: later

/-- Fills the open chunk as long as pieces fit; a cut piece always stands alone. -/
def packPieces (limit : Nat) (chunk : List Char) : List Piece → List (List Char)
  | [] => closeChunk chunk []
  | piece :: rest =>
    if piece.cut then closeChunk chunk (piece.text :: packPieces limit [] rest)
    else if chunk.length + piece.text.length ≤ limit
    then packPieces limit (chunk ++ piece.text) rest
    else chunk :: packPieces limit piece.text rest

def chunkLines (message : List Char) (limit : Nat) : List (List Char) :=
  packPieces limit [] ((linesOf message).flatMap (piecesOf (limit - 1)))

def messageLimit : Nat := 2000

def fenceOpening (language : List Char) : List Char :=
  ['\x60', '\x60', '\x60'] ++ language ++ ['\n']

def fenceClosing : List Char := ['\x60', '\x60', '\x60']

def fencedChunks (message language : List Char) : List (List Char) :=
  let room := messageLimit - (fenceOpening language).length - fenceClosing.length
  (chunkLines message room).map fun chunk => fenceOpening language ++ chunk ++ fenceClosing

def chunks (message : String) (language : Option String) : List String :=
  let texts := match language with
    | none => chunkLines message.toList messageLimit
    | some name => fencedChunks message.toList name.toList
  texts.map String.ofList

structure Post where
  text : String
  reference : Option String
  deriving DecidableEq, Repr

/-- Only the first chunk answers the message referred to. -/
def posts (message : String) (reference language : Option String) : List Post :=
  match chunks message language with
  | [] => []
  | first :: rest => ⟨first, reference⟩ :: rest.map fun text => ⟨text, none⟩

end TenPuzzle
