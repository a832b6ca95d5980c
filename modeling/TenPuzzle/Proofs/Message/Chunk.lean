import Mathlib.Data.List.Basic
import TenPuzzle.Message.Chunk

/-!
What is left of a message once it is cut into chunks. Put together again, the chunks are the lines of the message,
with a line break after each of them and after each full width of a line that is too long.
-/

namespace TenPuzzle

/-- The chunks of a message, put together again. -/
def joinedChunks (message : List Char) (limit : Nat) : List Char :=
  (chunkLines message limit).flatten

/-- A line with its breaks. -/
def brokenLine (width : Nat) (line : List Char) : List Char :=
  (piecesOf width line).flatMap Piece.text

/-! Chunks. -/

theorem closeChunk_flatten (chunk : List Char) (later : List (List Char)) :
    (closeChunk chunk later).flatten = chunk ++ later.flatten := by
  unfold closeChunk
  split
  · next empty => rw [List.isEmpty_iff.mp empty, List.nil_append]
  · exact List.flatten_cons

theorem packPieces_flatten (limit : Nat) (chunk : List Char) (pieces : List Piece) :
    (packPieces limit chunk pieces).flatten = chunk ++ pieces.flatMap Piece.text := by
  induction pieces generalizing chunk with
  | nil => exact closeChunk_flatten chunk []
  | cons piece pieces ih =>
      rw [packPieces, List.flatMap_cons]
      split
      · rw [closeChunk_flatten, List.flatten_cons, ih, List.nil_append]
      · split
        · rw [ih, List.append_assoc]
        · rw [List.flatten_cons, ih]

theorem joinedChunks_eq (message : List Char) (limit : Nat) :
    joinedChunks message limit = (linesOf message).flatMap (brokenLine (limit - 1)) := by
  rw [joinedChunks, chunkLines, packPieces_flatten, List.nil_append, List.flatMap_assoc]
  rfl

/-! Lines. -/

section

variable {width limit : Nat} {line left right message : List Char} {character : Char}

theorem brokenLine_short (short : line.length ≤ width) : brokenLine width line = line ++ ['\n'] := by
  rw [brokenLine, piecesOf, if_pos (.inl short)]
  exact List.append_nil _

theorem mem_brokenLine (member : character ∈ brokenLine width line) : character ∈ line ∨ character = '\n' := by
  induction line using piecesOf.induct width with
  | case1 line whole =>
      rw [brokenLine, piecesOf, if_pos whole] at member
      simpa using member
  | case2 line long ih =>
      rw [brokenLine, piecesOf, if_neg long, List.flatMap_cons, List.mem_append] at member
      rcases member with inFirst | inRest
      · rcases List.mem_append.mp inFirst with taken | isBreak
        · exact .inl (List.mem_of_mem_take taken)
        · exact .inr (List.mem_singleton.mp isBreak)
      · rcases ih inRest with dropped | isBreak
        · exact .inl (List.mem_of_mem_drop dropped)
        · exact .inr isBreak

theorem mem_intercalate {separator : List Char} {lines : List (List Char)} (isLine : line ∈ lines)
    (member : character ∈ line) : character ∈ separator.intercalate lines := by
  induction lines with
  | nil => cases isLine
  | cons first lines ih =>
      cases lines with
      | nil => rwa [List.intercalate_singleton, ← List.mem_singleton.mp isLine]
      | cons second lines =>
          rw [List.intercalate_cons_cons, List.mem_append, List.mem_append]
          rcases List.mem_cons.mp isLine with rfl | isLater
          · exact .inl (.inl member)
          · exact .inr (ih isLater)

theorem mem_of_mem_linesOf (isLine : line ∈ linesOf message) (member : character ∈ line) : character ∈ message := by
  have inWhole : character ∈ ['\n'].intercalate (linesOf message) := mem_intercalate isLine member
  rwa [linesOf, List.intercalate_splitOn] at inWhole

theorem unbroken_of_mem_linesOf (isLine : line ∈ linesOf message) : '\n' ∉ line := by
  induction message generalizing line with
  | nil =>
      rw [linesOf, List.splitOn_nil, List.mem_singleton] at isLine
      rw [isLine]
      exact List.not_mem_nil
  | cons first message ih =>
      obtain ⟨head, others, isLines⟩ := List.exists_cons_of_ne_nil (List.splitOn_ne_nil '\n' message)
      rw [linesOf, isLines] at ih
      rw [linesOf, List.splitOn_cons_eq_if_modifyHead, isLines] at isLine
      split at isLine
      · rcases List.mem_cons.mp isLine with rfl | isLater
        · exact List.not_mem_nil
        · exact ih isLater
      · next unbroken =>
          rcases List.mem_cons.mp isLine with rfl | isLater
          · rw [List.mem_cons, not_or]
            exact ⟨fun isBreak => unbroken (beq_iff_eq.mpr isBreak.symm), ih List.mem_cons_self⟩
          · exact ih (.tail _ isLater)

theorem brokenLine_cons : ∃ later, brokenLine width (character :: line) = character :: later := by
  rw [brokenLine, piecesOf]
  split
  · exact ⟨_, rfl⟩
  · next long =>
      cases width with
      | zero => simp at long
      | succ width => exact ⟨_, rfl⟩

/-- Chunks begin like their message. -/
theorem joinedChunks_cons (unbroken : character ≠ '\n') :
    ∃ later, joinedChunks (character :: message) limit = character :: later := by
  have lines : linesOf (character :: message) = (linesOf message).modifyHead (character :: ·) := by
    rw [linesOf, List.splitOn_cons_eq_if_modifyHead, if_neg (by simpa using unbroken)]
    rfl
  obtain ⟨first, others, isLines⟩ := List.exists_cons_of_ne_nil (List.splitOn_ne_nil '\n' message)
  obtain ⟨later, begins⟩ := @brokenLine_cons (limit - 1) first character
  rw [joinedChunks_eq, lines, linesOf, isLines, List.modifyHead_cons, List.flatMap_cons, begins]
  exact ⟨_, rfl⟩

/-- Chunks have nothing that the message has not, but line breaks. -/
theorem mem_joinedChunks (member : character ∈ joinedChunks message limit) :
    character ∈ message ∨ character = '\n' := by
  rw [joinedChunks_eq, List.mem_flatMap] at member
  obtain ⟨line, isLine, inLine⟩ := member
  rcases mem_brokenLine inLine with inText | isBreak
  · exact .inl (mem_of_mem_linesOf isLine inText)
  · exact .inr isBreak

theorem linesOf_append (left right : List Char) : linesOf (left ++ '\n' :: right) = linesOf left ++ linesOf right :=
  List.splitOn_append_cons_self left right

theorem linesOf_line (unbroken : '\n' ∉ line) : linesOf line = [line] :=
  List.splitOn_eq_singleton unbroken

theorem joinedChunks_append (left right : List Char) (limit : Nat) :
    joinedChunks (left ++ '\n' :: right) limit = joinedChunks left limit ++ joinedChunks right limit := by
  rw [joinedChunks_eq, joinedChunks_eq, joinedChunks_eq, linesOf_append, List.flatMap_append]

/-- A line that fits stays whole. -/
theorem joinedChunks_line (unbroken : '\n' ∉ line) (short : line.length ≤ limit - 1) :
    joinedChunks line limit = line ++ ['\n'] := by
  rw [joinedChunks_eq, linesOf_line unbroken, List.flatMap_singleton, brokenLine_short short]

end

end TenPuzzle
