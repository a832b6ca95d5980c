import Mathlib.Data.List.Chain
import TenPuzzle.Proofs.Message.Limit

/-!
The number of chunks. If every line fits, no way of sending the lines in groups takes fewer groups than there are
chunks. In any case a chunk is only closed when the first line of the next one has no room in it.
-/

namespace TenPuzzle

/-- Lines that are sent together, each with its line break. -/
def groupText (group : List (List Char)) : List Char :=
  group.flatMap (· ++ ['\n'])

/-- Lines cut into consecutive groups that fit. -/
structure IsGrouping (limit : Nat) (lines : List (List Char)) (groups : List (List (List Char))) : Prop where
  joined : groups.flatten = lines
  fits : ∀ group ∈ groups, (groupText group).length ≤ limit

/-- A chunk that the first line of the next one would make too long. -/
def LacksRoom (limit : Nat) (chunk next : List Char) : Prop :=
  ∃ line later, next = line ++ '\n' :: later ∧ '\n' ∉ line ∧ limit < chunk.length + (line.length + 1)

def wholePiece (line : List Char) : Piece := ⟨line ++ ['\n'], false⟩

section

variable {limit width : Nat} {lines group opened : List (List Char)} {groups : List (List (List Char))}
  {chunk line message : List Char} {pieces : List Piece}

/-! Groups. -/

theorem groupText_cons (line : List Char) (group : List (List Char)) :
    groupText (line :: group) = (wholePiece line).text ++ groupText group :=
  List.flatMap_cons

theorem groupText_concat (group : List (List Char)) (line : List Char) :
    groupText (group ++ [line]) = groupText group ++ (wholePiece line).text := by
  rw [groupText, List.flatMap_append, List.flatMap_singleton]
  rfl

theorem groupText_eq_nil : groupText group = [] ↔ group = [] := by
  cases group with
  | nil => simp [groupText]
  | cons line group => simp [groupText]

theorem pieces_short (short : ∀ line ∈ lines, line.length ≤ width) :
    lines.flatMap (piecesOf width) = lines.map wholePiece := by
  rw [List.map_eq_flatMap]
  apply List.flatMap_congr
  intro line isLine
  rw [piecesOf, if_pos (.inl (short line isLine))]
  rfl

/-! Packing whole lines. -/

theorem packPieces_whole : packPieces limit chunk (wholePiece line :: pieces) =
    if chunk.length + (wholePiece line).text.length ≤ limit
    then packPieces limit (chunk ++ (wholePiece line).text) pieces
    else chunk :: packPieces limit (wholePiece line).text pieces := by
  rw [packPieces, if_neg (by simp [wholePiece])]

theorem packPieces_fitting (fits : chunk.length + (groupText group).length ≤ limit) :
    packPieces limit chunk (group.map wholePiece ++ pieces) = packPieces limit (chunk ++ groupText group) pieces := by
  induction group generalizing chunk with
  | nil => rw [groupText, List.flatMap_nil, List.append_nil, List.map_nil, List.nil_append]
  | cons line group ih =>
      rw [groupText_cons, List.length_append] at fits
      rw [List.map_cons, List.cons_append, packPieces_whole, if_pos (by omega), ih (by rw [List.length_append]; omega),
        groupText_cons, List.append_assoc]

/-- A group that fits closes one chunk at most: from the line on that has no room, the rest of it goes into the chunk
that this line opens. -/
theorem packPieces_group (fits : (groupText group).length ≤ limit) (chunk : List Char) (pieces : List Piece) :
    ∃ later, (packPieces limit chunk (group.map wholePiece ++ pieces)).length ≤
      (packPieces limit later pieces).length + 1 := by
  induction group generalizing chunk with
  | nil => exact ⟨chunk, Nat.le_succ _⟩
  | cons line group ih =>
      rw [groupText_cons, List.length_append] at fits
      rw [List.map_cons, List.cons_append, packPieces_whole]
      split
      · exact ih (by omega) _
      · rw [packPieces_fitting fits]
        exact ⟨_, (List.length_cons).le⟩

theorem packPieces_groups (fits : ∀ group ∈ groups, (groupText group).length ≤ limit) (chunk : List Char) :
    (packPieces limit chunk (groups.flatten.map wholePiece)).length ≤ groups.length + 1 := by
  induction groups generalizing chunk with
  | nil =>
      rw [List.flatten_nil, List.map_nil, packPieces, closeChunk]
      split <;> simp
  | cons group groups ih =>
      obtain ⟨later, closes⟩ := packPieces_group (fits group List.mem_cons_self) chunk (groups.flatten.map wholePiece)
      have others := ih (fun other isOther => fits other (.tail group isOther)) later
      rw [List.flatten_cons, List.map_append, List.length_cons]
      omega

/-- The first group closes no chunk, as it begins in an empty one. -/
theorem packPieces_fewest (isGrouping : IsGrouping limit lines groups) :
    (packPieces limit [] (lines.map wholePiece)).length ≤ groups.length := by
  obtain ⟨rfl, fits⟩ := isGrouping
  cases groups with
  | nil => exact Nat.le_refl 0
  | cons group groups =>
      have first : ([] : List Char).length + (groupText group).length ≤ limit := by
        rw [List.length_nil, Nat.zero_add]
        exact fits group List.mem_cons_self
      rw [List.flatten_cons, List.map_append, packPieces_fitting first, List.length_cons]
      exact packPieces_groups (fun other isOther => fits other (.tail group isOther)) _

theorem packPieces_isGroups (opened lines : List (List Char)) :
    ∃ groups : List (List (List Char)), groups.flatten = opened ++ lines ∧
      groups.map groupText = packPieces limit (groupText opened) (lines.map wholePiece) := by
  induction lines generalizing opened with
  | nil =>
      rw [List.map_nil, packPieces, closeChunk]
      split
      · next isEmpty =>
          rw [groupText_eq_nil.mp (List.isEmpty_iff.mp isEmpty)]
          exact ⟨[], rfl, rfl⟩
      · exact ⟨[opened], by simp, rfl⟩
  | cons line lines ih =>
      rw [List.map_cons, packPieces_whole]
      split
      · obtain ⟨groups, joined, texts⟩ := ih (opened ++ [line])
        exact ⟨groups, by rw [joined, List.append_assoc]; rfl, by rw [texts, groupText_concat]⟩
      · obtain ⟨groups, joined, texts⟩ := ih [line]
        refine ⟨opened :: groups, by rw [List.flatten_cons, joined]; rfl, ?_⟩
        rw [List.map_cons, texts, groupText_cons, groupText_eq_nil.mpr rfl, List.append_nil]

theorem chunkLines_isGrouping (room : 2 ≤ limit) (short : ∀ line ∈ linesOf message, line.length ≤ limit - 1) :
    ∃ groups, IsGrouping limit (linesOf message) groups ∧ groups.map groupText = chunkLines message limit := by
  obtain ⟨groups, joined, texts⟩ := @packPieces_isGroups limit [] (linesOf message)
  rw [groupText_eq_nil.mpr rfl, ← pieces_short short] at texts
  refine ⟨groups, ⟨joined, ?_⟩, texts⟩
  intro group isGroup
  have isText : groupText group ∈ groups.map groupText := List.mem_map_of_mem isGroup
  rw [texts] at isText
  exact (mem_chunkLines room isText).fits

/-! Room in chunks. -/

/-- A piece is one line, and it is as long as a chunk can be if it was cut. -/
structure Piece.IsLine (limit : Nat) (piece : Piece) : Prop where
  line : ∃ line, piece.text = line ++ ['\n'] ∧ '\n' ∉ line
  full : piece.cut = true → piece.text.length = limit

theorem mem_piecesOf_isLine {piece : Piece} (unbroken : '\n' ∉ line) (member : piece ∈ piecesOf width line) :
    piece.IsLine (width + 1) := by
  induction line using piecesOf.induct width with
  | case1 line whole =>
      rw [piecesOf, if_pos whole, List.mem_singleton] at member
      rw [member]
      exact ⟨⟨line, rfl, unbroken⟩, fun isCut => (Bool.false_ne_true isCut).elim⟩
  | case2 line long ih =>
      rw [piecesOf, if_neg long] at member
      rcases List.mem_cons.mp member with rfl | isLater
      · refine ⟨⟨line.take width, rfl, fun inTaken => unbroken (List.mem_of_mem_take inTaken)⟩, fun _ => ?_⟩
        rw [List.length_append, List.length_take, List.length_singleton]
        omega
      · exact ih (fun inRest => unbroken (List.mem_of_mem_drop inRest)) isLater

theorem lacksRoom_of_piece {piece : Piece} (isLine : piece.IsLine limit)
    (full : limit < chunk.length + piece.text.length) (later : List Char) :
    LacksRoom limit chunk (piece.text ++ later) := by
  obtain ⟨line, isText, unbroken⟩ := isLine.line
  rw [isText, List.length_append, List.length_singleton] at full
  exact ⟨line, later, by rw [isText, List.append_assoc]; rfl, unbroken, full⟩

theorem lacksRoom_of_full {next : List Char} (full : chunk.length = limit) (isChunk : IsChunk limit next) :
    LacksRoom limit chunk next := by
  obtain ⟨line, later, isText, unbroken⟩ := List.eq_append_cons_of_mem (List.mem_of_getLast? isChunk.ends)
  exact ⟨line, later, isText, unbroken, by omega⟩

theorem closeChunk_open (nonempty : chunk ≠ []) (later : List (List Char)) :
    closeChunk chunk later = chunk :: later := by
  rw [closeChunk, if_neg (by simpa using nonempty)]

theorem packPieces_opens (nonempty : chunk ≠ []) (pieces : List Piece) :
    ∃ later others, packPieces limit chunk pieces = (chunk ++ later) :: others := by
  induction pieces generalizing chunk with
  | nil => exact ⟨[], [], by rw [packPieces, closeChunk_open nonempty, List.append_nil]⟩
  | cons piece pieces ih =>
      rw [packPieces]
      split
      · exact ⟨[], _, by rw [closeChunk_open nonempty, List.append_nil]⟩
      · split
        · obtain ⟨later, others, opens⟩ := @ih (chunk ++ piece.text) (by simp [nonempty])
          exact ⟨piece.text ++ later, others, by rw [opens, List.append_assoc]⟩
        · exact ⟨[], _, by rw [List.append_nil]⟩

/-- A chunk is closed by a piece that has no room in it, or by one that fills a whole chunk. -/
theorem packPieces_lackRoom (areLines : ∀ piece ∈ pieces, piece.IsLine limit)
    (areChunks : ∀ piece ∈ pieces, IsChunk limit piece.text) (chunk : List Char) :
    (packPieces limit chunk pieces).IsChain (LacksRoom limit) := by
  induction pieces generalizing chunk with
  | nil =>
      rw [packPieces, closeChunk]
      split
      · exact .nil
      · exact .singleton chunk
  | cons piece pieces ih =>
      have isLine := areLines piece List.mem_cons_self
      have isChunk := areChunks piece List.mem_cons_self
      have areLater := fun other isOther => areChunks other (.tail piece isOther)
      have continues := ih (fun other isOther => areLines other (.tail piece isOther)) areLater
      rw [packPieces]
      split
      · next isCut =>
          -- a cut piece closes the open chunk without a look at its room, but only where it would not fit
          have full := isLine.full isCut
          have alone : (piece.text :: packPieces limit [] pieces).IsChain (LacksRoom limit) := by
            refine List.isChain_cons.mpr ⟨?_, continues []⟩
            intro next isNext
            have fits := mem_packPieces (fun nonempty => (nonempty rfl).elim) areLater (List.mem_of_mem_head? isNext)
            exact lacksRoom_of_full full fits
          by_cases nonempty : chunk = []
          · rwa [nonempty]
          · rw [closeChunk_open nonempty]
            refine List.isChain_cons_cons.mpr ⟨?_, alone⟩
            have some := List.length_pos_iff.mpr nonempty
            rw [← List.append_nil piece.text]
            exact lacksRoom_of_piece isLine (by omega) []
      · split
        · exact continues _
        · next noRoom =>
            obtain ⟨later, others, opens⟩ := @packPieces_opens limit _ isChunk.ne_nil pieces
            have chain := continues piece.text
            rw [opens] at chain ⊢
            exact List.isChain_cons_cons.mpr ⟨lacksRoom_of_piece isLine (by omega) later, chain⟩

end

/-- Chunks are as few as they can be. If every line of a message fits, its chunks are groups of its lines, and no other
way of cutting the lines into groups that fit has fewer of them. Of any message, a chunk and the first line of the next
one do not fit together. -/
theorem chunks_are_fewest (message : List Char) (limit : Nat) (room : 2 ≤ limit) :
    ((∀ line ∈ linesOf message, line.length < limit) →
      (∃ groups, IsGrouping limit (linesOf message) groups ∧ groups.map groupText = chunkLines message limit) ∧
      ∀ groups, IsGrouping limit (linesOf message) groups → (chunkLines message limit).length ≤ groups.length) ∧
    (chunkLines message limit).IsChain (LacksRoom limit) := by
  have width : limit - 1 + 1 = limit := by omega
  constructor
  · intro short
    have within : ∀ line ∈ linesOf message, line.length ≤ limit - 1 := by
      intro line isLine
      have below := short line isLine
      omega
    refine ⟨chunkLines_isGrouping room within, ?_⟩
    intro groups isGrouping
    rw [chunkLines, pieces_short within]
    exact packPieces_fewest isGrouping
  · apply packPieces_lackRoom
    · intro piece isPiece
      obtain ⟨line, isLine, inLine⟩ := List.mem_flatMap.mp isPiece
      exact width ▸ mem_piecesOf_isLine (unbroken_of_mem_linesOf isLine) inLine
    · intro piece isPiece
      obtain ⟨line, _, inLine⟩ := List.mem_flatMap.mp isPiece
      exact width ▸ mem_piecesOf (by omega) inLine

theorem chunks_are_fewest_of_four_lines :
    let message := "abc\nd\nef\ng".toList
    let groups := [["abc".toList], ["d".toList, "ef".toList], ["g".toList]]
    2 ≤ 6 ∧ (∀ line ∈ linesOf message, line.length < 6) ∧ IsGrouping 6 (linesOf message) groups ∧
      (∃ others, IsGrouping 6 (linesOf message) others ∧ others.map groupText = chunkLines message 6) ∧
      (chunkLines message 6).length ≤ 3 ∧ (chunkLines message 6).IsChain (LacksRoom 6) := by
  intro message groups
  have short : ∀ line ∈ linesOf message, line.length < 6 := by decide +kernel
  have isGrouping : IsGrouping 6 (linesOf message) groups := ⟨by decide +kernel, by decide +kernel⟩
  obtain ⟨whole, chain⟩ := chunks_are_fewest message 6 (by decide)
  obtain ⟨exist, fewest⟩ := whole short
  exact ⟨by decide, short, isGrouping, exist, fewest groups isGrouping, chain⟩

end TenPuzzle
