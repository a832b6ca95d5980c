import TenPuzzle.Proofs.Message.Chunk

/-!
The limit of chunks. Every chunk fits, ends in a line break, and has nothing in it but lines and full pieces of lines
that are too long.
-/

namespace TenPuzzle

/-- A line cut into pieces of full width; the last one may be shorter, and has nothing in it only if the line has
nothing. -/
structure IsCut (width : Nat) (line : List Char) (pieces : List (List Char)) : Prop where
  joined : pieces.flatten = line
  nonempty : pieces ≠ []
  full : ∀ piece ∈ pieces.dropLast, piece.length = width
  last : ∀ piece ∈ pieces.getLast?, piece.length ≤ width ∧ (piece = [] → line = [])

/-- A text that is sent as one message. -/
structure IsChunk (limit : Nat) (text : List Char) : Prop where
  ends : text.getLast? = some '\n'
  fits : text.length ≤ limit

section

variable {width limit : Nat} {line chunk message : List Char} {piece : Piece} {pieces : List Piece}

/-! Lines. -/

theorem brokenLine_isCut (room : 0 < width) (line : List Char) :
    ∃ pieces, IsCut width line pieces ∧ brokenLine width line = pieces.flatMap (· ++ ['\n']) := by
  induction line using piecesOf.induct width with
  | case1 line whole =>
      have short : line.length ≤ width := by omega
      refine ⟨[line], ⟨by simp, by simp, by simp, ?_⟩, ?_⟩
      · rintro piece ⟨⟩
        exact ⟨short, id⟩
      · rw [brokenLine_short short, List.flatMap_singleton]
  | case2 line long ih =>
      obtain ⟨pieces, isCut, breaks⟩ := ih
      obtain ⟨first, others, rfl⟩ := List.exists_cons_of_ne_nil isCut.nonempty
      refine ⟨line.take width :: first :: others, ⟨?_, by simp, ?_, ?_⟩, ?_⟩
      · rw [List.flatten_cons, isCut.joined, List.take_append_drop]
      · intro piece member
        rw [List.dropLast_cons_cons] at member
        rcases List.mem_cons.mp member with rfl | isLater
        · rw [List.length_take]
          omega
        · exact isCut.full piece isLater
      · intro piece isLast
        rw [List.getLast?_cons_cons] at isLast
        obtain ⟨short, empty⟩ := isCut.last piece isLast
        refine ⟨short, ?_⟩
        intro isEmpty
        have done := List.drop_eq_nil_iff.mp (empty isEmpty)
        omega
      · rw [brokenLine, piecesOf, if_neg long, List.flatMap_cons, List.flatMap_cons, ← breaks]
        rfl

theorem exists_cuts (room : 0 < width) (lines : List (List Char)) :
    ∃ cuts, List.Forall₂ (IsCut width) lines cuts ∧
      lines.flatMap (brokenLine width) = cuts.flatten.flatMap (· ++ ['\n']) := by
  induction lines with
  | nil => exact ⟨[], .nil, rfl⟩
  | cons line lines ih =>
      obtain ⟨pieces, isCut, breaks⟩ := brokenLine_isCut room line
      obtain ⟨cuts, areCut, breakLater⟩ := ih
      refine ⟨pieces :: cuts, .cons isCut areCut, ?_⟩
      rw [List.flatMap_cons, breaks, breakLater, List.flatten_cons, List.flatMap_append]

theorem flatMap_line {lines : List (List Char)} (separator : Char) (nonempty : lines ≠ []) :
    lines.flatMap (· ++ [separator]) = [separator].intercalate lines ++ [separator] := by
  induction lines with
  | nil => exact (nonempty rfl).elim
  | cons line lines ih =>
      cases lines with
      | nil => rw [List.flatMap_singleton, List.intercalate_singleton]
      | cons second lines =>
          rw [List.flatMap_cons, ih (List.cons_ne_nil second lines), List.intercalate_cons_cons]
          simp only [List.append_assoc]

/-- Lines that fit stay whole, and then nothing but a last line break is added. -/
theorem joinedChunks_short (short : ∀ line ∈ linesOf message, line.length ≤ limit - 1) :
    joinedChunks message limit = message ++ ['\n'] := by
  have whole : (linesOf message).flatMap (brokenLine (limit - 1)) = (linesOf message).flatMap (· ++ ['\n']) :=
    List.flatMap_congr fun line isLine => brokenLine_short (short line isLine)
  rw [joinedChunks_eq, whole, linesOf, flatMap_line '\n' (List.splitOn_ne_nil '\n' message), List.intercalate_splitOn]

/-! Chunks. -/

theorem IsChunk.ne_nil (isChunk : IsChunk limit chunk) : chunk ≠ [] := by
  rintro rfl
  cases isChunk.ends

theorem mem_piecesOf (room : 0 < width) (member : piece ∈ piecesOf width line) :
    IsChunk (width + 1) piece.text := by
  have closed {text : List Char} (short : text.length ≤ width) : IsChunk (width + 1) (text ++ ['\n']) :=
    ⟨List.getLast?_concat, by simpa using short⟩
  induction line using piecesOf.induct width with
  | case1 line whole =>
      rw [piecesOf, if_pos whole, List.mem_singleton] at member
      rw [member]
      exact closed (by omega)
  | case2 line long ih =>
      rw [piecesOf, if_neg long] at member
      rcases List.mem_cons.mp member with rfl | isLater
      · exact closed (List.length_take_le width line)
      · exact ih isLater

theorem mem_closeChunk {later : List (List Char)} (member : line ∈ closeChunk chunk later) :
    (line = chunk ∧ chunk ≠ []) ∨ line ∈ later := by
  unfold closeChunk at member
  split at member
  · exact .inr member
  · next isOpen =>
      rcases List.mem_cons.mp member with rfl | isLater
      · exact .inl ⟨rfl, by simpa using isOpen⟩
      · exact .inr isLater

/-- Packing adds no piece to a chunk that has no room for it, so what fits when it is opened fits when it is closed. -/
theorem mem_packPieces (isOpen : chunk ≠ [] → IsChunk limit chunk)
    (areChunks : ∀ piece ∈ pieces, IsChunk limit piece.text) (member : line ∈ packPieces limit chunk pieces) :
    IsChunk limit line := by
  induction pieces generalizing chunk with
  | nil =>
      rcases mem_closeChunk member with ⟨rfl, nonempty⟩ | isLater
      · exact isOpen nonempty
      · cases isLater
  | cons piece pieces ih =>
      have here := areChunks piece List.mem_cons_self
      have later := fun other isLater => areChunks other (.tail piece isLater)
      rw [packPieces] at member
      split at member
      · rcases mem_closeChunk member with ⟨rfl, nonempty⟩ | isLater
        · exact isOpen nonempty
        · rcases List.mem_cons.mp isLater with rfl | isRest
          · exact here
          · exact ih (fun nonempty => (nonempty rfl).elim) later isRest
      · split at member
        · next fits =>
            have grown : IsChunk limit (chunk ++ piece.text) := by
              refine ⟨?_, by rwa [List.length_append]⟩
              rw [List.getLast?_append, here.ends]
              rfl
            exact ih (fun _ => grown) later member
        · next full =>
            have nonempty : chunk ≠ [] := by
              rintro rfl
              exact full (by simpa using here.fits)
            rcases List.mem_cons.mp member with rfl | isRest
            · exact isOpen nonempty
            · exact ih (fun _ => here) later isRest

theorem mem_chunkLines (room : 2 ≤ limit) (member : chunk ∈ chunkLines message limit) : IsChunk limit chunk := by
  apply mem_packPieces (fun nonempty => (nonempty rfl).elim) _ member
  intro piece isPiece
  obtain ⟨line, _, inLine⟩ := List.mem_flatMap.mp isPiece
  have width : limit - 1 + 1 = limit := by omega
  exact width ▸ mem_piecesOf (by omega) inLine

theorem chunkLines_ne_nil (message : List Char) (limit : Nat) : chunkLines message limit ≠ [] := by
  intro nothing
  have silent : joinedChunks message limit = [] := by rw [joinedChunks, nothing, List.flatten_nil]
  obtain ⟨first, others, isLines⟩ := List.exists_cons_of_ne_nil (List.splitOn_ne_nil '\n' message)
  rw [joinedChunks_eq, linesOf, isLines, List.flatMap_cons, List.append_eq_nil_iff] at silent
  have broken := silent.1
  rw [brokenLine, piecesOf] at broken
  split at broken <;> simp at broken

end

theorem chunk_length_le {message text : String} {language : Option String}
    (room : ∀ name ∈ language, (fenceOpening name.toList).length + fenceClosing.length + 2 ≤ messageLimit)
    (member : text ∈ chunks message language) : text.length ≤ messageLimit := by
  obtain ⟨chunk, isChunk, rfl⟩ := List.mem_map.mp member
  rw [String.length_ofList]
  cases language with
  | none => exact (mem_chunkLines (by decide) isChunk).fits
  | some name =>
      have wide := room name rfl
      obtain ⟨inner, isInner, rfl⟩ := List.mem_map.mp isChunk
      have fits := (mem_chunkLines (by omega) isInner).fits
      rw [List.length_append, List.length_append]
      omega

/-- The chunks of a message fit, each ends in a line break, and nothing is lost: put together again, they are the
lines of the message, cut into pieces of full width, with a line break after each piece. If every line fits, they are
the message with one more line break. -/
theorem chunks_keep_message (message : List Char) (limit : Nat) (room : 2 ≤ limit) :
    chunkLines message limit ≠ [] ∧
    (∀ chunk ∈ chunkLines message limit, chunk ≠ [] ∧ chunk.getLast? = some '\n' ∧ chunk.length ≤ limit) ∧
    (∃ cuts, List.Forall₂ (IsCut (limit - 1)) (linesOf message) cuts ∧
      (chunkLines message limit).flatten = cuts.flatten.flatMap (· ++ ['\n'])) ∧
    ((∀ line ∈ linesOf message, line.length < limit) → (chunkLines message limit).flatten = message ++ ['\n']) := by
  refine ⟨chunkLines_ne_nil message limit, ?_, ?_, ?_⟩
  · intro chunk member
    have isChunk := mem_chunkLines room member
    exact ⟨isChunk.ne_nil, isChunk.ends, isChunk.fits⟩
  · obtain ⟨cuts, areCut, breaks⟩ := @exists_cuts (limit - 1) (by omega) (linesOf message)
    exact ⟨cuts, areCut, (joinedChunks_eq message limit).trans breaks⟩
  · intro short
    apply joinedChunks_short
    intro line isLine
    have below := short line isLine
    omega

theorem chunks_keep_message_of_long_line :
    2 ≤ 3 ∧ chunkLines "abcde\n\nf".toList 3 ≠ [] ∧
      (∀ chunk ∈ chunkLines "abcde\n\nf".toList 3, chunk ≠ [] ∧ chunk.getLast? = some '\n' ∧ chunk.length ≤ 3) ∧
      ∃ cuts, List.Forall₂ (IsCut 2) ["abcde".toList, [], ['f']] cuts ∧
        (chunkLines "abcde\n\nf".toList 3).flatten = cuts.flatten.flatMap (· ++ ['\n']) := by
  obtain ⟨nonempty, fit, cuts, _⟩ := chunks_keep_message "abcde\n\nf".toList 3 (by decide)
  have lines : linesOf "abcde\n\nf".toList = ["abcde".toList, [], ['f']] := by decide +kernel
  rw [lines] at cuts
  exact ⟨by decide, nonempty, fit, cuts⟩

end TenPuzzle
