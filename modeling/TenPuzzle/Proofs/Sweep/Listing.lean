import Mathlib.Data.List.Sort
import TenPuzzle.Proofs.Message.Chunk
import TenPuzzle.Proofs.Sweep.Size
import TenPuzzle.Proofs.Text.Absence
import TenPuzzle.Sweep.Listing

/-!
Reading a listing. Its quoted texts are the problems, in order and each once, ten to a line, with one comma from each
to the next. So listings of different problems are different.
-/

namespace TenPuzzle

/-! Quotes. -/

def insideParts {α : Type} : List α → List α
  | _ :: inside :: parts => inside :: insideParts parts
  | _ => []

def outsideParts {α : Type} : List α → List α
  | outside :: _ :: parts => outside :: outsideParts parts
  | parts => parts

/-- The texts between an opening quote and the quote that closes it, from left to right. -/
def quotedTexts (text : List Char) : List String :=
  (insideParts (text.splitOn '"')).map String.ofList

/-- What stands before, between and after the quoted texts. -/
def gapsOf (text : List Char) : List (List Char) :=
  outsideParts (text.splitOn '"')

/-- A text that can be quoted on a line. -/
structure IsQuotable (text : String) : Prop where
  unquoted : Lacks '"' text
  unbroken : Lacks '\n' text

/-- A text made of quoted texts and of the gaps around them. -/
inductive Quotes : List Char → List String → List (List Char) → Prop
  | done {text} : '"' ∉ text → Quotes text [] [text]
  | entry {gap problem text problems gaps} : '"' ∉ gap → Lacks '"' problem → Quotes text problems gaps →
      Quotes (gap ++ ((entryText problem).toList ++ text)) (problem :: problems) (gap :: gaps)

section

variable {character : Char} {lead gap after text : List Char} {gaps : List (List Char)} {problem : String}
  {problems row : List String} {rows : List (List String)}

theorem splitOn_entry (unquoted : '"' ∉ gap) (lacks : Lacks '"' problem) :
    (gap ++ ((entryText problem).toList ++ after)).splitOn '"' = gap :: problem.toList :: after.splitOn '"' := by
  have isEntry : (entryText problem).toList ++ after = '"' :: (problem.toList ++ '"' :: after) := by
    simp [entryText]
  rw [isEntry, List.splitOn_append_cons_self_of_not_mem unquoted, List.splitOn_append_cons_self_of_not_mem lacks.absent]

theorem Quotes.texts_eq (quotes : Quotes text problems gaps) : quotedTexts text = problems := by
  induction quotes with
  | done unquoted =>
      rw [quotedTexts, List.splitOn_eq_singleton unquoted]
      rfl
  | entry unquoted lacks _ ih =>
      rw [quotedTexts, splitOn_entry unquoted lacks, insideParts, List.map_cons, String.ofList_toList, ← quotedTexts,
        ih]

theorem Quotes.gaps_eq (quotes : Quotes text problems gaps) : gapsOf text = gaps := by
  induction quotes with
  | done unquoted =>
      rw [gapsOf, List.splitOn_eq_singleton unquoted]
      rfl
  | entry unquoted lacks _ ih => rw [gapsOf, splitOn_entry unquoted lacks, outsideParts, ← gapsOf, ih]

theorem Quotes.gaps_length (quotes : Quotes text problems gaps) : gaps.length = problems.length + 1 := by
  induction quotes with
  | done _ => rfl
  | entry _ _ _ ih => rw [List.length_cons, List.length_cons, ih]

/-! Rows. -/

theorem rowsOf_flatten (width : Nat) (problems : List String) : (rowsOf width problems).flatten = problems := by
  induction problems using rowsOf.induct width with
  | case1 =>
      rw [rowsOf]
      rfl
  | case2 first rest ih => rw [rowsOf, List.flatten_cons, ih, List.cons_append, List.take_append_drop]

theorem mem_of_mem_rowsOf {width : Nat} (isRow : row ∈ rowsOf width problems) (inRow : problem ∈ row) :
    problem ∈ problems :=
  rowsOf_flatten width problems ▸ List.mem_flatten_of_mem isRow inRow

theorem length_of_mem_rowsOf {width : Nat} (room : 0 < width) (isRow : row ∈ rowsOf width problems) :
    1 ≤ row.length ∧ row.length ≤ width := by
  induction problems using rowsOf.induct width with
  | case1 =>
      rw [rowsOf] at isRow
      cases isRow
  | case2 first rest ih =>
      rw [rowsOf] at isRow
      rcases List.mem_cons.mp isRow with rfl | isLater
      · rw [List.length_cons, List.length_take]
        omega
      · exact ih isLater

/-- A row is only begun when the one before it is full. -/
theorem length_of_mem_dropLast {width : Nat} (room : 0 < width) (isRow : row ∈ (rowsOf width problems).dropLast) :
    row.length = width := by
  induction problems using rowsOf.induct width with
  | case1 =>
      rw [rowsOf] at isRow
      cases isRow
  | case2 first rest ih =>
      rw [rowsOf] at isRow
      cases following : rowsOf width (rest.drop (width - 1)) with
      | nil =>
          rw [following] at isRow
          cases isRow
      | cons second others =>
          rw [following, List.dropLast_cons_cons, ← following] at isRow
          rcases List.mem_cons.mp isRow with rfl | isLater
          · have more : rest.drop (width - 1) ≠ [] := by
              intro none
              rw [none, rowsOf] at following
              cases following
            rw [ne_eq, List.drop_eq_nil_iff] at more
            rw [List.length_cons, List.length_take]
            omega
          · exact ih isLater

theorem mem_rowTexts {text : String} (member : text ∈ rowTexts rows) :
    ∃ row ∈ rows, text = rowText row ∨ text = rowText row ++ "," := by
  induction rows using rowTexts.induct with
  | case1 =>
      rw [rowTexts] at member
      cases member
  | case2 row =>
      rw [rowTexts, List.mem_singleton] at member
      exact ⟨row, List.mem_singleton_self row, .inl member⟩
  | case3 row rest several ih =>
      rw [rowTexts, List.mem_cons] at member
      rcases member with isFirst | isLater
      · exact ⟨row, List.mem_cons_self, .inr isFirst⟩
      · obtain ⟨other, isRow, isText⟩ := ih isLater
        exact ⟨other, .tail _ isRow, isText⟩
      · exact several

theorem listed_nonempty (isRow : row ∈ rowsOf 10 (Text.sortedDistinct problems)) : row ≠ [] :=
  List.length_pos_iff.mp (length_of_mem_rowsOf (by decide) isRow).1

theorem mem_of_mem_listed (isRow : row ∈ rowsOf 10 (Text.sortedDistinct problems)) (inRow : problem ∈ row) :
    problem ∈ problems :=
  Text.mem_sortedDistinct.mp (mem_of_mem_rowsOf isRow inRow)

theorem mem_listed_texts {text : String} (member : text ∈ "const PROBLEMS = [" :: rowTexts rows ++ ["];"]) :
    text ∈ ["const PROBLEMS = [", "];"] ∨ ∃ row ∈ rows, text = rowText row ∨ text = rowText row ++ "," := by
  rw [List.cons_append, List.mem_cons, List.mem_append, List.mem_singleton] at member
  rcases member with rfl | isRow | rfl
  · exact .inl (by decide)
  · exact .inr (mem_rowTexts isRow)
  · exact .inl (by decide)

theorem rowText_lacks (apart : character ∉ ['"', ' ', ',']) (lacks : ∀ problem ∈ row, Lacks character problem) :
    Lacks character (rowText row) := by
  have constants : Lacks character "\"" ∧ Lacks character "    " ∧ Lacks character ", " := by
    simp only [List.mem_cons, List.not_mem_nil, or_false, not_or] at apart
    refine ⟨⟨?_⟩, ⟨?_⟩, ⟨?_⟩⟩ <;> simp [apart]
  delta rowText
  rw [lacks_append]
  refine ⟨constants.2.1, lacks_intercalate constants.2.2 ?_⟩
  intro text member
  obtain ⟨problem, isIn, rfl⟩ := List.mem_map.mp member
  delta entryText
  simp only [lacks_append, lacks problem isIn, constants, and_self]

/-- Between the problems of a row stand a comma and a blank. -/
theorem Quotes.push_row (quotes : Quotes after problems gaps) (unquoted : '"' ∉ lead)
    (lacks : ∀ other ∈ problem :: row, Lacks '"' other) :
    Quotes (lead ++ ((", ".intercalate ((problem :: row).map entryText)).toList ++ after)) (problem :: row ++ problems)
      (lead :: (List.replicate row.length ", ".toList ++ gaps)) := by
  induction row generalizing lead problem with
  | nil =>
      rw [List.map_singleton, String.intercalate_singleton]
      exact quotes.entry unquoted (lacks problem List.mem_cons_self)
  | cons second row ih =>
      have later := ih (by decide : '"' ∉ ", ".toList) fun other isOther => lacks other (.tail problem isOther)
      have together := later.entry unquoted (lacks problem List.mem_cons_self)
      rw [List.map_cons, List.map_cons, String.intercalate_cons_cons, String.toList_append, String.toList_append,
        List.append_assoc, List.append_assoc, List.length_cons, List.replicate_succ]
      exact together

/-! Listings. -/

theorem intercalate_lines (separator : Char) (first : List Char) (lines : List (List Char)) :
    [separator].intercalate (first :: lines) = first ++ lines.flatMap (separator :: ·) := by
  induction lines generalizing first with
  | nil => rw [List.intercalate_singleton, List.flatMap_nil, List.append_nil]
  | cons second lines ih =>
      rw [List.intercalate_cons_cons, ih, List.flatMap_cons, List.append_assoc]
      rfl

def listingLines (rows : List (List String)) : List (List Char) :=
  (rowTexts rows).map String.toList ++ ["];".toList]

theorem mem_listingLines {line : List Char} (isLine : line ∈ "const PROBLEMS = [".toList :: listingLines rows) :
    ∃ text ∈ "const PROBLEMS = [" :: rowTexts rows ++ ["];"], text.toList = line := by
  apply List.mem_map.mp
  rwa [List.cons_append, List.map_cons, List.map_append]

theorem problemListing_toList (problems : List String) :
    (problemListing problems).toList = "const PROBLEMS = [".toList ++
      (listingLines (rowsOf 10 (Text.sortedDistinct problems))).flatMap ('\n' :: ·) := by
  rw [problemListing, String.toList_intercalate, List.cons_append, List.map_cons, List.map_append]
  exact intercalate_lines '\n' _ _

theorem rowText_toList (row : List String) :
    (rowText row).toList = "    ".toList ++ (", ".intercalate (row.map entryText)).toList := by
  rw [rowText, String.toList_append]

/-- A row that more text follows. -/
theorem Quotes.push_line (quotes : Quotes after problems gaps) (unquoted : '"' ∉ lead)
    (lacks : ∀ other ∈ problem :: row, Lacks '"' other) :
    Quotes (lead ++ '\n' :: ((rowText (problem :: row)).toList ++ after)) (problem :: row ++ problems)
      ((lead ++ "\n    ".toList) :: (List.replicate row.length ", ".toList ++ gaps)) := by
  have indented : '"' ∉ lead ++ "\n    ".toList := by
    rw [List.mem_append, not_or]
    exact ⟨unquoted, by decide⟩
  have pushed := quotes.push_row indented lacks
  rw [List.append_assoc] at pushed
  rw [rowText_toList, List.append_assoc]
  exact pushed

theorem rows_quote (nonempty : rows ≠ []) (filled : ∀ row ∈ rows, row ≠ [])
    (lacks : ∀ row ∈ rows, ∀ problem ∈ row, Lacks '"' problem) (unquoted : '"' ∉ lead) :
    ∃ inner, Quotes (lead ++ (listingLines rows).flatMap ('\n' :: ·)) rows.flatten
        ((lead ++ "\n    ".toList) :: (inner ++ ["\n];".toList])) ∧
      ∀ gap ∈ inner, gap.count ',' = 1 := by
  have commas (count : Nat) : ∀ gap ∈ List.replicate count ", ".toList, gap.count ',' = 1 := by
    intro gap isGap
    rw [List.eq_of_mem_replicate isGap]
    decide
  induction rows using rowTexts.induct generalizing lead with
  | case1 => exact (nonempty rfl).elim
  | case2 row =>
      obtain ⟨problem, row, rfl⟩ := List.exists_cons_of_ne_nil (filled row (List.mem_singleton_self row))
      have ends : Quotes "\n];".toList [] ["\n];".toList] := .done (by decide)
      refine ⟨List.replicate row.length ", ".toList, ?_, commas row.length⟩
      exact ends.push_line unquoted (lacks _ (List.mem_singleton_self _))
  | case3 row rest several ih =>
      obtain ⟨problem, row, rfl⟩ := List.exists_cons_of_ne_nil (filled row List.mem_cons_self)
      obtain ⟨inner, later, single⟩ := ih several (fun other isOther => filled other (.tail _ isOther))
        (fun other isOther => lacks other (.tail _ isOther)) (by decide : '"' ∉ ",".toList)
      refine ⟨List.replicate row.length ", ".toList ++ ((",".toList ++ "\n    ".toList) :: inner), ?_, ?_⟩
      · have pushed := later.push_line unquoted (lacks _ List.mem_cons_self)
        have lines : listingLines ((problem :: row) :: rest) =
            (rowText (problem :: row) ++ ",").toList :: listingLines rest := by
          rw [listingLines, rowTexts, List.map_cons, List.cons_append, listingLines]
          exact several
        rw [lines, List.flatMap_cons, String.toList_append, List.cons_append, List.append_assoc _ ",".toList,
          List.append_assoc (List.replicate _ _)]
        exact pushed
      · intro gap isGap
        rcases List.mem_append.mp isGap with inRow | isLater
        · exact commas _ gap inRow
        · rcases List.mem_cons.mp isLater with rfl | isInner
          · decide
          · exact single gap isInner

/-- The quoted texts of a listing are its problems. -/
theorem listing_quotes (lacks : ∀ problem ∈ problems, Lacks '"' problem) :
    ∃ gaps, Quotes (problemListing problems).toList (Text.sortedDistinct problems) gaps ∧
      (∀ gap ∈ gaps.tail.dropLast, gap.count ',' = 1) ∧ ∀ gap ∈ gaps.getLast?, ',' ∉ gap := by
  rw [problemListing_toList]
  have isFlat := rowsOf_flatten 10 (Text.sortedDistinct problems)
  by_cases nonempty : rowsOf 10 (Text.sortedDistinct problems) = []
  · rw [nonempty] at isFlat ⊢
    rw [← isFlat]
    exact ⟨_, .done (by decide), by simp, by decide +kernel⟩
  · have unquoted : ∀ row ∈ rowsOf 10 (Text.sortedDistinct problems), ∀ problem ∈ row, Lacks '"' problem :=
      fun row isRow problem inRow => lacks problem (mem_of_mem_listed isRow inRow)
    obtain ⟨inner, quotes, single⟩ := rows_quote nonempty (fun row isRow => listed_nonempty isRow) unquoted
      (by decide : '"' ∉ "const PROBLEMS = [".toList)
    rw [isFlat] at quotes
    refine ⟨_, quotes, ?_, ?_⟩
    · rwa [List.tail_cons, List.dropLast_concat]
    · rw [← List.cons_append, List.getLast?_concat]
      rintro gap ⟨⟩
      decide

theorem linesOf_listing (unbroken : ∀ problem ∈ problems, Lacks '\n' problem) :
    linesOf (problemListing problems).toList =
      "const PROBLEMS = [".toList :: listingLines (rowsOf 10 (Text.sortedDistinct problems)) := by
  have rows : ∀ row ∈ rowsOf 10 (Text.sortedDistinct problems), Lacks '\n' (rowText row) := by
    intro row isRow
    apply rowText_lacks (by decide)
    exact fun problem inRow => unbroken problem (mem_of_mem_listed isRow inRow)
  rw [problemListing_toList, ← intercalate_lines, linesOf]
  apply List.splitOn_intercalate _ _ (List.cons_ne_nil _ _)
  have ends : ∀ text ∈ ["const PROBLEMS = [", "];"], Lacks '\n' text := by decide
  intro line isLine
  obtain ⟨text, isText, rfl⟩ := mem_listingLines isLine
  rcases mem_listed_texts isText with isEnd | ⟨row, isRow, rfl | rfl⟩
  · exact (ends text isEnd).absent
  · exact (rows row isRow).absent
  · exact (lacks_append.mpr ⟨rows row isRow, by decide⟩).absent

/-- What is quoted in each line of a listing is the row that it was made of. -/
theorem rowTexts_quote (filled : ∀ row ∈ rows, row ≠ []) (lacks : ∀ row ∈ rows, ∀ problem ∈ row, Lacks '"' problem) :
    (rowTexts rows).map (fun text => quotedTexts text.toList) = rows := by
  have reads (row : List String) (after : String) (isPlain : Lacks '"' after) (isFilled : row ≠ [])
      (inRow : ∀ problem ∈ row, Lacks '"' problem) : quotedTexts (rowText row ++ after).toList = row := by
    obtain ⟨problem, row, rfl⟩ := List.exists_cons_of_ne_nil isFilled
    have ends : Quotes after.toList [] [after.toList] := .done isPlain.absent
    have pushed := (ends.push_row (by decide : '"' ∉ "    ".toList) inRow).texts_eq
    rw [String.toList_append, rowText_toList, List.append_assoc, pushed, List.append_nil]
  induction rows using rowTexts.induct with
  | case1 => rfl
  | case2 row =>
      have isRow := List.mem_singleton_self row
      have alone := reads row "" (by decide) (filled row isRow) (lacks row isRow)
      rw [String.append_empty] at alone
      rw [rowTexts, List.map_singleton, alone]
  | case3 row rest several ih =>
      have isRow : row ∈ row :: rest := List.mem_cons_self
      have later := ih (fun other isOther => filled other (.tail _ isOther))
        (fun other isOther => lacks other (.tail _ isOther))
      rw [rowTexts, List.map_cons, later, reads row "," (by decide) (filled row isRow) (lacks row isRow)]
      exact several

theorem listing_lines (quotable : ∀ problem ∈ problems, IsQuotable problem) :
    ∃ lines, linesOf (problemListing problems).toList = "const PROBLEMS = [".toList :: (lines ++ ["];".toList]) ∧
      lines.map quotedTexts = rowsOf 10 (Text.sortedDistinct problems) := by
  refine ⟨_, linesOf_listing fun problem isProblem => (quotable problem isProblem).unbroken, ?_⟩
  rw [List.map_map]
  apply rowTexts_quote
  · exact fun row isRow => listed_nonempty isRow
  · exact fun row isRow problem inRow => (quotable problem (mem_of_mem_listed isRow inRow)).unquoted

end

/-- A listing can be read back. What is quoted in it are the problems, in strictly increasing order. The lines between
the first and the last hold ten of them, but the last such line may hold fewer. From the closing quote of each problem
to the opening quote of the next there is one comma, and after the last one there is none. So two listings are the same
text exactly if they are of the same problems. -/
theorem listing_reads_back (problems : List String) (quotable : ∀ problem ∈ problems, IsQuotable problem) :
    let text := (problemListing problems).toList
    (quotedTexts text).Pairwise (· < ·) ∧ (∀ problem, problem ∈ quotedTexts text ↔ problem ∈ problems) ∧
    (∃ lines, linesOf text = "const PROBLEMS = [".toList :: (lines ++ ["];".toList]) ∧
      (lines.map quotedTexts).flatten = quotedTexts text ∧
      (∀ line ∈ lines.dropLast, (quotedTexts line).length = 10) ∧
      ∀ line ∈ lines.getLast?, 1 ≤ (quotedTexts line).length ∧ (quotedTexts line).length ≤ 10) ∧
    (gapsOf text).length = (quotedTexts text).length + 1 ∧
    (∀ gap ∈ (gapsOf text).tail.dropLast, gap.count ',' = 1) ∧ (∀ gap ∈ (gapsOf text).getLast?, ',' ∉ gap) ∧
    ∀ others : List String, (∀ other ∈ others, IsQuotable other) →
      (problemListing others = problemListing problems ↔ ∀ problem, problem ∈ others ↔ problem ∈ problems) := by
  intro text
  have unquoted := fun problem isProblem => (quotable problem isProblem).unquoted
  obtain ⟨gaps, quotes, inner, last⟩ := listing_quotes unquoted
  have texts : quotedTexts text = Text.sortedDistinct problems := quotes.texts_eq
  have between : gapsOf text = gaps := quotes.gaps_eq
  rw [texts, between]
  refine ⟨Text.sortedDistinct_pairwise problems, fun problem => Text.mem_sortedDistinct, ?_, quotes.gaps_length, inner,
    last, ?_⟩
  · obtain ⟨lines, isLines, areRows⟩ := listing_lines quotable
    refine ⟨lines, isLines, by rw [areRows, rowsOf_flatten], ?_, ?_⟩
    · intro line isLine
      have isRow : quotedTexts line ∈ (lines.map quotedTexts).dropLast :=
        List.map_dropLast ▸ List.mem_map_of_mem isLine
      rw [areRows] at isRow
      exact length_of_mem_dropLast (by decide) isRow
    · intro line isLast
      have isRow : quotedTexts line ∈ lines.map quotedTexts := List.mem_map_of_mem (List.mem_of_getLast? isLast)
      rw [areRows] at isRow
      exact length_of_mem_rowsOf (by decide) isRow
  · intro others quotableOthers
    constructor
    · intro same problem
      obtain ⟨_, quotesOthers, _⟩ := listing_quotes fun other isOther => (quotableOthers other isOther).unquoted
      rw [← Text.mem_sortedDistinct, ← quotesOthers.texts_eq, same, quotes.texts_eq, Text.mem_sortedDistinct]
    · intro same
      rw [problemListing, problemListing, Text.sortedDistinct_congr same]

theorem listing_reads_back_of_repeated :
    let problems := ["1234", "0019", "1234"]
    let others := ["0019", "1234"]
    let text := (problemListing problems).toList
    (∀ problem ∈ problems, IsQuotable problem) ∧ (∀ other ∈ others, IsQuotable other) ∧
      (quotedTexts text).Pairwise (· < ·) ∧ (∀ problem, problem ∈ quotedTexts text ↔ problem ∈ problems) ∧
      (∀ gap ∈ (gapsOf text).tail.dropLast, gap.count ',' = 1) ∧ problemListing others = problemListing problems := by
  intro problems others text
  have quotable : ∀ problem ∈ problems, IsQuotable problem := by
    intro problem isProblem
    have lacks : ∀ problem ∈ problems, Lacks '"' problem ∧ Lacks '\n' problem := by decide
    exact ⟨(lacks problem isProblem).1, (lacks problem isProblem).2⟩
  have same : ∀ problem, problem ∈ others ↔ problem ∈ problems := by
    intro problem
    simp only [problems, others, List.mem_cons, List.not_mem_nil, or_false]
    tauto
  have quotableOthers := fun other isOther => quotable other ((same other).mp isOther)
  obtain ⟨sorted, members, _, _, single, _, equal⟩ := listing_reads_back problems quotable
  exact ⟨quotable, quotableOthers, sorted, members, single, (equal others quotableOthers).mpr same⟩

end TenPuzzle
