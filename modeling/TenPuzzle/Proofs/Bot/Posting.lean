import TenPuzzle.Proofs.Bot.Length
import TenPuzzle.Proofs.Bot.Reaction
import TenPuzzle.Proofs.Message.Fence

/-!
Posting a listing. Fenced posts of a listing hold whole lines of it, and put together they are the listing.
-/

namespace TenPuzzle

section

variable {row pool : List String}

theorem IsProblem.isQuotable {problem : String} (isProblem : IsProblem problem) : IsQuotable problem := by
  have lacks {character : Char} (noDigit : character.isDigit = false) : Lacks character problem :=
    ⟨lacks_of_digits noDigit isProblem.2⟩
  exact ⟨lacks (by decide), lacks (by decide)⟩

theorem rowText_length_le (areProblems : ∀ problem ∈ row, IsProblem problem) (short : row.length ≤ 10) :
    (rowText row).length ≤ 84 := by
  have constants : "    ".length = 4 ∧ ", ".length = 2 ∧ "\"".length = 1 := by decide
  have entries : ∀ text ∈ row.map entryText, text.length + ", ".length ≤ 8 := by
    intro text isText
    obtain ⟨problem, inRow, rfl⟩ := List.mem_map.mp isText
    have four : problem.length = 4 := (areProblems problem inRow).1
    rw [entryText, String.length_append, String.length_append, constants.2.1, constants.2.2, four]
  have joined := intercalate_length_le entries
  rw [List.length_map] at joined
  rw [rowText, String.length_append, constants.1]
  omega

/-- Every line of a listing has room in a fenced chunk. -/
theorem line_length_le (areProblems : ∀ problem ∈ pool, IsProblem problem) :
    ∀ line ∈ linesOf (problemListing pool).toList, line.length ≤ 85 := by
  have rows : ∀ row ∈ rowsOf 10 (Text.sortedDistinct pool), (rowText row).length ≤ 84 := by
    intro row isRow
    apply rowText_length_le _ (length_of_mem_rowsOf (by decide) isRow).2
    exact fun problem inRow => areProblems problem (mem_of_mem_listed isRow inRow)
  rw [linesOf_listing fun problem isProblem => (areProblems problem isProblem).isQuotable.unbroken]
  have ends : ∀ text ∈ ["const PROBLEMS = [", "];"], text.length ≤ 85 := by decide
  intro line isLine
  obtain ⟨text, isText, rfl⟩ := mem_listingLines isLine
  rw [String.length_toList]
  rcases mem_listed_texts isText with isEnd | ⟨row, isRow, rfl | rfl⟩
  · exact ends text isEnd
  · exact (rows row isRow).trans (Nat.le_succ 84)
  · rw [String.length_append]
    exact Nat.add_le_add_right (rows row isRow) 1

theorem Bot.process_problems [DepthLimit] {bot : Bot} {moment : Moment} {message : Message} {session : Session}
    {argument : Option (List Char)} (invokes : Invocation.ofText? message.content.toList = some ⟨.problems, argument⟩)
    (gives : (ensureProblems bot.rules moment session).1 = .ok pool) :
    (bot.process moment message session).1 =
      .say (Reply.problemCount pool.length) :: sayChunks (problemListing pool) (some "js") := by
  have ensures : ensureProblems bot.rules moment session = (.ok pool, (ensureProblems bot.rules moment session).2) :=
    Prod.ext gives rfl
  have performs : bot.perform message ⟨.problems, argument⟩ moment session = (.ok (.done
      (.say (Reply.problemCount pool.length) :: sayChunks (problemListing pool) (some "js"))),
      (ensureProblems bot.rules moment session).2) := bind_of_ok ensures
  rw [process, invokes]
  dsimp only
  rw [react_eq, performs, reactionOf, told_done]

end

/-- What is posted between fences is what was to be said. For every message and every language of at most 1991
characters, each post fits, begins with the opening fence and ends with a line break and the closing fence; only the
first one refers to another message; and without its fences each post is a chunk of the message. So the listing of a
pool is posted in groups of whole lines, which put together are the listing with one more line break, and this is what
the bot says when it is asked for the problems. -/
theorem listing_is_posted_whole [DepthLimit] :
    (∀ (message : String) (reference : Option String) (language : String), language.length ≤ 1991 →
      (∀ post ∈ posts message reference (some language), post.text.length ≤ 2000 ∧
        ∃ body, post.text = "```" ++ language ++ "\n" ++ body ++ "\n```") ∧
      (∃ (first : String) (rest : List String), posts message reference (some language) =
        ⟨first, reference⟩ :: rest.map fun text => ⟨text, none⟩) ∧
      (posts message reference (some language)).map (fun post => withoutFences language post.text) =
        chunkLines message.toList (fencedRoom language)) ∧
    ∀ pool : List String, (∀ problem ∈ pool, IsProblem problem) →
      let listed := posts (problemListing pool) none (some "js")
      let bodies := listed.map fun post => withoutFences "js" post.text
      bodies.flatten = (problemListing pool).toList ++ ['\n'] ∧
      (∃ groups : List (List (List Char)),
        groups.flatten = linesOf (problemListing pool).toList ∧ bodies = groups.map groupText) ∧
      ∀ (bot : Bot) (moment : Moment) (message : Message) (session : Session) (argument : Option (List Char)),
        Invocation.ofText? message.content.toList = some ⟨.problems, argument⟩ →
        (ensureProblems bot.rules moment session).1 = .ok pool →
        (bot.process moment message session).1 =
          .say (Reply.problemCount pool.length) :: listed.map fun post => .say post.text := by
  constructor
  · intro message reference language short
    refine ⟨fun post isPost => post_isFenced short isPost, posts_reference message reference language,
      posts_between message reference language⟩
  · intro pool areProblems listed bodies
    have room : fencedRoom "js" = 1991 := by
      rw [fencedRoom_eq]
      decide
    have between : bodies = chunkLines (problemListing pool).toList 1991 := room ▸ posts_between _ none "js"
    have short : ∀ line ∈ linesOf (problemListing pool).toList, line.length ≤ 1991 - 1 :=
      fun line isLine => le_trans (line_length_le areProblems line isLine) (by decide)
    refine ⟨?_, ?_, ?_⟩
    · rw [between]
      exact joinedChunks_short short
    · obtain ⟨groups, isGrouping, texts⟩ := chunkLines_isGrouping (by decide) short
      exact ⟨groups, isGrouping.joined, between.trans texts.symm⟩
    · intro bot moment message session argument invokes gives
      rw [Bot.process_problems invokes gives, sayChunks, ← posts_text (problemListing pool) none (some "js"),
        List.map_map]
      rfl

section

attribute [local instance] DepthLimit.standard

theorem listing_is_posted_whole_of_two_problems :
    let pool := ["1234", "0019"]
    let bot : Bot := ⟨9, 8, ⟨.standard, fun _ => false⟩⟩
    let moment : Moment := ⟨0.0, none, none⟩
    let message : Message := ⟨1, 7, some 5, 6, "!m10problems", false⟩
    let session : Session := ⟨.empty, pool, 0⟩
    let listed := posts (problemListing pool) none (some "js")
    "js".length ≤ 1991 ∧ (∀ problem ∈ pool, IsProblem problem) ∧
      Invocation.ofText? message.content.toList = some ⟨.problems, none⟩ ∧
      (ensureProblems bot.rules moment session).1 = .ok pool ∧
      (∀ post ∈ listed, post.text.length ≤ 2000 ∧ ∃ body, post.text = "```" ++ "js" ++ "\n" ++ body ++ "\n```") ∧
      (listed.map fun post => withoutFences "js" post.text).flatten = (problemListing pool).toList ++ ['\n'] ∧
      (bot.process moment message session).1 =
        .say (Reply.problemCount 2) :: listed.map fun post => .say post.text := by
  intro pool bot moment message session listed
  have short : "js".length ≤ 1991 := by decide
  have areProblems : ∀ problem ∈ pool, IsProblem problem := by decide
  have invokes : Invocation.ofText? message.content.toList = some ⟨.problems, none⟩ := by decide +kernel
  have gives : (ensureProblems bot.rules moment session).1 = .ok pool := rfl
  obtain ⟨fenced, whole⟩ := listing_is_posted_whole
  obtain ⟨joined, _, posted⟩ := whole pool areProblems
  exact ⟨short, areProblems, invokes, gives, (fenced _ none "js" short).1, joined,
    posted bot moment message session none invokes gives⟩

end

end TenPuzzle
