import TenPuzzle.Bot.Reply
import TenPuzzle.Proofs.Game.Bookkeeping
import TenPuzzle.Proofs.Message.Chunk
import TenPuzzle.Proofs.Solver.Playable
import TenPuzzle.Proofs.Sweep.Listing

/-!
What replies say of problems. A reply shows a problem by the line with its number and the line with its digits;
replies without a problem have nothing that could be taken for one.
-/

namespace TenPuzzle

/-! Problems in texts. -/

/-- What stands in front of the number of a problem. -/
def problemMark : List Char := "Problem ".toList

/-- The problem that a text shows: the line with its number, from the mark on, and the line below. -/
def shown? : List Char → Option (List (List Char))
  | [] => none
  | character :: rest =>
    if problemMark.isPrefixOf (character :: rest) then some ((linesOf (character :: rest)).take 2)
    else shown? rest

/-- The lines that tell of a problem: which of how many it is, and its digits, two blanks apart. -/
def problemLines (number mode : Int) (digits : String) : List (List Char) :=
  let spaced := "  ".intercalate (digits.toList.map Char.toString)
  [s!"Problem {number} / {mode}**".toList, s!"# {spaced}".toList]

def countText (number mode : Int) : List Char :=
  s!"{number} / {mode}**".toList

def digitsText (digits : String) : List Char :=
  let spaced := "  ".intercalate (digits.toList.map Char.toString)
  s!"# {spaced}".toList

-- The equations of definitions that begin with a literal are costly to derive, so these are opened by `delta`.
theorem problemLines_eq (number mode : Int) (digits : String) :
    problemLines number mode digits = [problemMark ++ countText number mode, digitsText digits] := by
  delta problemLines problemMark countText digitsText
  simp only [String.toList_append, List.append_assoc]
  rfl

section

variable {text rest left right : List Char} {character : Char}

theorem shown_cons (other : character ≠ 'P') : shown? (character :: rest) = shown? rest := by
  have unmarked : problemMark.isPrefixOf (character :: rest) = false := by
    change ('P' == character && _) = false
    simp [other.symm]
  rw [shown?, unmarked, if_neg Bool.false_ne_true]

theorem shown_cons_apart (apart : ∀ later, rest ≠ 'r' :: later) : shown? (character :: rest) = shown? rest := by
  have unmarked : problemMark.isPrefixOf (character :: rest) = false := by
    cases rest with
    | nil =>
        change ('P' == character && false) = false
        simp
    | cons next later =>
        have other : next ≠ 'r' := by
          rintro rfl
          exact apart later rfl
        change ('P' == character && ('r' == next && _)) = false
        simp [other.symm]
  rw [shown?, unmarked, if_neg Bool.false_ne_true]

/-- No problem begins in a text without the first letter of the mark. -/
theorem shown_append (calm : 'P' ∉ text) : shown? (text ++ rest) = shown? rest := by
  induction text with
  | nil => rfl
  | cons first text ih =>
      rw [List.mem_cons, not_or] at calm
      rw [List.cons_append, shown_cons (Ne.symm calm.1), ih calm.2]

theorem shown_of_calm (calm : 'P' ∉ text) : shown? text = none := by
  have skips := @shown_append text [] calm
  rwa [List.append_nil] at skips

/-- Neither is there one in a text that lacks another letter of the mark. -/
theorem shown_of_lacking (marks : character ∈ problemMark) (lacking : character ∉ text) : shown? text = none := by
  induction text with
  | nil => rfl
  | cons first text ih =>
      have unmarked : problemMark.isPrefixOf (first :: text) = false := by
        by_contra marked
        have starts := List.isPrefixOf_iff_prefix.mp (Bool.not_eq_false _ ▸ marked)
        exact lacking (starts.subset marks)
      rw [shown?, unmarked, if_neg Bool.false_ne_true, ih fun member => lacking (.tail _ member)]

theorem shown_lines (unbrokenLeft : '\n' ∉ left) (unbrokenRight : '\n' ∉ right) :
    shown? (problemMark ++ left ++ '\n' :: (right ++ '\n' :: rest)) = some [problemMark ++ left, right] := by
  have unbroken : '\n' ∉ problemMark ++ left := by
    rw [List.mem_append, not_or]
    exact ⟨by decide, unbrokenLeft⟩
  have marked : problemMark.isPrefixOf (problemMark ++ left ++ '\n' :: (right ++ '\n' :: rest)) = true := by
    rw [List.isPrefixOf_iff_prefix, List.append_assoc]
    exact List.prefix_append _ _
  have cons : ∃ first later, problemMark ++ left ++ '\n' :: (right ++ '\n' :: rest) = first :: later := ⟨_, _, rfl⟩
  obtain ⟨first, later, isCons⟩ := cons
  rw [isCons] at marked
  rw [isCons, shown?, if_pos marked, ← isCons, linesOf_append, linesOf_line unbroken, linesOf_append,
    linesOf_line unbrokenRight]
  rfl

end

/-! Calm texts. -/

/-- A text in which no problem can begin. -/
abbrev IsCalm (text : String) : Prop := Lacks 'P' text

/-! Numbers. -/

section

open Number

variable {digits : List Char} {character : Char}

theorem lacks_of_digits (noDigit : character.isDigit = false) (allDigits : ∀ digit ∈ digits, digit.isDigit = true) :
    character ∉ digits := by
  intro member
  rw [allDigits character member] at noDigit
  cases noDigit

theorem decimalDigits_lack (noDigit : character.isDigit = false) (value : Nat) : character ∉ decimalDigits value :=
  lacks_of_digits noDigit isDigit_of_mem_decimalDigits

theorem padLeft_lacks (width : Nat) (lacks : 'P' ∉ digits) : 'P' ∉ padLeft width digits := by
  rw [padLeft, List.mem_append, not_or]
  exact ⟨fun member => absurd (List.eq_of_mem_replicate member) (by decide), lacks⟩

theorem lacks_int (noDigit : character.isDigit = false) (noSign : character ≠ '-') (value : Int) :
    Lacks character (toString value) := by
  constructor
  rw [Json.integer_toList]
  split
  · rw [List.mem_cons, not_or]
    exact ⟨noSign, decimalDigits_lack noDigit _⟩
  · exact decimalDigits_lack noDigit _

@[simp] theorem calm_int (value : Int) : IsCalm (toString value) :=
  lacks_int (by decide) (by decide) value

@[simp] theorem calm_nat (value : Nat) : IsCalm (toString value) := by
  constructor
  change 'P' ∉ value.repr.toList
  rw [Nat.toList_repr]
  exact decimalDigits_lack (by decide) value

theorem calm_padded (width : Nat) (value : Int) : IsCalm (padded width value) := by
  constructor
  rw [padded, String.toList_ofList]
  split
  · rw [List.mem_cons, not_or]
    exact ⟨by decide, padLeft_lacks _ (decimalDigits_lack (by decide) _)⟩
  · exact padLeft_lacks _ (decimalDigits_lack (by decide) _)

theorem calm_fixed (places : Nat) (value : Float) : IsCalm (fixed places value) := by
  unfold fixed
  split
  · decide
  · split <;> decide
  · next negative mantissa exponent _ =>
      constructor
      rw [String.toList_ofList]
      have lacks := padLeft_lacks (places + 1)
        (decimalDigits_lack (by decide) ((ExactDecimal.ofBinary mantissa exponent).atPlaces places))
      simp only [List.mem_append, not_or]
      refine ⟨⟨?_, fun member => lacks (List.mem_of_mem_take member)⟩, ?_⟩
      · split <;> decide
      · split
        · decide
        · rw [List.mem_cons, not_or]
          exact ⟨by decide, fun member => lacks (List.mem_of_mem_drop member)⟩

theorem calm_clock {seconds : Float} {text : String} (tells : clockText seconds = .ok text) : IsCalm text := by
  unfold clockText at tells
  cases whole : wholePart seconds with
  | error fault =>
      rw [whole] at tells
      cases tells
  | ok value =>
      rw [whole] at tells
      cases tells
      exact lacks_append.mpr ⟨lacks_append.mpr ⟨calm_padded _ _, by decide⟩, calm_padded _ _⟩

theorem calm_problem {problem : String} (isProblem : IsProblem problem) : IsCalm problem :=
  ⟨lacks_of_digits (by decide) isProblem.2⟩

end

/-! Attempts. -/

theorem Admissible.calm {text : List Char} {problem : String} (admissible : Admissible text problem) :
    IsCalm (String.ofList (normalize text)) := by
  have plain := admissible.plain
  unfold plainFault? forbidden? at plain
  constructor
  rw [String.toList_ofList]
  intro member
  split at plain
  · cases plain
  · rw [Option.or_eq_none_iff, Option.map_eq_none_iff, List.find?_eq_none] at plain
    exact absurd (plain.1 'P' member) (by decide)

/-- An attempt that can be told of without any mention of another problem. -/
structure Attempt.IsCalm (attempt : Attempt) : Prop where
  problem : TenPuzzle.IsCalm attempt.problem
  expression : TenPuzzle.IsCalm attempt.expression
  error : ∀ reason ∈ attempt.error, TenPuzzle.IsCalm reason

theorem Attempt.Arises.calm [DepthLimit] {attempt : Attempt} (arises : attempt.Arises)
    (isProblem : IsProblem attempt.problem) : attempt.IsCalm := by
  cases arises with
  | @answer expression digits result accepts =>
      have valid : (judge expression digits).isValid = true := by
        rw [Answer.isValid, accepts]
        rfl
      refine ⟨calm_problem isProblem, (admissible_of_isValid valid).calm, ?_⟩
      intro reason isReason
      have isError : (judge expression digits).error? = some reason := isReason
      rw [Answer.error?, accepts] at isError
      cases result with
      | none =>
          cases isError
          decide
      | some value => cases isError
  | @reveal digits solution solves =>
      refine ⟨calm_problem isProblem, ?_, ?_⟩
      · cases solution with
        | none => exact show TenPuzzle.IsCalm "" by decide
        | some solution =>
            obtain ⟨unchanged, valid, _⟩ := judge_solution solves
            have calm := (admissible_of_isValid valid).calm
            have same : normalize solution.toList = solution.toList := unchanged
            rwa [same, String.ofList_toList] at calm
      · rintro reason ⟨⟩

theorem Attempt.IsCalm.line {attempt : Attempt} (isCalm : attempt.IsCalm) : TenPuzzle.IsCalm attempt.line := by
  have mark : TenPuzzle.IsCalm attempt.mark := by
    unfold Attempt.mark
    split
    · decide
    · split <;> decide
  have outcome : TenPuzzle.IsCalm attempt.outcome := by
    unfold Attempt.outcome
    split
    · exact calm_fixed _ _
    · next reason _ isReason =>
        split
        · decide
        · exact isCalm.error reason isReason
    · decide
  delta Attempt.line
  simp only [lacks_append, mark, outcome, isCalm.problem, isCalm.expression, true_and, and_true]
  decide

/-! Replies. -/

/-- What stands in front of the report of an error. -/
def reportMark : List Char := "Something went wrong: ".toList

/-- The problem that a reply shows; a report of an error shows none. -/
def replyShows? (reply : List Char) : Option (List (List Char)) :=
  if reportMark.isPrefixOf reply then none else shown? reply

def Effect.said : Effect → List Char
  | .say text => text.toList
  | .close | .play _ => []

/-- All that is said in reply to one event. -/
def replyText (effects : List Effect) : List Char :=
  effects.flatMap Effect.said

section

variable {reply text : List Char}

theorem replyShows_of_none (hidden : shown? reply = none) : replyShows? reply = none := by
  unfold replyShows?
  split
  · rfl
  · exact hidden

theorem replyShows_of_report : replyShows? (reportMark ++ text) = none := by
  rw [replyShows?, if_pos (List.isPrefixOf_iff_prefix.mpr (List.prefix_append _ _))]

theorem replyShows_cons {first : Char} (other : first ≠ 'S') :
    replyShows? (first :: text) = shown? (first :: text) := by
  have unreported : reportMark.isPrefixOf (first :: text) = false := by
    change ('S' == first && _) = false
    simp [other.symm]
  rw [replyShows?, unreported, if_neg Bool.false_ne_true]

theorem replyText_say (text : String) (effects : List Effect) :
    replyText (.say text :: effects) = text.toList ++ replyText effects :=
  List.flatMap_cons

theorem replyText_chunks (message : String) :
    replyText (sayChunks message none) = joinedChunks message.toList messageLimit := by
  simp only [replyText, sayChunks, chunks, joinedChunks, List.flatMap_map, Effect.said, String.toList_ofList,
    List.flatMap_id']

theorem chunks_lack {message : String} (calm : IsCalm message) : 'P' ∉ replyText (sayChunks message none) := by
  rw [replyText_chunks]
  intro member
  rcases mem_joinedChunks member with inText | isBreak
  · exact calm.absent inText
  · exact absurd isBreak (by decide)

end

/-! Replies that show a problem. -/

section

variable {digits : String} {game : Game} {before after : List Char} {number mode : Int}

theorem problem_toList (game : Game) (digits : String) :
    ∃ rest, (Reply.problem game digits).toList =
      '*' :: '*' :: (problemMark ++ countText (game.current + 1) game.mode ++
        '\n' :: (digitsText digits ++ '\n' :: rest)) := by
  refine ⟨("Reach **10** with `+ - × ÷` and parentheses. Keep the digits in order.\n" ++
    "Answer with `!m10 <expression>`, give up with `!m10pass`.").toList, ?_⟩
  delta Reply.problem problemMark countText digitsText
  simp only [String.toList_append, List.append_assoc]
  rfl

theorem countText_eq (number mode : Int) :
    countText number mode = (toString number).toList ++ [' ', '/', ' '] ++ (toString mode).toList ++ ['*', '*'] := by
  delta countText
  simp only [String.toList_append]
  rfl

theorem countText_unbroken (number mode : Int) : '\n' ∉ countText number mode := by
  rw [countText_eq]
  simp only [List.mem_append, not_or]
  have unbroken (value : Int) := (lacks_int (by decide : '\n'.isDigit = false) (by decide) value).absent
  exact ⟨⟨⟨unbroken number, by decide⟩, unbroken mode⟩, by decide⟩

theorem digitsText_eq {first second third fourth : Char} (isList : digits.toList = [first, second, third, fourth]) :
    digitsText digits = ['#', ' ', first, ' ', ' ', second, ' ', ' ', third, ' ', ' ', fourth] := by
  have spaced : ("  ".intercalate (digits.toList.map Char.toString)).toList =
      [first, ' ', ' ', second, ' ', ' ', third, ' ', ' ', fourth] := by
    rw [isList, String.toList_intercalate]
    simp [List.intercalate_cons_cons, Char.toString]
  delta digitsText
  rw [String.toList_append]
  exact congrArg (['#', ' '] ++ ·) spaced

theorem digitsText_unbroken (isProblem : IsProblem digits) :
    '\n' ∉ digitsText digits ∧ (digitsText digits).length = 12 := by
  obtain ⟨⟨first, second, third, fourth⟩, isList, allDigits, _⟩ := digitsOf_problem isProblem
  have areDigits : ∀ digit ∈ [first, second, third, fourth], digit ≠ '\n' := by
    rintro digit member rfl
    exact absurd (allDigits '\n' member) (by decide)
  simp only [List.mem_cons, List.not_mem_nil, or_false, forall_eq_or_imp, forall_eq] at areDigits
  obtain ⟨isFirst, isSecond, isThird, isFourth⟩ := areDigits
  rw [digitsText_eq isList]
  refine ⟨?_, rfl⟩
  simp [isFirst.symm, isSecond.symm, isThird.symm, isFourth.symm]

theorem shown_problem (calm : 'P' ∉ before) (isProblem : IsProblem digits) :
    shown? (before ++ ((Reply.problem game digits).toList ++ after)) =
      some (problemLines (game.current + 1) game.mode digits) := by
  obtain ⟨rest, isText⟩ := problem_toList game digits
  have split : (Reply.problem game digits).toList ++ after =
      '*' :: '*' :: (problemMark ++ countText (game.current + 1) game.mode ++
        '\n' :: (digitsText digits ++ '\n' :: (rest ++ after))) := by
    rw [isText]
    simp
  rw [shown_append calm, split, shown_cons (by decide), shown_cons (by decide), problemLines_eq]
  exact shown_lines (countText_unbroken _ _) (digitsText_unbroken isProblem).1

theorem countText_length (number mode : Int) (isNumber : 0 ≤ number ∧ number ≤ listLimit)
    (isMode : 0 ≤ mode ∧ mode ≤ listLimit) : (countText number mode).length ≤ 43 := by
  have short (value : Int) (bounds : 0 ≤ value ∧ value ≤ listLimit) : (toString value).toList.length ≤ 19 := by
    have limit : listLimit < 10 ^ 19 := by decide
    rw [Json.integer_toList, if_neg (by omega)]
    exact (Number.decimalDigits_length_le (by decide)).mpr (by omega)
  have first := short number isNumber
  have second := short mode isMode
  rw [countText_eq]
  simp only [List.length_append, List.length_cons, List.length_nil]
  omega

/-- A problem is shown also by a message that has to be cut. -/
theorem shown_chunked (calm : 'P' ∉ before) (isProblem : IsProblem digits)
    (isNumber : 0 ≤ game.current + 1 ∧ game.current + 1 ≤ listLimit) (isMode : 0 ≤ game.mode ∧ game.mode ≤ listLimit) :
    shown? (joinedChunks (before ++ '\n' :: ((Reply.problem game digits).toList ++ after)) messageLimit) =
      some (problemLines (game.current + 1) game.mode digits) := by
  obtain ⟨rest, isText⟩ := problem_toList game digits
  obtain ⟨unbroken, length⟩ := digitsText_unbroken isProblem
  have calmChunks : 'P' ∉ joinedChunks before messageLimit := by
    intro member
    rcases mem_joinedChunks member with inText | isBreak
    · exact calm inText
    · exact absurd isBreak (by decide)
  have heading : joinedChunks ('*' :: '*' :: (problemMark ++ countText (game.current + 1) game.mode)) messageLimit =
      '*' :: '*' :: (problemMark ++ countText (game.current + 1) game.mode) ++ ['\n'] := by
    have few := countText_length _ _ isNumber isMode
    have mark : problemMark.length = 8 := by decide
    have noBreak : '\n' ∉ problemMark := by decide
    apply joinedChunks_line
    · simp [noBreak, countText_unbroken]
    · simp only [List.length_cons, List.length_append, messageLimit]
      omega
  have below : joinedChunks (digitsText digits) messageLimit = digitsText digits ++ ['\n'] :=
    joinedChunks_line unbroken (by rw [length]; decide)
  have cut : joinedChunks ((Reply.problem game digits).toList ++ after) messageLimit =
      '*' :: '*' :: (problemMark ++ countText (game.current + 1) game.mode ++
        '\n' :: (digitsText digits ++ '\n' :: joinedChunks (rest ++ after) messageLimit)) := by
    have split : (Reply.problem game digits).toList ++ after =
        ('*' :: '*' :: (problemMark ++ countText (game.current + 1) game.mode)) ++
          '\n' :: (digitsText digits ++ '\n' :: (rest ++ after)) := by
      rw [isText]
      simp
    rw [split, joinedChunks_append, joinedChunks_append, heading, below]
    simp
  rw [joinedChunks_append, shown_append calmChunks, cut, shown_cons (by decide), shown_cons (by decide),
    problemLines_eq]
  exact shown_lines (countText_unbroken _ _) unbroken

end

/-! Replies without a problem. -/

section

variable {attempt : Attempt} {game : Game} {player : String} {now : Float}

theorem calm_correct (isCalm : attempt.IsCalm) : IsCalm (Reply.correct attempt) := by
  have constants : IsCalm "✅ `" ∧ IsCalm "` = 10" := by decide
  delta Reply.correct
  exact lacks_append.mpr ⟨lacks_append.mpr ⟨constants.1, isCalm.expression⟩, constants.2⟩

theorem calm_reveal (isCalm : attempt.IsCalm) : IsCalm (Reply.reveal attempt) := by
  have constants : IsCalm "⏭ One answer for **" ∧ IsCalm "**: `" ∧ IsCalm "`" := by decide
  delta Reply.reveal
  simp only [lacks_append, isCalm.problem, isCalm.expression, constants, and_self]

theorem calm_wrong (isCalm : attempt.IsCalm) : IsCalm (Reply.wrong attempt) := by
  have constants : IsCalm "❌ `" ∧ IsCalm "` is undefined (" ∧ IsCalm "). Try again!" ∧ IsCalm "` = " ∧
      IsCalm ". Try again!" := by decide
  have reason : IsCalm (attempt.error.getD "None") := by
    cases error : attempt.error with
    | none => exact show IsCalm "None" by decide
    | some reason => exact isCalm.error reason error
  delta Reply.wrong
  split
  · simp only [lacks_append, isCalm.expression, reason, constants, and_self]
  · simp only [lacks_append, isCalm.expression, calm_fixed, constants, and_self]

theorem calm_history (areCalm : ∀ attempt ∈ game.history, attempt.IsCalm) (count : Int) :
    ∀ line ∈ game.historyLines count, IsCalm line := by
  intro line member
  obtain ⟨attempt, isRecent, rfl⟩ := List.mem_map.mp member
  apply Attempt.IsCalm.line
  apply areCalm
  unfold recent at isRecent
  split at isRecent <;> exact List.mem_of_mem_drop isRecent

theorem calm_headed {heading : String} {lines : List String} (isCalm : IsCalm heading)
    (areCalm : ∀ line ∈ lines, IsCalm line) : IsCalm (Reply.headed heading lines) := by
  unfold Reply.headed
  split
  · decide
  · exact lacks_append.mpr ⟨isCalm, lacks_intercalate (by decide) areCalm⟩

theorem calm_mention (isCalm : IsCalm player) : IsCalm (Reply.mention player) := by
  have constants : IsCalm (toString "<@") ∧ IsCalm (toString ">") := by decide
  delta Reply.mention
  exact lacks_append.mpr ⟨lacks_append.mpr ⟨constants.1, isCalm⟩, constants.2⟩

theorem calm_summary {text : String} (tells : game.summary now = .ok text) : IsCalm text := by
  unfold Game.summary at tells
  cases whole : Number.wholePart (game.elapsed now) with
  | error fault =>
      rw [whole] at tells
      cases tells
  | ok seconds =>
      have constants : IsCalm (toString "Make 10\n\nTime: ") ∧ IsCalm (toString "m ") ∧
          IsCalm (toString "s\nCorrect: ") ∧ IsCalm (toString " / ") := by decide
      rw [whole] at tells
      cases tells
      simp only [lacks_append, calm_int, constants, and_self]

theorem calm_finished {text : String} (isCalm : IsCalm player) (areCalm : ∀ attempt ∈ game.history, attempt.IsCalm)
    (tells : Reply.finished player game now = .ok text) : IsCalm text := by
  unfold Reply.finished at tells
  cases summary : game.summary now with
  | error fault =>
      rw [summary] at tells
      cases tells
  | ok lines =>
      have constants : IsCalm (toString "🏁 ") ∧ IsCalm (toString " finished!\n") ∧ IsCalm "```\n" ∧
          IsCalm "\n```" := by decide
      have history := calm_headed (show IsCalm "\n**History**\n" by decide)
        (calm_history areCalm game.history.length)
      have mention : IsCalm (toString (Reply.mention player)) := calm_mention isCalm
      rw [summary] at tells
      cases tells
      simp only [lacks_append, mention, calm_summary summary, history, constants, and_self]

theorem calm_leaderboard {leaders : List (String × Int)} (areCalm : ∀ leader ∈ leaders, IsCalm leader.1) :
    IsCalm (Reply.leaderboard leaders) := by
  delta Reply.leaderboard
  refine lacks_append.mpr ⟨by decide, lacks_intercalate (by decide) ?_⟩
  intro line member
  obtain ⟨⟨leader, index⟩, isLeader, rfl⟩ := List.mem_map.mp member
  have constants : IsCalm (toString ". ") ∧ IsCalm (toString " - **") ∧ IsCalm (toString "**") := by decide
  have mention := calm_mention (areCalm leader (List.fst_mem_of_mem_zipIdx isLeader))
  delta Reply.rankLine
  simp only [lacks_append, calm_nat, calm_int, constants, and_self, and_true, true_and]
  exact mention

end

/-! The status and the listing. -/

section

variable {game : Game} {digits clock : String}

theorem status_toList (game : Game) (calm : IsCalm clock) (text : String) :
    ∃ before after, 'P' ∉ '*' :: before ∧
      (Reply.status game clock text).toList = '*' :: before ++ '\n' :: (text.toList ++ after) := by
  have calmFirst : IsCalm (toString "**Time:** " ++ toString clock ++ toString "\n") := by
    have isCalm : IsCalm (toString clock) := calm
    have constants : IsCalm (toString "**Time:** ") ∧ IsCalm (toString "\n") := by decide
    simp only [lacks_append, isCalm, constants, and_self]
  have calmSecond : IsCalm (s!"**Correct:** {game.counts.correct} / {game.mode} " ++
      s!"(answers: {game.counts.answered}, passed: {game.counts.passed})" ++ "\n") := by
    have constants : IsCalm (toString "**Correct:** ") ∧ IsCalm (toString " / ") ∧ IsCalm (toString " ") ∧
        IsCalm (toString "(answers: ") ∧ IsCalm (toString ", passed: ") ∧ IsCalm (toString ")") ∧ IsCalm "\n" := by
      decide
    simp only [lacks_append, calm_int, calm_nat, constants, and_self]
  refine ⟨("*Time:** " ++ clock ++ "\n").toList ++ (s!"**Correct:** {game.counts.correct} / {game.mode} " ++
      s!"(answers: {game.counts.answered}, passed: {game.counts.passed})" ++ "\n").toList,
    (Reply.headed "\n\n**Recent answers**\n" (game.historyLines 10)).toList, ?_, ?_⟩
  · have whole := lacks_append.mpr ⟨calmFirst, calmSecond⟩
    have lacks := whole.absent
    simp only [String.toList_append] at lacks ⊢
    exact lacks
  · delta Reply.status
    simp only [String.toList_append, List.append_assoc, List.cons_append]
    rfl

/-- A status shows the problem in play, however it is cut. -/
theorem status_shows (calm : IsCalm clock) (isProblem : IsProblem digits)
    (isNumber : 0 ≤ game.current + 1 ∧ game.current + 1 ≤ listLimit) (isMode : 0 ≤ game.mode ∧ game.mode ≤ listLimit) :
    replyShows? (replyText (sayChunks (Reply.status game clock (Reply.problem game digits)) none)) =
      some (problemLines (game.current + 1) game.mode digits) := by
  obtain ⟨before, after, lacks, isText⟩ := status_toList game calm (Reply.problem game digits)
  have shows := @shown_chunked digits game ('*' :: before) after lacks isProblem isNumber isMode
  obtain ⟨later, begins⟩ := @joinedChunks_cons messageLimit
    (before ++ '\n' :: ((Reply.problem game digits).toList ++ after)) '*' (by decide)
  rw [List.cons_append, begins] at shows
  rw [replyText_chunks, isText, List.cons_append, begins, replyShows_cons (by decide), shows]

end

/-! The listing of the pool. -/

theorem listing_lacks {problems : List String} (areProblems : ∀ problem ∈ problems, IsProblem problem) :
    Lacks 'r' (problemListing problems) := by
  have rows : ∀ row ∈ rowsOf 10 (Text.sortedDistinct problems), Lacks 'r' (rowText row) := by
    intro row isRow
    apply rowText_lacks (by decide)
    intro problem inRow
    have isProblem := areProblems problem (mem_of_mem_listed isRow inRow)
    exact ⟨fun isDigit => absurd (isProblem.2 'r' isDigit) (by decide)⟩
  have ends : ∀ text ∈ ["const PROBLEMS = [", "];"], Lacks 'r' text := by decide
  delta problemListing
  apply lacks_intercalate (by decide)
  intro text member
  rcases mem_listed_texts member with isEnd | ⟨row, isRow, rfl | rfl⟩
  · exact ends text isEnd
  · exact rows row isRow
  · exact lacks_append.mpr ⟨rows row isRow, by decide⟩

theorem fenced_lacks {message language : String} {character : Char} (inMessage : Lacks character message)
    (inLanguage : Lacks character language) (noBreak : character ≠ '\n') (noFence : character ≠ '\x60') :
    character ∉ replyText (sayChunks message (some language)) := by
  intro member
  obtain ⟨effect, isEffect, isSaid⟩ := List.mem_flatMap.mp member
  simp only [sayChunks, chunks, fencedChunks, List.map_map, List.mem_map, Function.comp_apply] at isEffect
  obtain ⟨chunk, isChunk, rfl⟩ := isEffect
  rw [Effect.said, String.toList_ofList, List.mem_append, List.mem_append] at isSaid
  rcases isSaid with (inOpening | inChunk) | inClosing
  · simp only [fenceOpening, List.mem_append, List.mem_cons, List.not_mem_nil, or_false, noFence, noBreak, or_self,
      false_or] at inOpening
    exact inLanguage.absent inOpening
  · rcases mem_joinedChunks (List.mem_flatten_of_mem isChunk inChunk) with inText | isBreak
    · exact inMessage.absent inText
    · exact noBreak isBreak
  · simp [fenceClosing, noFence] at inClosing

end TenPuzzle
