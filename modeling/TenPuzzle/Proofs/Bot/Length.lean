import TenPuzzle.Proofs.Answer.Exactness
import TenPuzzle.Proofs.Bot.Refusal
import TenPuzzle.Proofs.Expression.Location
import TenPuzzle.Proofs.Message.Limit
import TenPuzzle.Proofs.Number.Fixed

/-!
How long replies are. Texts that are cut into chunks fit in any case, and so do replies made of numbers and problems;
a reply that repeats what a player wrote is longer than that by a constant.
-/

namespace TenPuzzle

/-! Numbers. -/

section

variable {value : Int} {count : Nat}

theorem int_length_le (positive : 0 < count) (below : value.natAbs < 10 ^ count) :
    (toString value).length ≤ count + 1 := by
  have digits := (Number.decimalDigits_length_le positive).mpr below
  rw [← String.length_toList, Json.integer_toList]
  split
  · rw [List.length_cons]
    omega
  · omega

theorem natural_length_le (positive : 0 < count) (nonneg : 0 ≤ value) (below : value.natAbs < 10 ^ count) :
    (toString value).length ≤ count := by
  rw [← String.length_toList, Json.integer_toList, if_neg (by omega)]
  exact (Number.decimalDigits_length_le positive).mpr below

theorem nat_length_le {value : Nat} (positive : 0 < count) (below : value < 10 ^ count) :
    (toString value).length ≤ count := by
  change value.repr.length ≤ count
  rw [← String.length_toList, Nat.toList_repr]
  exact (Number.decimalDigits_length_le positive).mpr below

theorem intercalate_length_le {separator : String} {texts : List String} {most : Nat}
    (short : ∀ text ∈ texts, text.length + separator.length ≤ most) :
    (separator.intercalate texts).length ≤ texts.length * most := by
  induction texts with
  | nil => exact Nat.zero_le _
  | cons first texts ih =>
      have isFirst := short first List.mem_cons_self
      have later := ih fun text member => short text (.tail _ member)
      rw [List.length_cons, Nat.succ_mul]
      cases texts with
      | nil =>
          rw [String.intercalate_singleton]
          omega
      | cons second texts =>
          rw [String.intercalate_cons_cons, String.length_append, String.length_append]
          omega

end

/-! Replies. -/

section

variable {game : Game} {digits : String} {attempt : Attempt}

theorem spaced_length (isProblem : IsProblem digits) :
    ("  ".intercalate (digits.toList.map Char.toString)).length = 10 := by
  have whole : ("# " ++ "  ".intercalate (digits.toList.map Char.toString)).toList.length = 12 :=
    (digitsText_unbroken isProblem).2
  have opening : "# ".length = 2 := by decide
  rw [String.length_toList, String.length_append, opening] at whole
  omega

theorem problem_length_le (isProblem : IsProblem digits) (isNumber : 0 ≤ game.current + 1 ∧ game.current + 1 < 100)
    (isMode : 0 ≤ game.mode ∧ game.mode < 100) : (Reply.problem game digits).length ≤ 161 := by
  have number := @natural_length_le (game.current + 1) 2 (by decide) isNumber.1 (by omega)
  have mode := @natural_length_le game.mode 2 (by decide) isMode.1 (by omega)
  have spaced : (toString ("  ".intercalate (digits.toList.map Char.toString))).length = 10 := spaced_length isProblem
  have constants : (toString "**Problem ").length = 10 ∧ (toString " / ").length = 3 ∧
      (toString "**\n").length = 3 ∧ (toString "# ").length = 2 ∧ (toString "\n").length = 1 ∧
      "Reach **10** with `+ - × ÷` and parentheses. Keep the digits in order.\n".length = 71 ∧
      "Answer with `!m10 <expression>`, give up with `!m10pass`.".length = 57 := by decide
  delta Reply.problem
  simp only [String.length_append, constants, spaced]
  omega

theorem correct_length (attempt : Attempt) : (Reply.correct attempt).length = attempt.expression.length + 9 := by
  have constants : "✅ `".length = 3 ∧ "` = 10".length = 6 := by decide
  delta Reply.correct
  simp only [String.length_append, constants]
  omega

/-- The value of an answer over four digits has no more than four places in front of its point. -/
theorem value_length_le [DepthLimit] {expression : List Char} {value : Float} (isProblem : IsProblem digits)
    (accepts : (judge expression digits).verdict = .ok (some value)) : (Number.fixed 2 value).length ≤ 8 := by
  have result : (judge expression digits).result? = some value := by
    rw [Answer.result?, accepts]
    rfl
  obtain ⟨exact, rounded, tracks⟩ := result_tracks isProblem result
  have magnitude := tracks.ofDigits.magnitude
  have close : |rounded - exact| ≤ 1 / 10 ^ 5 := tracks.close
  have triangle := abs_add_le (rounded - exact) exact
  rw [sub_add_cancel] at triangle
  apply Number.fixed_length_le tracks.finite (by decide)
  norm_num at magnitude close ⊢
  linarith

theorem wrong_length_le [DepthLimit] {expression : List Char} {result : Option Float} (isProblem : IsProblem digits)
    (accepts : (judge expression digits).verdict = .ok result) :
    (Reply.wrong ((judge expression digits).attempt digits result)).length ≤ (normalize expression).length + 48 := by
  have constants : "❌ `".length = 3 ∧ "` is undefined (".length = 16 ∧ "). Try again!".length = 13 ∧
      "` = ".length = 4 ∧ ". Try again!".length = 12 := by decide
  have written : ((judge expression digits).attempt digits result).expression.length = (normalize expression).length :=
    String.length_ofList
  delta Reply.wrong
  cases result with
  | none =>
      have reason : (((judge expression digits).attempt digits none).error.getD "None").length = 16 := by
        change ((judge expression digits).error?.getD "None").length = 16
        rw [Answer.error?, accepts]
        decide
      change ("❌ `" ++ _ ++ "` is undefined (" ++ _ ++ "). Try again!").length ≤ _
      simp only [String.length_append, constants, written, reason]
      omega
  | some value =>
      have shown := value_length_le isProblem accepts
      change ("❌ `" ++ _ ++ "` = " ++ Number.fixed 2 value ++ ". Try again!").length ≤ _
      simp only [String.length_append, constants, written]
      omega

theorem solution_length_le [DepthLimit] {solution : Option String} (solves : solution? digits = .ok solution) :
    (solution.getD "").length ≤ 13 := by
  cases solution with
  | none => exact Nat.zero_le _
  | some text =>
      obtain ⟨characters, _, allDigits, isDigits⟩ := digitsOf_problem (isProblem_of_solution solves)
      rw [solution_of_digits isDigits, Except.ok.injEq] at solves
      obtain ⟨shape, isShape, operators, isText⟩ := exists_shape_of_mem allDigits (List.mem_of_find?_eq_some solves)
      have brackets : ∀ shape ∈ Shape.all,
          shape.first.opened + shape.first.closed + shape.second.opened + shape.second.closed +
            shape.third.opened + shape.third.closed + shape.fourth.opened + shape.fourth.closed ≤ 6 := by decide
      have few := brackets shape isShape
      rw [Option.getD_some, ← String.length_toList, isText]
      simp only [Shape.text, Slot.text, List.length_append, List.length_cons, List.length_replicate, List.length_nil]
      omega

theorem reveal_length_le [DepthLimit] {solution : Option String} (isProblem : IsProblem digits)
    (solves : solution? digits = .ok solution) : (Reply.reveal (.revealing digits solution)).length ≤ 42 := by
  have constants : "⏭ One answer for **".length = 19 ∧ "**: `".length = 5 ∧ "`".length = 1 := by decide
  have problem : (Attempt.revealing digits solution).problem.length = 4 := by
    rw [← String.length_toList]
    exact isProblem.1
  have written : (Attempt.revealing digits solution).expression.length ≤ 13 := solution_length_le solves
  delta Reply.reveal
  simp only [String.length_append, constants, problem]
  omega

end

/-! Rejections. -/

/-- A rejection that does not repeat what a player wrote. -/
def Rejection.IsBrief : Rejection → Prop
  | .joined _ => False
  | .outOfOrder problem | .wrongDigits problem => IsProblem problem
  | .malformed fault => fault.position ≤ messageLimit
  | .empty | .forbidden _ | .signed | .missingOperator => True

section

variable {rejection : Rejection} {text : List Char} {problem : String}

theorem Rejection.Arises.cases [DepthLimit] (arises : rejection.Arises text problem) (isProblem : IsProblem problem)
    (short : (Text.withoutBlanks text).length ≤ messageLimit) :
    rejection.IsBrief ∨ ∃ operand, rejection = .joined operand ∧ operand.toList <:+: text := by
  cases arises with
  | @joined run member =>
      refine .inr ⟨_, rfl, ?_⟩
      rw [String.toList_ofList]
      exact @runsFrom_inside [] text run member
  | outOfOrder | wrongDigits => exact .inl isProblem
  | malformed fails => exact .inl ((position_le fails).trans short)
  | empty | forbidden | signed | missingOperator => exact .inl trivial

theorem character_length (character : Char) : (toString character).length = 1 := by
  rw [← String.length_toList, character_toList]
  rfl

theorem malformed_length_le {fault : Expr.Fault} (early : fault.position ≤ messageLimit) :
    fault.message.length ≤ 50 := by
  have shown {position : Nat} (within : position ≤ messageLimit) : (toString position).length ≤ 4 :=
    nat_length_le (by decide) (lt_of_le_of_lt within (by decide))
  cases fault with
  | undefined | empty | tooDeep | unexpectedEnd => decide
  | notANumber found position =>
      have constants : (toString "Expected a number at position ").length = 30 ∧ (toString ", got '").length = 7 ∧
          (toString "'").length = 1 := by decide
      delta Expr.Fault.message
      have within := shown (show position ≤ messageLimit from early)
      simp only [String.length_append, constants, character_length]
      omega
  | unclosed position =>
      have constant : (toString "Expected ')' at position ").length = 25 := by decide
      delta Expr.Fault.message
      have within := shown (show position ≤ messageLimit from early)
      simp only [String.length_append, constant]
      omega
  | unexpected found position =>
      have constants : (toString "Unexpected '").length = 12 ∧ (toString "' at position ").length = 14 := by decide
      delta Expr.Fault.message
      have within := shown (show position ≤ messageLimit from early)
      simp only [String.length_append, constants, character_length]
      omega

theorem Rejection.IsBrief.message_length_le (brief : rejection.IsBrief) : rejection.message.length ≤ 66 := by
  have ofProblem {problem : String} (isProblem : IsProblem problem) : (toString problem).length = 4 := by
    rw [← isProblem.1, String.length_toList]
    rfl
  cases rejection with
  | joined operand => exact brief.elim
  | outOfOrder problem =>
      have constants : (toString "Digits must stay in order: **").length = 29 ∧ (toString "**").length = 2 := by decide
      delta Rejection.message
      simp only [String.length_append, constants, ofProblem brief]
      decide
  | wrongDigits problem =>
      have constants : (toString "Use exactly the digits **").length = 25 ∧ (toString "**").length = 2 := by decide
      delta Rejection.message
      simp only [String.length_append, constants, ofProblem brief]
      decide
  | malformed fault =>
      have constant : "Invalid syntax: ".length = 16 := by decide
      have short := malformed_length_le brief
      change ("Invalid syntax: " ++ fault.message).length ≤ _
      rw [String.length_append, constant]
      omega
  | forbidden character =>
      have constants : (toString "Character **").length = 12 ∧ (toString "** is not allowed").length = 17 := by decide
      delta Rejection.message
      simp only [String.length_append, constants, character_length]
      decide
  | empty | signed | missingOperator => decide

theorem joined_length (operand : String) : (Rejection.joined operand).message.length = operand.length + 43 := by
  have constants : (toString "Digits must be used one at a time, got **").length = 41 ∧ (toString "**").length = 2 := by
    decide
  have same : (toString operand).length = operand.length := rfl
  delta Rejection.message
  simp only [String.length_append, constants, same]
  omega

end

/-! Faults. -/

section

variable {rules : Rules} {pool : List String} {moment : Moment} {answer : Option (List Char)} {fault : GameFault}

theorem GameFault.Arises.length_le [DepthLimit] (arises : fault.Arises rules pool moment answer)
    (standard : rules.settings = .standard) (few : pool.length ≤ listLimit) (reachable : moment.outage = none)
    (short : ∀ expression ∈ answer, (normalize expression).length ≤ messageLimit) :
    (Reply.fault fault).length ≤ messageLimit ∨ ∃ expression operand, answer = some expression ∧
      operand.toList <:+: normalize expression ∧ Reply.fault fault = (Rejection.joined operand).message := by
  cases arises with
  | @rejected expression problem rejection isAnswer isProblem rejects =>
      have within := short expression isAnswer
      rw [← withoutBlanks_normalize] at within
      rcases (verdict_arises rejects).cases isProblem within with brief | ⟨operand, rfl, inside⟩
      · exact .inl (brief.message_length_le.trans (by decide))
      · exact .inr ⟨expression, operand, isAnswer, inside, rfl⟩
  | poolTooSmall =>
      have constants : (toString "Only ").length = 5 ∧ (toString " problems are available").length = 23 := by decide
      have limit : listLimit < 10 ^ 19 := by decide
      have available : (toString pool.length).length ≤ 19 := nat_length_le (by decide) (lt_of_le_of_lt few limit)
      left
      change (s!"Only {pool.length} problems are available").length ≤ messageLimit
      simp only [String.length_append, constants]
      exact (Nat.add_le_add_right (Nat.add_le_add_left available 5) 23).trans (by decide)
  | modeNotOffered =>
      rw [standard]
      exact .inl (by decide +kernel)
  | notWhole =>
      next fault => cases fault <;> exact .inl (by decide)
  | unreachable outage =>
      rw [reachable] at outage
      cases outage
  | tooLong => exact .inl (by decide +kernel)
  | alreadyPlaying | notPlaying | negativeDraw | outOfRange => exact .inl (by decide)

end

/-! The leaderboard. -/

section

variable {player : String} {score : Int} {leaders : List (String × Int)}

theorem rankLine_length_le {index : Nat} (isIndex : index < 10) (isPlayer : player.length ≤ 21) (nonneg : 0 ≤ score)
    (modest : score.natAbs < 10 ^ 34) : (Reply.rankLine index player score).length ≤ 69 := by
  have rank : (toString (index + 1)).length ≤ 2 := nat_length_le (by decide) (by omega)
  have shown : (toString score).length ≤ 34 := natural_length_le (by decide) nonneg modest
  have constants : (toString "").length = 0 ∧ (toString ". ").length = 2 ∧ (toString " - **").length = 5 ∧
      (toString "**").length = 2 ∧ (toString "<@").length = 2 ∧ (toString ">").length = 1 := by decide
  have mention : (toString (Reply.mention player)).length ≤ 24 := by
    change (s!"<@{player}>").length ≤ 24
    have same : (toString player).length = player.length := rfl
    simp only [String.length_append, constants, same]
    omega
  delta Reply.rankLine
  simp only [String.length_append, constants]
  omega

theorem leaderboard_length_le (few : leaders.length ≤ 10) (players : ∀ leader ∈ leaders, leader.1.length ≤ 21)
    (scores : ∀ leader ∈ leaders, 0 ≤ leader.2 ∧ leader.2.natAbs < 10 ^ 34) :
    (Reply.leaderboard leaders).length ≤ messageLimit := by
  have constants : "**Make 10 leaderboard**\n".length = 24 ∧ "\n".length = 1 := by decide
  have room : 24 + leaders.length * 70 ≤ messageLimit := by
    unfold messageLimit
    omega
  delta Reply.leaderboard
  dsimp only
  rw [String.length_append, constants.1]
  refine le_trans (Nat.add_le_add_left ?_ 24) room
  rw [← @List.length_zipIdx _ leaders 0, ← List.length_map]
  apply intercalate_length_le
  intro line member
  obtain ⟨⟨leader, index⟩, isLeader, rfl⟩ := List.mem_map.mp member
  have isLine := List.fst_mem_of_mem_zipIdx isLeader
  have isIndex : index < leaders.length := List.snd_lt_of_mem_zipIdx isLeader
  obtain ⟨nonneg, modest⟩ := scores leader isLine
  have isShort : (Reply.rankLine index leader.1 leader.2).length ≤ 69 :=
    rankLine_length_le (isIndex.trans_le few) (players leader isLine) nonneg modest
  rw [constants.2]
  exact Nat.add_le_add_right isShort 1

end

end TenPuzzle
