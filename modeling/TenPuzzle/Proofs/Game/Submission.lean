import TenPuzzle.Proofs.Answer.Judgement
import TenPuzzle.Proofs.Expression.Evaluation
import TenPuzzle.Proofs.Game.Effect

/-!
Submitted answers: which ones a game records, and that the others leave nothing behind.
-/

namespace TenPuzzle

theorem reachable_of_activeGame {seat : Seat} {moment : Moment} {session later : Session}
    {found : Option Game} (finds : activeGame seat moment session = (.ok found, later)) :
    moment.outage = none := by
  cases outage : moment.outage with
  | none => rfl
  | some reason =>
      unfold activeGame at finds
      rw [bind_of_error (query_unreachable _ session outage)] at finds
      simp at finds

theorem gameAt_of_activeGame {seat : Seat} {moment : Moment} {session later : Session} {found : Option Game}
    (finds : activeGame seat moment session = (.ok found, later)) :
    (session.store.live moment.now).gameAt seat.key = .ok found := by
  have looks := activeGame_eq (reachable_of_activeGame finds) session seat
  rw [finds] at looks
  cases isGame : (session.store.live moment.now).gameAt seat.key with
  | error fault =>
      rw [isGame] at looks
      cases looks
  | ok game =>
      rw [isGame] at looks
      cases looks
      rfl

theorem activeGame_of_requireGame {seat : Seat} {moment : Moment} {session later : Session} {game : Game}
    (finds : requireGame seat moment session = (.ok game, later)) :
    activeGame seat moment session = (.ok (some game), later) := by
  unfold requireGame at finds
  cases active : activeGame seat moment session with
  | mk result between =>
      cases result with
      | error fault =>
          rw [bind_of_error active] at finds
          cases finds
      | ok found =>
          rw [bind_of_ok active] at finds
          cases found with
          | none => cases finds
          | some other =>
              cases finds
              rfl

theorem reachable_of_requireGame {seat : Seat} {moment : Moment} {session later : Session}
    {game : Game} (finds : requireGame seat moment session = (.ok game, later)) :
    moment.outage = none :=
  reachable_of_activeGame (activeGame_of_requireGame finds)

theorem gameAt_of_requireGame {seat : Seat} {moment : Moment} {session later : Session} {game : Game}
    (finds : requireGame seat moment session = (.ok game, later)) :
    (session.store.live moment.now).gameAt seat.key = .ok (some game) :=
  gameAt_of_activeGame (activeGame_of_requireGame finds)

theorem judgeFor_problem [DepthLimit] {game : Game} {digits : String} (expression : List Char) (moment : Moment)
    (session : Session) (plays : game.spot = .problem digits) :
    judgeFor game expression moment session = (.ok (digits, judge expression digits), session) := by
  simp only [judgeFor, plays]
  rfl

theorem judgeFor_without_problem [DepthLimit] (game : Game) (expression : List Char) (moment : Moment)
    (session : Session) (noProblem : ∀ digits, game.spot ≠ .problem digits) :
    ∃ fault, judgeFor game expression moment session = (.error fault, session) := by
  unfold judgeFor
  cases plays : game.spot with
  | problem digits => exact (noProblem digits plays).elim
  | outOfRange => exact ⟨_, rfl⟩
  | finished => cases plainFault? (normalize expression) <;> exact ⟨_, rfl⟩

theorem judgeFor_cases [DepthLimit] (game : Game) (expression : List Char) (moment : Moment) (session : Session) :
    (∃ fault, judgeFor game expression moment session = (.error fault, session)) ∨
      ∃ digits, judgeFor game expression moment session = (.ok (digits, judge expression digits), session) ∧
        game.spot = .problem digits := by
  by_cases inPlay : ∃ digits, game.spot = .problem digits
  · obtain ⟨digits, plays⟩ := inPlay
    exact .inr ⟨digits, judgeFor_problem expression moment session plays, plays⟩
  · exact .inl (judgeFor_without_problem game expression moment session (not_exists.mp inPlay))

section

variable [DepthLimit] {rules : Rules} {seat : Seat} {expression : List Char} {moment : Moment}
  {session later : Session} {game : Game} {digits : String}

theorem submitAnswer_rejected {rejection : Rejection}
    (finds : requireGame seat moment session = (.ok game, later)) (plays : game.spot = .problem digits)
    (rejects : (judge expression digits).verdict = .error rejection) :
    submitAnswer rules seat expression moment session = (.error (.rejected rejection), later) := by
  apply (bind_of_ok finds).trans
  apply (bind_of_ok (judgeFor_problem expression moment later plays)).trans
  apply bind_of_error
  simp only [rejects]
  rfl

/-- The attempt that an answer makes when it is accepted. -/
def Answer.attempt (digits : String) (result : Option Float) (answer : Answer) : Attempt :=
  ⟨digits, String.ofList answer.expression, result.map .real, answer.isCorrect, answer.error?, false⟩

theorem submitAnswer_settles {result : Option Float}
    (finds : requireGame seat moment session = (.ok game, session.purged moment))
    (plays : game.spot = .problem digits) (accepts : (judge expression digits).verdict = .ok result) :
    let attempt := (judge expression digits).attempt digits result
    submitAnswer rules seat expression moment session =
      (do return (attempt, ← storeOrFinish rules (game.record attempt))) moment (session.purged moment) := by
  intro attempt
  have unwraps : Action.ofExcept .rejected (judge expression digits).verdict moment (session.purged moment) =
      (.ok result, session.purged moment) := by
    rw [accepts]
    rfl
  apply (bind_of_ok finds).trans
  apply (bind_of_ok (judgeFor_problem expression moment _ plays)).trans
  exact (bind_of_ok unwraps).trans rfl

theorem submitAnswer_recorded {result : Option Float}
    (finds : requireGame seat moment session = (.ok game, session.purged moment))
    (plays : game.spot = .problem digits) (accepts : (judge expression digits).verdict = .ok result)
    (settles : (game.record ((judge expression digits).attempt digits result)).CanSettle) :
    let attempt := (judge expression digits).attempt digits result
    submitAnswer rules seat expression moment session =
      (.ok (attempt, (game.record attempt).settled moment.now),
        (session.purged moment).change (Store.settled rules moment.now (game.record attempt))) := by
  intro attempt
  apply (submitAnswer_settles finds plays accepts).trans
  exact bind_of_ok (storeOrFinish_purged (reachable_of_requireGame finds) session rules settles)

theorem submitAnswer_unsettled {result : Option Float}
    (finds : requireGame seat moment session = (.ok game, session.purged moment))
    (plays : game.spot = .problem digits) (accepts : (judge expression digits).verdict = .ok result)
    (unsettled : ¬(game.record ((judge expression digits).attempt digits result)).CanSettle) :
    submitAnswer rules seat expression moment session = (.error (.stored .tooLong), session.purged moment) := by
  apply (submitAnswer_settles finds plays accepts).trans
  exact bind_of_error (storeOrFinish_unsettled rules moment _ unsettled)

end

/-- A submission either records an attempt or leaves the game as it was. -/
theorem submitAnswer_cases [DepthLimit] (rules : Rules) (seat : Seat) (expression : List Char) (moment : Moment)
    (session : Session) :
    (∃ fault, submitAnswer rules seat expression moment session = (.error fault, session.purged moment)) ∨
      ∃ game digits result, requireGame seat moment session = (.ok game, session.purged moment) ∧
        game.spot = .problem digits ∧ (judge expression digits).verdict = .ok result ∧
        (game.record ((judge expression digits).attempt digits result)).CanSettle := by
  have leaves := requireGame_session seat moment session
  cases finds : requireGame seat moment session with
  | mk found later =>
      rw [finds] at leaves
      simp only at leaves
      subst leaves
      cases found with
      | error fault =>
          unfold submitAnswer
          exact .inl ⟨fault, bind_of_error finds⟩
      | ok game =>
          rcases judgeFor_cases game expression moment (session.purged moment) with
            ⟨fault, fails⟩ | ⟨digits, _, plays⟩
          · unfold submitAnswer
            rw [bind_of_ok finds, bind_of_error fails]
            exact .inl ⟨fault, rfl⟩
          · cases verdict : (judge expression digits).verdict with
            | error rejection => exact .inl ⟨_, submitAnswer_rejected finds plays verdict⟩
            | ok result =>
                by_cases settles : (game.record ((judge expression digits).attempt digits result)).CanSettle
                · exact .inr ⟨game, digits, result, rfl, plays, verdict, settles⟩
                · exact .inl ⟨_, submitAnswer_unsettled finds plays verdict settles⟩

section

variable {rules : Rules} {seat : Seat} {expression : List Char} {moment : Moment} {session later : Session}

theorem submitAnswer_error [DepthLimit] {fault : GameFault}
    (fails : submitAnswer rules seat expression moment session = (.error fault, later)) :
    later = session.purged moment := by
  rcases submitAnswer_cases rules seat expression moment session with
    ⟨_, leaves⟩ | ⟨game, digits, result, finds, plays, accepts, settles⟩
  · rw [fails] at leaves
    exact (Prod.mk.inj leaves).2
  · rw [submitAnswer_recorded finds plays accepts settles] at fails
    cases fails

theorem submitAnswer_ok [DepthLimit] {attempt : Attempt} {ended : Game}
    (records : submitAnswer rules seat expression moment session = (.ok (attempt, ended), later)) :
    ∃ game digits result, requireGame seat moment session = (.ok game, session.purged moment) ∧
      game.spot = .problem digits ∧ (judge expression digits).verdict = .ok result ∧
      attempt.result = result.map .real ∧ ended.history = game.history ++ [attempt] := by
  rcases submitAnswer_cases rules seat expression moment session with
    ⟨fault, fails⟩ | ⟨game, digits, result, finds, plays, accepts, settles⟩
  · rw [fails] at records
    cases records
  · rw [submitAnswer_recorded finds plays accepts settles] at records
    cases records
    exact ⟨game, digits, result, finds, plays, accepts, rfl, Game.history_settled _ _⟩

theorem real_isStorable {α : Type} (measure : α → Float) (result : Option α) :
    ∀ quantity ∈ result.map fun value => Number.Quantity.real (measure value), quantity.IsStorable := by
  intro quantity member
  obtain ⟨value, _, rfl⟩ := Option.mem_map.mp member
  trivial

/-- A wrong attempt leaves the counters of a game alone, so that the game can be stored as before. -/
theorem Game.IsStorable.record {game : Game} {attempt : Attempt} (storable : game.IsStorable)
    (isStorable : attempt.IsStorable) (wrong : attempt.correct = false) (played : attempt.passed = false) :
    (game.record attempt).IsStorable where
  mode := storable.mode
  current := by simpa [Game.record, wrong, played] using storable.current
  correctCount := by simpa [Game.record, wrong] using storable.correctCount
  startTime := storable.startTime
  endTime := storable.endTime
  history := by
    intro other member
    rcases List.mem_append.mp member with before | isLast
    · exact storable.history other before
    · rw [List.mem_singleton.mp isLast]
      exact isStorable

/-- A game records a wrong answer exactly if the answer is valid for the problem in play. -/
theorem submitAnswer_ok_iff [DepthLimit] (wrong : ∀ digits, (judge expression digits).isCorrect = false) :
    (∃ recorded later, submitAnswer rules seat expression moment session = (.ok recorded, later)) ↔
      ∃ game digits, requireGame seat moment session = (.ok game, session.purged moment) ∧
        game.spot = .problem digits ∧ (judge expression digits).isValid = true := by
  constructor
  · rintro ⟨⟨attempt, ended⟩, later, records⟩
    obtain ⟨game, digits, result, finds, plays, accepts, _, _⟩ := submitAnswer_ok records
    refine ⟨game, digits, finds, plays, ?_⟩
    rw [Answer.isValid, accepts]
    rfl
  · rintro ⟨game, digits, finds, plays, valid⟩
    cases verdict : (judge expression digits).verdict with
    | error _ => simp [Answer.isValid, verdict, Except.isOk, Except.toBool] at valid
    | ok result =>
        have storable := gameAt_isStorable (gameAt_of_requireGame finds)
        have attempted : ((judge expression digits).attempt digits result).IsStorable := real_isStorable id result
        have settles := storable.record attempted (wrong digits) rfl
        exact ⟨_, _, submitAnswer_recorded finds plays verdict fun _ => settles⟩

end

theorem evaluate_underivable [DepthLimit] {text : List Char} (underivable : ¬Derivable (Text.withoutBlanks text)) :
    ∃ fault, evaluate text = .error fault := by
  cases evaluates : evaluate text with
  | error fault => exact ⟨fault, rfl⟩
  | ok value =>
      obtain ⟨tree, derives, _⟩ := computeIn_sound evaluates
      exact (underivable ⟨tree, derives⟩).elim

theorem parseFault_iff [DepthLimit] {text : List Char} (underivable : ¬Derivable (Text.withoutBlanks text)) :
    (∃ fault, fault ≠ .undefined ∧ evaluate text = .error fault) ↔
      ¬DividesEarly .floats (Text.withoutBlanks text) := by
  rw [← computeIn_undefined_iff floats_addsAlways]
  obtain ⟨fault, fails⟩ := evaluate_underivable underivable
  change _ ↔ ¬evaluate text = .error .undefined
  rw [fails]
  simp

theorem isValid_underivable_iff [DepthLimit] {text : List Char} (underivable : ¬Derivable (normalize text))
    (problem : String) :
    (judge text problem).isValid = true ↔ Admissible text problem ∧ DividesEarly .floats (normalize text) := by
  have same := withoutBlanks_normalize text
  have undefined := computeIn_undefined_iff floats_addsAlways (normalize text)
  obtain ⟨fault, fails⟩ := evaluate_underivable (by rwa [same])
  rw [same] at undefined
  rw [isValid_iff, ← undefined, fails]
  simp only [reduceCtorEq, exists_false, false_or]
  rw [← fails]
  rfl

theorem verdict_underivable [DepthLimit] {text : List Char} {problem : String} {result : Option Float}
    (underivable : ¬Derivable (normalize text)) (accepts : (judge text problem).verdict = .ok result) :
    result = none := by
  cases result with
  | none => rfl
  | some value =>
      have hasResult : (judge text problem).result? = some value := by
        rw [Answer.result?, accepts]
        rfl
      obtain ⟨_, evaluates⟩ := result_eq_some_iff.mp hasResult
      obtain ⟨fault, fails⟩ := evaluate_underivable (by rwa [withoutBlanks_normalize])
      rw [fails] at evaluates
      cases evaluates

theorem isCorrect_underivable [DepthLimit] {text : List Char} (underivable : ¬Derivable (normalize text))
    (problem : String) : (judge text problem).isCorrect = false := by
  have noResult : (judge text problem).result? = none := by
    rw [Answer.result?]
    cases verdict : (judge text problem).verdict with
    | error rejection => rfl
    | ok result =>
        rw [verdict_underivable underivable verdict]
        rfl
  rw [Answer.isCorrect, noResult]

/-- What becomes of a text without a derivation. It is a parse error unless a division without a
result is complete in front of its first fault; in that case alone it counts as a valid answer, and
a game records it as one that divides by zero. -/
theorem underivable_outcome [DepthLimit] (text : List Char) :
    (¬Derivable (Text.withoutBlanks text) →
      (evaluate text = .error .undefined ↔ DividesEarly .floats (Text.withoutBlanks text)) ∧
      ((∃ fault, fault ≠ .undefined ∧ evaluate text = .error fault) ↔
        ¬DividesEarly .floats (Text.withoutBlanks text))) ∧
    (¬Derivable (normalize text) →
      (∀ problem, (judge text problem).isValid = true ↔
        Admissible text problem ∧ DividesEarly .floats (normalize text)) ∧
      ∀ rules seat moment session,
        (∀ fault later, submitAnswer rules seat text moment session = (.error fault, later) →
          later = session.purged moment) ∧
        (∀ attempt ended later, submitAnswer rules seat text moment session = (.ok (attempt, ended), later) →
          attempt.result.isNone ∧ attempt ∈ ended.history) ∧
        ((∃ recorded later, submitAnswer rules seat text moment session = (.ok recorded, later)) ↔
          ∃ game digits, requireGame seat moment session = (.ok game, session.purged moment) ∧
            game.spot = .problem digits ∧ Admissible text digits ∧
            DividesEarly .floats (normalize text))) := by
  constructor
  · intro underivable
    exact ⟨computeIn_undefined_iff floats_addsAlways text, parseFault_iff underivable⟩
  · intro underivable
    refine ⟨isValid_underivable_iff underivable, ?_⟩
    intro rules seat moment session
    refine ⟨?_, ?_, ?_⟩
    · intro fault later fails
      exact submitAnswer_error fails
    · intro attempt ended later records
      obtain ⟨game, digits, result, _, _, accepts, isResult, history⟩ := submitAnswer_ok records
      rw [isResult, verdict_underivable underivable accepts, history]
      simp
    · rw [submitAnswer_ok_iff (isCorrect_underivable underivable)]
      simp only [isValid_underivable_iff underivable]

section

attribute [local instance] DepthLimit.standard

theorem underivable_outcome_of_closing_bracket :
    ¬Derivable "1/0)+2+3".toList ∧ evaluate "1/0)+2+3".toList = .error .undefined ∧
      (judge "1/0)+2+3".toList "1023").isValid = true := by
  have underivable : ¬Derivable "1/0)+2+3".toList := by
    rintro ⟨tree, derives⟩
    have parses := @Derives.computeIn_eq Expr _ .trees "1/0)+2+3".toList tree derives (by decide)
    rw [Expr.outcome, value_trees] at parses
    cases parses
  have divides : DividesEarly .floats "1/0)+2+3".toList :=
    (computeIn_undefined_iff floats_addsAlways "1/0)+2+3".toList).mp rfl
  obtain ⟨evaluates, judges⟩ := underivable_outcome "1/0)+2+3".toList
  refine ⟨underivable, (evaluates underivable).1.mpr divides, ?_⟩
  exact ((judges underivable).1 "1023").mpr ⟨⟨by decide, by decide⟩, divides⟩

end

end TenPuzzle
