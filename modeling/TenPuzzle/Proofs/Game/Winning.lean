import TenPuzzle.Proofs.Game.Health
import TenPuzzle.Proofs.Game.Request
import TenPuzzle.Proofs.Solver.Playable

/-!
Games that can be won. A pool that comes from the sweep has nothing but problems with a solution; so whoever gives
up is shown a right answer, and whoever plays can still give one.
-/

namespace TenPuzzle

/-! Solvable problems. -/

theorem isSolvable_iff [DepthLimit] {problem : String} :
    isSolvable problem = true ↔ ∃ solution, solution? problem = .ok (some solution) := by
  unfold isSolvable
  constructor
  · intro solvable
    split at solvable
    · next solution found => exact ⟨solution, found⟩
    · cases solvable
  · rintro ⟨solution, found⟩
    rw [found]

theorem isSolvable_of_mem_sweep [DepthLimit] {problem : String} (member : problem ∈ solvableProblems isSolvable) :
    isSolvable problem = true := by
  rw [solvableProblems_eq] at member
  exact (List.mem_filter.mp member).2

/-- Whether it is read back or swept for, the pool holds what a sweep finds. -/
theorem opening_problems_swept [DepthLimit] {settings : Settings} {stored : List String}
    (swept : ∀ problem ∈ stored, problem ∈ solvableProblems isSolvable) :
    ∀ problem ∈ (Session.opening stored [] 0).problems ⟨settings, isSolvable⟩,
      problem ∈ solvableProblems isSolvable := by
  intro problem member
  rw [problems_of_isEmpty rfl] at member
  split at member
  · exact member
  · rw [opening_problems] at member
    exact swept problem (Text.mem_sortedDistinct.mp member)

/-! Reveals. -/

/-- An attempt that shows a right answer to its problem. -/
structure Attempt.IsRightReveal [DepthLimit] (attempt : Attempt) : Prop where
  nonempty : attempt.expression ≠ ""
  result : attempt.result = some (.real target)
  valid : (judge attempt.expression.toList attempt.problem).isValid = true
  correct : (judge attempt.expression.toList attempt.problem).isCorrect = true

theorem revealing_isRight [DepthLimit] {problem solution : String} (solves : solution? problem = .ok (some solution)) :
    (Attempt.revealing problem (some solution)).IsRightReveal := by
  obtain ⟨_, valid, correct, _⟩ := judge_solution solves
  refine ⟨?_, rfl, valid, correct⟩
  rintro (rfl : solution = "")
  have empty : (judge "".toList problem).isValid = false := rfl
  rw [empty] at valid
  cases valid

theorem Attempt.Arises.isRightReveal [DepthLimit] {attempt : Attempt} (arises : attempt.Arises)
    (solvable : isSolvable attempt.problem = true) (passed : attempt.passed = true) : attempt.IsRightReveal := by
  cases arises with
  | answer accepts => cases passed
  | @reveal digits found solves =>
      obtain ⟨solution, isSolution⟩ := isSolvable_iff.mp solvable
      have same : found = some solution := Except.ok.inj (solves.symm.trans isSolution)
      subst same
      exact revealing_isRight solves

def Game.RevealsRight [DepthLimit] (game : Game) : Prop :=
  ∀ attempt ∈ game.history, attempt.passed = true → attempt.IsRightReveal

theorem Game.RevealsRight.record [DepthLimit] {game : Game} {attempt : Attempt} (right : game.RevealsRight)
    (isRight : attempt.passed = true → attempt.IsRightReveal) : (game.record attempt).RevealsRight := by
  intro other member passed
  rcases List.mem_append.mp member with before | isLast
  · exact right other before passed
  · rw [List.mem_singleton.mp isLast] at passed ⊢
    exact isRight passed

theorem Game.RevealsRight.settled [DepthLimit] {game : Game} (right : game.RevealsRight) (now : Float) :
    (game.settled now).RevealsRight := by
  unfold Game.RevealsRight
  rw [Game.history_settled]
  exact right

/-! Games. -/

theorem spot_of_no_problems {game : Game} (nothing : game.problems = []) (digits : String) :
    game.spot ≠ .problem digits := by
  unfold Game.spot
  split
  · exact fun plays => nomatch plays
  · simp [nothing, itemAt?]

def AreSolvable [DepthLimit] (problems : List String) : Prop :=
  ∀ problem ∈ problems, isSolvable problem = true

/-- A game that was drawn: one without a single problem, in which there is nothing to play, or one in play. -/
inductive Game.IsDrawn [DepthLimit] (rules : Rules) (pool : List String) (game : Game) : Prop
  | idle : game.mode = 0 → game.problems = [] → game.history = [] → game.status = activeStatus →
      game.mode ∈ rules.settings.modes → game.IsStorable → IsDrawn rules pool game
  | played : game.IsRunning rules pool AreSolvable → game.RevealsRight → IsDrawn rules pool game

section

variable [DepthLimit] {rules : Rules} {pool : List String} {game : Game} {attempt : Attempt} {now : Float}

theorem Game.IsDrawn.isStorable (drawn : game.IsDrawn rules pool) (short : pool.length ≤ listLimit) :
    game.IsStorable := by
  cases drawn with
  | idle _ _ _ _ _ storable => exact storable
  | played running _ => exact running.isStorable short

theorem Game.IsDrawn.revealsRight (drawn : game.IsDrawn rules pool) : game.RevealsRight := by
  cases drawn with
  | idle _ _ untouched =>
      intro attempt member
      rw [untouched] at member
      cases member
  | played _ right => exact right

theorem Game.IsDrawn.offered (drawn : game.IsDrawn rules pool) : game.mode ∈ rules.settings.modes := by
  cases drawn with
  | idle _ _ _ _ offered => exact offered
  | played running _ => exact running.offered

theorem Game.IsDrawn.active (drawn : game.IsDrawn rules pool) : game.status = activeStatus := by
  cases drawn with
  | idle _ _ _ active => exact active
  | played running _ => exact running.status

/-- Only a game in play takes attempts. -/
theorem Game.IsDrawn.playing (drawn : game.IsDrawn rules pool) (takes : game.Takes attempt) :
    game.IsRunning rules pool AreSolvable := by
  cases drawn with
  | idle _ nothing => exact (spot_of_no_problems nothing _ takes.plays).elim
  | played running _ => exact running

theorem Game.IsRunning.solvable (running : game.IsRunning rules pool AreSolvable) (takes : game.Takes attempt) :
    isSolvable attempt.problem = true :=
  running.fair _ (List.mem_of_getElem? (running.problem_in_play takes))

theorem Game.IsDrawn.record (drawn : game.IsDrawn rules pool) (takes : game.Takes attempt) :
    (game.record attempt).RevealsRight :=
  drawn.revealsRight.record (takes.arises.isRightReveal ((drawn.playing takes).solvable takes))

theorem fresh_isDrawn {seat : Seat} {mode : Int} {problems : List String}
    (storable : (Game.fresh seat mode problems now).IsStorable) (solvable : AreSolvable problems)
    (length : (problems.length : Int) = mode) (offered : mode ∈ rules.settings.modes)
    (enough : mode ≤ pool.length) :
    (Game.fresh seat mode problems now).IsDrawn rules pool := by
  by_cases idle : mode = 0
  · have nothing : problems = [] := List.eq_nil_of_length_eq_zero (by omega)
    exact .idle idle nothing rfl rfl offered storable
  · have running := @fresh_isRunning rules pool AreSolvable seat mode problems now solvable length offered (by omega)
      enough
    exact .played running fun attempt member => nomatch member

end

/-! Sessions. -/

structure Session.IsDrawn [DepthLimit] (rules : Rules) (pool : List String) (session : Session) : Prop where
  stocked : session.IsStocked
  pooled : session.problems rules = pool
  games : session.store.Holds (Game.IsDrawn rules pool)

section

variable [DepthLimit] {rules : Rules} {pool : List String} {step : Step} {before after session : Session}

theorem Turn.isDrawn {outcome : Except GameFault Outcome} (turn : Turn rules step before outcome after)
    (drawn : before.IsDrawn rules pool) (solvable : AreSolvable pool) (short : pool.length ≤ listLimit) :
    after.IsDrawn rules pool ∧
      ∀ value, outcome = .ok value → ∀ game ∈ value.game?, game.RevealsRight := by
  have starts {mode : Int} {problems : List String}
      (storable : (Game.fresh step.seat mode problems step.moment.now).IsStorable)
      (offered : mode ∈ rules.settings.modes) (length : (problems.length : Int) = mode)
      (enough : mode ≤ (before.problems rules).length) (draws : step.moment.Draws (before.problems rules) problems) :
      (Game.fresh step.seat mode problems step.moment.now).IsDrawn rules pool := by
    rw [drawn.pooled] at enough draws
    exact fresh_isDrawn storable (fun problem member => solvable problem (draws.subset problem member)) length offered
      enough
  have stands {game : Game} (found : step.found before = .ok (some game)) : game.IsDrawn rules pool :=
    (found_of_holds drawn.stocked drawn.games found).2
  constructor
  · obtain ⟨stocked, problems⟩ := turn.stocked
    refine ⟨stocked, problems.trans drawn.pooled, ?_⟩
    apply turn.holds drawn.stocked drawn.games fun game isDrawn => isDrawn.isStorable short
    · intro mode problems offered length enough draws storable
      exact starts storable offered length enough draws
    · intro game attempt isDrawn takes _ unfinished
      exact .played ((isDrawn.playing takes).next takes unfinished) (isDrawn.record takes)
  · rintro value ⟨⟩
    cases turn with
    | finds ages found =>
        rintro game ⟨⟩
        exact (stands found).revealsRight
    | leaves => exact fun game told => nomatch told
    | drops => exact fun game told => nomatch told
    | starts ages found offered length enough draws storable =>
        rintro game ⟨⟩
        exact (starts storable offered length enough draws).revealsRight
    | records ages found takes _ =>
        rintro game ⟨⟩
        exact ((stands found).record takes).settled _

theorem Call.run_isDrawn (call : Call) (drawn : session.IsDrawn rules pool) (solvable : AreSolvable pool)
    (short : pool.length ≤ listLimit) : (call.run rules session).2.IsDrawn rules pool := by
  rcases call.run_cases rules drawn.stocked with ⟨seat, play, _, same⟩ | ages
  · rw [same]
    exact ((Step.turn rules ⟨call.moment, seat, play⟩ drawn.stocked).isDrawn drawn solvable short).1
  · refine ⟨ages.stocked, ages.problems.trans drawn.pooled, ?_⟩
    rw [Store.holds_iff]
    exact ages.every (Store.holds_iff.mp drawn.games) fun texts text isText => nomatch isText

end

/-! Winning. -/

section

variable {rules : Rules} {pool : List String} {game : Game} {moment : Moment} {seat : Seat} {session : Session}

theorem requireGame_of_gameAt (reachable : moment.outage = none)
    (found : (session.store.live moment.now).gameAt seat.key = .ok (some game)) :
    requireGame seat moment session = (.ok game, session.purged moment) := by
  have finds := activeGame_eq reachable session seat
  rw [found] at finds
  exact bind_of_ok finds

theorem Game.IsRunning.correct_attempt [DepthLimit] (running : game.IsRunning rules pool AreSolvable) :
    ∃ expression digits result, game.spot = .problem digits ∧ (judge expression digits).verdict = .ok result ∧
      (judge expression digits).isCorrect = true := by
  obtain ⟨digits, member, plays⟩ := running.spot
  obtain ⟨solution, solves⟩ := isSolvable_iff.mp (running.fair digits member)
  obtain ⟨_, valid, correct, _⟩ := judge_solution solves
  cases verdict : (judge solution.toList digits).verdict with
  | error rejection => simp [Answer.isValid, verdict, Except.isOk, Except.toBool] at valid
  | ok result => exact ⟨solution.toList, digits, result, plays, verdict, correct⟩

/-- Whoever has a problem in play can answer it. -/
theorem Game.IsRunning.winnable [DepthLimit] (running : game.IsRunning rules pool AreSolvable)
    (short : pool.length ≤ listLimit) (reachable : moment.outage = none)
    (found : (session.store.live moment.now).gameAt seat.key = .ok (some game)) :
    ∃ expression attempt later after,
      submitAnswer rules seat expression moment session = (.ok (attempt, later), after) ∧
        attempt.correct = true ∧ later.history = game.history ++ [attempt] ∧
        later.current = game.current + 1 ∧ later.correctCount = game.correctCount + 1 := by
  obtain ⟨expression, digits, result, plays, accepts, correct⟩ := running.correct_attempt
  have takes : game.Takes ((judge expression digits).attempt digits result) := ⟨plays, .answer accepts⟩
  have isCorrect : ((judge expression digits).attempt digits result).correct = true := correct
  have settles : (game.record ((judge expression digits).attempt digits result)).CanSettle :=
    fun unfinished => (running.next takes unfinished).isStorable short
  have records := @submitAnswer_recorded _ rules _ _ _ _ _ _ _ (requireGame_of_gameAt reachable found) plays accepts
    settles
  refine ⟨expression, _, _, _, records, isCorrect, Game.history_settled _ _, ?_, ?_⟩
  · unfold Game.settled
    split <;> simp [Game.ended, Game.record, isCorrect]
  · unfold Game.settled
    split <;> simp [Game.ended, Game.record, isCorrect]

theorem submitAnswer_idle [DepthLimit] (reachable : moment.outage = none)
    (found : (session.store.live moment.now).gameAt seat.key = .ok (some game)) (nothing : game.problems = [])
    (expression : List Char) :
    ∃ fault, submitAnswer rules seat expression moment session = (.error fault, session.purged moment) := by
  obtain ⟨fault, fails⟩ :=
    judgeFor_without_problem game expression moment (session.purged moment) (spot_of_no_problems nothing)
  exact ⟨fault, (bind_of_ok (requireGame_of_gameAt reachable found)).trans (bind_of_error fails)⟩

/-- Where the mode zero is on offer, a game without a problem starts. -/
theorem createGame_idle (stocked : session.IsStocked) (reachable : moment.outage = none)
    (undrawn : moment.draw = none) (offered : 0 ∈ rules.settings.modes)
    (free : (session.store.live moment.now).gameAt seat.key = .ok none) :
    ∃ later : Session, later.store.IsKeyed ∧ createGame rules seat (some 0) moment session =
      (.ok (.fresh seat 0 [] moment.now),
        later.change (Store.saved rules moment.now (.fresh seat 0 [] moment.now))) := by
  have ages : (session.purged moment).IsStocked := (stocked.purged rules moment).stocked
  have samples : moment.Samples ((session.purged moment).problems rules).length := by
    intro positions drawn
    rw [undrawn] at drawn
    cases drawn
  obtain ⟨problems, later, drawn⟩ := drawProblems_samples reachable ages samples le_rfl (Int.natCast_nonneg _)
  have finds := activeGame_eq reachable session seat
  rw [free] at finds
  rcases drawProblems_cases 0 reachable ages with ⟨fault, fails⟩ | ⟨_, again, length, _⟩
  · rw [drawn] at fails
    cases fails
  · rw [drawn] at again
    cases again
    have nothing : problems = [] := List.eq_nil_of_length_eq_zero (by omega)
    subst nothing
    have keyed := ((ages.supplied rules moment.now).2.stocked.keyed).live moment.now
    exact ⟨_, keyed, createGame_drawn finds reachable offered drawn (fresh_isStorable [] moment.now isShort_zero)⟩

/-- A game without a problem stands in the store once it is started, and takes no answer. -/
theorem create_idle [DepthLimit] (stocked : session.IsStocked) (reachable : moment.outage = none)
    (undrawn : moment.draw = none) (offered : 0 ∈ rules.settings.modes) (lasting : 0 < rules.settings.lifetime)
    (lives : ¬rules.deadline moment.now ≤ moment.now)
    (free : (session.store.live moment.now).gameAt seat.key = .ok none) :
    let later := (Step.run rules ⟨moment, seat, .create (some 0)⟩ session).2
    ∃ text game, (later.store.live moment.now).text? seat.key = some text ∧ Game.ofText text = .ok game ∧
      game.status = activeStatus ∧
      ∀ expression, (submitAnswer rules seat expression moment later).1.isOk = false := by
  intro later
  let game := Game.fresh seat 0 [] moment.now
  obtain ⟨drawn, keyed, starts⟩ := createGame_idle stocked reachable undrawn offered free
  have isLater : later = drawn.change (Store.saved rules moment.now game) :=
    congrArg Prod.snd (bind_of_ok starts : Step.run rules ⟨moment, seat, .create (some 0)⟩ session = _)
  have isText : (later.store.live moment.now).text? seat.key = some game.text := by
    have isLive : (rules.entryOf game moment.now).isLive moment.now = true := by
      simpa [Rules.entryOf, Entry.isLive] using lives
    have isSeat : seat.key = game.seat.key := rfl
    rw [isLater, Store.text?_eq_some]
    refine ⟨some (rules.deadline moment.now), ?_⟩
    rw [Session.change, Store.get?_live (keyed.saved rules moment.now game), Store.get?_saved, if_pos isSeat,
      if_neg (by omega), Option.filter_some, isLive]
    rfl
  have reads := Game.ofText_text (fresh_isStorable [] moment.now isShort_zero : game.IsStorable)
  refine ⟨game.text, game, isText, reads, rfl, ?_⟩
  intro expression
  obtain ⟨fault, fails⟩ :=
    @submitAnswer_idle rules _ _ _ _ _ reachable (gameAt_of_reads isText reads rfl) rfl expression
  rw [fails]
  rfl

/-- A game with a problem can be won, and one without is of mode zero and takes no answer. -/
theorem Game.IsDrawn.winnable [DepthLimit] (drawn : game.IsDrawn rules pool) (short : pool.length ≤ listLimit)
    (reachable : moment.outage = none)
    (found : (session.store.live moment.now).gameAt seat.key = .ok (some game)) :
    (1 ≤ game.mode ∧ ∃ expression attempt later after,
      submitAnswer rules seat expression moment session = (.ok (attempt, later), after) ∧
        attempt.correct = true ∧ later.history = game.history ++ [attempt] ∧
        later.current = game.current + 1 ∧ later.correctCount = game.correctCount + 1) ∨
    (game.mode = 0 ∧ game.problems = [] ∧
      ∀ expression, (submitAnswer rules seat expression moment session).1.isOk = false) := by
  cases drawn with
  | idle noMode nothing =>
      refine .inr ⟨noMode, nothing, ?_⟩
      intro expression
      obtain ⟨fault, fails⟩ := @submitAnswer_idle rules _ _ _ _ _ reachable found nothing expression
      rw [fails]
      rfl
  | played running _ =>
      have inPlay := running.inPlay
      exact .inl ⟨by omega, running.winnable short reachable found⟩

end

/-- With a pool from the sweep, after whatever calls, every reveal in a stored game and in a game that is told of
shows a right answer; and to every stored game there is an answer that is taken as correct. But for games of mode
zero, where settings offer that: they have no problem, and no answer to them is taken. -/
theorem swept_games_are_winnable [DepthLimit] (settings : Settings) (stored : List String) (calls : List Call)
    (swept : ∀ problem ∈ stored, problem ∈ solvableProblems isSolvable) :
    let rules : Rules := ⟨settings, isSolvable⟩
    let session := callAll rules (Session.opening stored [] 0) calls
    session.store.Holds Game.RevealsRight ∧
      (∀ (step : Step) outcome later, step.run rules session = (.ok outcome, later) →
        ∀ game ∈ outcome.game?, game.RevealsRight) ∧
      ∀ (moment : Moment) (seat : Seat) text, moment.outage = none →
        (session.store.live moment.now).text? seat.key = some text →
        ∃ game, Game.ofText text = .ok game ∧ game.status = activeStatus ∧ game.mode ∈ settings.modes ∧
          ((1 ≤ game.mode ∧ ∃ expression attempt later after,
            submitAnswer rules seat expression moment session = (.ok (attempt, later), after) ∧
              attempt.correct = true ∧ later.history = game.history ++ [attempt] ∧
              later.current = game.current + 1 ∧ later.correctCount = game.correctCount + 1) ∨
            (game.mode = 0 ∧ game.problems = [] ∧
              ∀ expression, (submitAnswer rules seat expression moment session).1.isOk = false)) := by
  intro rules session
  have isSwept := @opening_problems_swept _ settings stored swept
  have solvable : AreSolvable ((Session.opening stored [] 0).problems rules) :=
    fun problem member => isSolvable_of_mem_sweep (isSwept problem member)
  have short := (opening_isPool rules fun problem member =>
    (solvableProblems_arePool isSolvable).1 problem (swept problem member)).short
  have drawn : session.IsDrawn rules ((Session.opening stored [] 0).problems rules) := by
    apply @callAll_keeps _ rules _ calls (Session.IsDrawn rules ((Session.opening stored [] 0).problems rules))
    · exact ⟨opening_isStocked stored [] 0, rfl, opening_holds stored [] 0 _⟩
    · intro between call _ before
      exact call.run_isDrawn before solvable short
  refine ⟨?_, ?_, ?_⟩
  · intro key text isText
    obtain ⟨game, reads, isKey, isDrawn⟩ := drawn.games key text isText
    exact ⟨game, reads, isKey, isDrawn.revealsRight⟩
  · intro step outcome later runs
    have tells := ((step.turn rules drawn.stocked).isDrawn drawn solvable short).2
    rw [runs] at tells
    exact tells outcome rfl
  · intro moment seat text reachable isText
    obtain ⟨expires, isEntry⟩ := Store.text?_eq_some.mp isText
    rw [Store.get?_live drawn.stocked.keyed, Option.filter_eq_some_iff] at isEntry
    obtain ⟨game, reads, _, isDrawn⟩ := drawn.games _ text (Store.text?_eq_some.mpr ⟨expires, isEntry.1⟩)
    have found := gameAt_of_reads isText reads isDrawn.active
    exact ⟨game, reads, isDrawn.active, isDrawn.offered, isDrawn.winnable short reachable found⟩

section

attribute [local instance] DepthLimit.standard

theorem swept_games_are_winnable_of_one_to_four :
    let rules : Rules := ⟨⟨[1], 1, 60, 10⟩, isSolvable⟩
    let moment : Moment := ⟨1.0, none, none⟩
    let seat : Seat := ⟨"1", "2", "3"⟩
    let session := callAll rules (Session.opening ["1234"] [] 0) [⟨moment, .move seat (.create none)⟩]
    ∃ expression attempt later after,
      submitAnswer rules seat expression moment session = (.ok (attempt, later), after) ∧ attempt.correct = true := by
  intro rules moment seat session
  have swept : ∀ problem ∈ ["1234"], problem ∈ solvableProblems isSolvable := by
    intro problem member
    rw [List.mem_singleton.mp member, solvableProblems_eq, List.mem_filter, List.mem_map]
    exact ⟨⟨1234, List.mem_range.mpr (by decide), by decide⟩, by decide +kernel⟩
  obtain ⟨_, _, winnable⟩ :=
    swept_games_are_winnable rules.settings ["1234"] [⟨moment, .move seat (.create none)⟩] swept
  have stands : ((session.store.live moment.now).text? seat.key).isSome = true := by decide +kernel
  obtain ⟨text, isText⟩ := Option.isSome_iff_exists.mp stands
  obtain ⟨game, _, _, offered, wins⟩ := winnable moment seat text rfl isText
  have mode : game.mode = 1 := List.mem_singleton.mp offered
  rcases wins with ⟨_, expression, attempt, later, after, records, correct, _⟩ | ⟨idle, _⟩
  · exact ⟨expression, attempt, later, after, records, correct⟩
  · omega

/-- With zero as the only mode, over the pool that the sweep gives, a game is started that nobody can win. -/
theorem idle_game_cannot_be_won :
    let rules : Rules := ⟨⟨[0], 0, 60, 10⟩, isSolvable⟩
    let moment : Moment := ⟨0.0, none, none⟩
    let seat : Seat := ⟨"1", "2", "3"⟩
    let session := callAll rules (Session.opening [] [] 0) [⟨moment, .move seat (.create (some 0))⟩]
    ∃ text game, (session.store.live moment.now).text? seat.key = some text ∧ Game.ofText text = .ok game ∧
      game.status = activeStatus ∧
      ∀ expression, (submitAnswer rules seat expression moment session).1.isOk = false := by
  intro rules moment seat session
  have isSession : session = (Step.run rules ⟨moment, seat, .create (some 0)⟩ (Session.opening [] [] 0)).2 :=
    (@callAll_concat _ rules (Session.opening [] [] 0) [] _).trans (Call.run_move rules moment seat _ _)
  rw [isSession]
  exact create_idle (opening_isStocked [] [] 0) rfl rfl List.mem_cons_self (by decide) (by decide +kernel) rfl

end

end TenPuzzle
