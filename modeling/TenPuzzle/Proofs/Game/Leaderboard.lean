import TenPuzzle.Proofs.Game.Ledger

/-!
Leaderboards. Scores are whole numbers up to rounding and never leave the doubles, and so a leaderboard that
is long enough shows every player of the board with the whole of the score.
-/

namespace TenPuzzle

/-- Every player with a score, once, with the whole part of the score, and higher scores first. -/
structure IsListing (scores : String → Option Float) (lines : List (String × Int)) : Prop where
  once : (lines.map Prod.fst).Nodup
  players : ∀ player, player ∈ lines.map Prod.fst ↔ (scores player).isSome = true
  wholes : ∀ line ∈ lines, ∃ score, scores line.1 = some score ∧ Number.wholePart score = .ok line.2
  descends : lines.Pairwise fun left right => right.2 ≤ left.2
  ranks : lines.Pairwise fun left right =>
    ∀ high low, scores left.1 = some high → scores right.1 = some low → low ≤ high

/-- A score that is finite and not negative. -/
def IsScore (score : Float) : Prop :=
  ∃ exact, Number.exactValue score = some exact ∧ 0 ≤ exact

def wholeOf (score : Float) : Int :=
  ⌊(Number.exactValue score).getD 0⌋

theorem IsScore.wholePart {score : Float} (isScore : IsScore score) :
    Number.wholePart score = .ok (wholeOf score) := by
  obtain ⟨exact, isExact, nonneg⟩ := isScore
  rw [Number.wholePart_of_nonneg isExact nonneg, wholeOf, isExact, Option.getD_some]

theorem IsScore.wholeOf_mono {low high : Float} (isLow : IsScore low) (isHigh : IsScore high) (le : low ≤ high) :
    wholeOf low ≤ wholeOf high := by
  obtain ⟨less, isLess, _⟩ := isLow
  obtain ⟨more, isMore, _⟩ := isHigh
  rw [wholeOf, wholeOf, isLess, isMore]
  exact Int.floor_mono ((Number.le_iff_exactValue isLess isMore).mp le)

theorem IsScore.add {score : Float} {credit : Int} (isScore : IsScore score) (positive : 0 < credit)
    (most : credit ≤ listLimit) : IsScore (score + Float.ofInt credit) := by
  obtain ⟨total, isTotal, nonneg⟩ := isScore
  obtain ⟨number, rfl⟩ := Int.eq_ofNat_of_zero_le positive.le
  have bound : number ≤ 2 ^ 63 := by
    unfold listLimit at most
    omega
  obtain ⟨amount, isAmount, adds, moderate⟩ := Number.exactValue_ofNat bound
  exact Number.exactValue_add isTotal isAmount nonneg adds moderate

theorem isScore_zero : IsScore 0.0 :=
  ⟨0, by decide +kernel, le_refl 0⟩

theorem tally_isScore {credits : List Int} (bounded : ∀ credit ∈ credits, 0 < credit ∧ credit ≤ listLimit) :
    IsScore (tally credits) := by
  induction credits using List.reverseRecOn with
  | nil => exact isScore_zero
  | append_singleton credits credit ih =>
      obtain ⟨positive, most⟩ := bounded credit (List.mem_append_right _ (List.mem_singleton.mpr rfl))
      rw [tally_concat]
      exact (ih fun other member => bounded other (List.mem_append_left _ member)).add positive most

/-- The credits of a run come from complete games, and so are positive and no more than a pool can give. -/
theorem credits_bounded {rules : Rules} {pool : List String} {fair : List String → Prop} {events : List Occurrence}
    (short : pool.length ≤ listLimit)
    (tells : ∀ event ∈ events, ∀ value, event.outcome = .ok value →
      value.IsSound rules pool fair event.step.moment.now) (server player : String) :
    ∀ credit ∈ credits server player events, 0 < credit ∧ credit ≤ listLimit := by
  intro credit member
  obtain ⟨game, isEnded, credited⟩ := List.mem_filterMap.mp member
  obtain ⟨event, isEvent, ended⟩ := List.mem_filterMap.mp isEnded
  unfold Occurrence.ended? at ended
  split at ended
  · next attempt moved outcome =>
      split at ended
      · next finished =>
          cases ended
          have complete := tells event isEvent _ outcome
          rw [Outcome.IsSound, if_pos finished] at complete
          have most := complete.correctCount_le.2
          have current := complete.complete
          have enough := complete.enough
          unfold Game.credit? at credited
          split at credited
          · next scored =>
              cases credited
              exact ⟨scored.2.2, by omega⟩
          · cases credited
      · cases ended
  · cases ended

/-! Reading the board. -/

section

variable {α β : Type} {moment : Moment} {session : Session}

theorem mapM_of_ok {action : α → Action β} {result : α → β} {items : List α}
    (each : ∀ item ∈ items, action item moment session = (.ok (result item), session)) :
    items.mapM action moment session = (.ok (items.map result), session) := by
  have goes (done : List β) : List.mapM.loop action items done moment session =
      (.ok (done.reverse ++ items.map result), session) := by
    induction items generalizing done with
    | nil => rw [List.map_nil, List.append_nil]; rfl
    | cons item items ih =>
        have rest := ih (fun other member => each other (.tail _ member)) (result item :: done)
        rw [List.mapM.loop, bind_of_ok (each item List.mem_cons_self), rest]
        simp
  exact goes []

variable {rules : Rules} {server : String} {limit : Option Int}

theorem leaderboard_eq (reachable : moment.outage = none)
    (areScores : ∀ line ∈ (session.store.live moment.now).leaders (boardKey server)
      (rules.settings.boardLimit limit - 1), IsScore line.2) :
    leaderboard rules server limit moment session =
      (.ok (((session.store.live moment.now).leaders (boardKey server) (rules.settings.boardLimit limit - 1)).map
        fun line => (line.1, wholeOf line.2)), session.purged moment) := by
  apply (bind_of_ok (query_reachable _ session reachable)).trans
  apply mapM_of_ok
  intro line member
  have unwraps : Action.ofExcept .notWhole (Number.wholePart line.2) moment (session.purged moment) =
      (.ok (wholeOf line.2), session.purged moment) := by
    rw [(areScores line member).wholePart]
    rfl
  exact bind_of_ok unwraps

theorem Store.HasBoard.scored {scores : String → Option Float} {store : Store} (has : store.HasBoard server scores)
    {line : String × Float} (member : line ∈ ranking (store.boardOf (boardKey server))) :
    scores line.1 = some line.2 := by
  rw [← has.lines]
  exact lookup_of_mem has.distinct ((ranking_perm _).mem_iff.mp member)

theorem Store.HasBoard.ranked {scores : String → Option Float} {store : Store} (has : store.HasBoard server scores)
    (areScores : ∀ player score, scores player = some score → IsScore score) :
    IsRanked (ranking (store.boardOf (boardKey server))) := by
  apply ranking_isRanked
  intro line member
  obtain ⟨exact, isExact, _⟩ := areScores _ _ (has.scored ((ranking_perm _).mem_iff.mpr member))
  rw [Number.place_of_exactValue isExact]
  rfl

theorem Store.HasBoard.listing {scores : String → Option Float} {store : Store}
    (has : store.HasBoard server scores) (areScores : ∀ player score, scores player = some score → IsScore score) :
    IsListing scores ((ranking (store.boardOf (boardKey server))).map fun line => (line.1, wholeOf line.2)) := by
  have perm := ranking_perm (store.boardOf (boardKey server))
  have ranked := has.ranked areScores
  have names : (((ranking (store.boardOf (boardKey server))).map fun line => (line.1, wholeOf line.2)).map Prod.fst) =
      (ranking (store.boardOf (boardKey server))).map Prod.fst := by
    rw [List.map_map]
    rfl
  constructor
  case once =>
    rw [names]
    exact (perm.map Prod.fst).nodup_iff.mpr has.distinct
  case players =>
    intro player
    rw [names, (perm.map Prod.fst).mem_iff, ← has.lines]
    constructor
    · intro member
      obtain ⟨line, isIn, rfl⟩ := List.mem_map.mp member
      rw [lookup_of_mem has.distinct isIn]
      rfl
    · intro found
      obtain ⟨score, isScore⟩ := Option.isSome_iff_exists.mp found
      exact List.mem_map_of_mem (mem_of_lookup isScore)
  case wholes =>
    intro line member
    obtain ⟨ranked, isIn, rfl⟩ := List.mem_map.mp member
    exact ⟨ranked.2, has.scored isIn, (areScores _ _ (has.scored isIn)).wholePart⟩
  case descends =>
    rw [List.pairwise_map]
    apply ranked.2.imp_of_mem
    intro left right isLeft isRight le
    exact (areScores _ _ (has.scored isRight)).wholeOf_mono (areScores _ _ (has.scored isLeft)) le
  case ranks =>
    rw [List.pairwise_map]
    apply ranked.2.imp_of_mem
    intro left right isLeft isRight le high low isHigh isLow
    rw [has.scored isLeft, Option.some.injEq] at isHigh
    rw [has.scored isRight, Option.some.injEq] at isLow
    rwa [← isHigh, ← isLow]

end

theorem leaderboard_lists {rules : Rules} {server : String} {limit : Option Int} {moment : Moment}
    {session : Session} {scores : String → Option Float} (reachable : moment.outage = none)
    (has : (session.store.live moment.now).HasBoard server scores)
    (areScores : ∀ player score, scores player = some score → IsScore score)
    (enough : (((session.store.live moment.now).boardOf (boardKey server)).length : Int) ≤
      max 0 (rules.settings.boardLimit limit - 1 + 1)) :
    ∃ lines, (leaderboard rules server limit moment session).1 = .ok lines ∧ IsListing scores lines := by
  refine ⟨_, ?_, has.listing areScores⟩
  rw [leaderboard_eq reachable, leaders_all enough]
  rw [leaders_all enough]
  intro line member
  exact areScores _ _ (has.scored member)

theorem boardLimit_enough {settings : Settings} {limit : Option Int} {count : Nat}
    (enough : (count : Int) ≤ limit.getD settings.leaderboardSize) :
    (count : Int) ≤ max 0 (settings.boardLimit limit - 1 + 1) := by
  unfold Settings.boardLimit
  cases limit with
  | none =>
      rw [Option.getD_none] at enough
      dsimp only
      omega
  | some limit =>
      rw [Option.getD_some] at enough
      dsimp only
      split <;> omega

/-- In every run, whoever plays where and whichever steps fail, the score of a player on a server is the sum of the
credits of the games that the player ended there, in their order. No game ends twice: one that ends was underway at
its seat. And a leaderboard that is long enough lists exactly the players with credits. -/
theorem ledger_balances [DepthLimit] (rules : Rules) (stored kept : List String) (asked : Nat) (steps : List Step)
    (modes : ∀ mode ∈ rules.settings.modes, 1 ≤ mode)
    (short : ((Session.opening stored kept asked).problems rules).length ≤ listLimit)
    (plain : ∀ step ∈ steps, step.seat.IsPlain) :
    let run := playAll rules (Session.opening stored kept asked) steps
    (∀ server player, (run.session.store.boardOf (boardKey server)).lookup player =
        score? server player run.events) ∧
      (∀ earlier event later game, run.events = earlier ++ event :: later → event.ended? = some game →
        game.seat = event.step.seat ∧ IsUnderway event.step.seat earlier game) ∧
      ∀ server limit moment, moment.outage = none →
        ((run.session.store.boardOf (boardKey server)).length : Int) ≤ limit.getD rules.settings.leaderboardSize →
        ∃ lines, (leaderboard rules server limit moment run.session).1 = .ok lines ∧
          IsListing (fun player => score? server player run.events) lines := by
  intro run
  have sound := opening_isSound rules stored kept asked fun _ => True
  obtain ⟨later, _, balanced⟩ := playAll_shows sound (fun seat => get?_opening seat.key_ne_poolKey) modes short
    (fun _ _ _ _ => trivial) plain (opening_isBalanced stored kept asked)
    fun between step member sound told _ balanced => balanced.extend sound.stocked told (plain step member) short
  obtain ⟨_, tells⟩ := playAll_isSound sound modes short fun _ _ _ _ => trivial
  refine ⟨fun server => (balanced.balances server).lines, balanced.ends, ?_⟩
  intro server limit moment reachable enough
  have has := balanced.balances server
  have lives := has.get?_live later.stocked.keyed moment.now
  have areScores : ∀ player score, score? server player run.events = some score → IsScore score := by
    intro player score isScore
    rw [(scoreOf_eq_some.mp isScore).2]
    exact tally_isScore (credits_bounded short tells server player)
  have long := boardLimit_enough enough
  rw [← boardOf_congr lives] at long
  exact leaderboard_lists reachable (has.same lives) areScores long

section

attribute [local instance] DepthLimit.standard

theorem ledger_balances_of_one_game :
    let rules : Rules := ⟨⟨[1], 1, 60, 10⟩, fun _ => false⟩
    let seat : Seat := ⟨"1", "2", "3"⟩
    let steps : List Step :=
      [⟨⟨0.0, some [0], none⟩, seat, .create none⟩, ⟨⟨5.0, none, none⟩, seat, .answer "5+6+7-8".toList⟩]
    let run := playAll rules (Session.opening [] ["5678"] 0) steps
    credits "1" "3" run.events = [1] ∧
      (run.session.store.boardOf (boardKey "1")).lookup "3" = some (tally [1]) ∧
      ∃ lines, (leaderboard rules "1" none ⟨6.0, none, none⟩ run.session).1 = .ok lines ∧
        "3" ∈ lines.map Prod.fst := by
  intro rules seat steps run
  have credited : credits "1" "3" run.events = [1] := by decide +kernel
  have plain : ∀ step ∈ steps, step.seat.IsPlain := by
    intro step member
    have isSeat : step.seat = seat := by
      rcases List.mem_cons.mp member with rfl | isLast
      · rfl
      · rw [List.mem_singleton.mp isLast]
    rw [isSeat]
    exact ⟨by decide, by decide, by decide⟩
  obtain ⟨scores, _, lists⟩ := ledger_balances rules [] ["5678"] 0 steps (by decide) (by decide) plain
  have score : _ = scoreOf (credits "1" "3" run.events) := scores "1" "3"
  obtain ⟨lines, shows, listing⟩ := lists "1" none ⟨6.0, none, none⟩ rfl (by decide +kernel)
  refine ⟨credited, ?_, lines, shows, (listing.players "3").mpr ?_⟩
  · rw [credited] at score
    exact score
  · change (scoreOf (credits "1" "3" run.events)).isSome = true
    rw [credited]
    rfl

end

end TenPuzzle
