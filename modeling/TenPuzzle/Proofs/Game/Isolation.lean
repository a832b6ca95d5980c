import TenPuzzle.Proofs.Game.Bookkeeping
import TenPuzzle.Proofs.Number.Order

/-!
Seats side by side. A command of a seat reads the pool and the entry at the seat's own key, and no turn of
another seat touches either; so the games of a seat go on as if it were alone.
-/

namespace TenPuzzle

/-! What a seat can see. -/

/-- Two sessions that a seat cannot tell apart at a moment: the pool is the same, and so is the entry that lives
at the key of the seat. -/
structure Session.Alike (rules : Rules) (seat : Seat) (now : Float) (left right : Session) : Prop where
  isLeft : left.IsStocked
  isRight : right.IsStocked
  problems : left.problems rules = right.problems rules
  entry : (left.store.live now).get? seat.key = (right.store.live now).get? seat.key

theorem isLive_earlier {entry : Entry} {earlier now : Float} (ordered : earlier ≤ now)
    (isPast : entry.isLive earlier = false) : entry.isLive now = false := by
  unfold Entry.isLive at *
  split at isPast
  · cases isPast
  · next ends =>
      simp only [Bool.not_eq_false', decide_eq_true_eq] at isPast ⊢
      exact Number.le_trans_float isPast ordered

theorem Store.get?_live_later {store : Store} {earlier now : Float} (keyed : store.IsKeyed)
    (ordered : earlier ≤ now) (key : String) :
    (store.live now).get? key = ((store.live earlier).get? key).filter (Entry.isLive now) := by
  rw [get?_live keyed, get?_live keyed, Option.filter_filter]
  congr 1
  funext entry
  cases isLive : entry.isLive earlier with
  | true => simp
  | false => simp [isLive_earlier ordered isLive]

section

variable {rules : Rules} {seat : Seat} {earlier now : Float} {left right leftLater rightLater : Session}

/-- What time does to an entry is not seen once that time is over. -/
theorem Session.Ages.get?_live {key : String} (ages : left.Ages rules earlier leftLater) (stocked : left.IsStocked)
    (past : ∀ entry : Entry, entry.isLive earlier = false → entry.isLive now = false) (other : key ≠ poolKey) :
    (leftLater.store.live now).get? key = (left.store.live now).get? key := by
  rw [Store.get?_live ages.stocked.keyed, Store.get?_live stocked.keyed]
  rcases ages.kept key other with same | ⟨⟨entry, stored, isPast⟩, gone⟩
  · rw [same]
  · rw [gone, stored, Option.filter_none, Option.filter_some, past entry isPast]
    rfl

theorem Session.Alike.refl (stocked : left.IsStocked) : left.Alike rules seat now left :=
  ⟨stocked, stocked, rfl, rfl⟩

theorem Session.Alike.later (alike : left.Alike rules seat earlier right) (ordered : earlier ≤ now) :
    left.Alike rules seat now right := by
  refine ⟨alike.isLeft, alike.isRight, alike.problems, ?_⟩
  rw [Store.get?_live_later alike.isLeft.keyed ordered, Store.get?_live_later alike.isRight.keyed ordered,
    alike.entry]

theorem Session.Alike.ages (alike : left.Alike rules seat now right) (onLeft : left.Ages rules now leftLater)
    (onRight : right.Ages rules now rightLater) : leftLater.Alike rules seat now rightLater := by
  refine ⟨onLeft.stocked, onRight.stocked, ?_, ?_⟩
  · rw [onLeft.problems, onRight.problems, alike.problems]
  · rw [onLeft.get?_live alike.isLeft (fun _ => id) seat.key_ne_poolKey,
      onRight.get?_live alike.isRight (fun _ => id) seat.key_ne_poolKey, alike.entry]

end

/-! Private commands. -/

/-- A command that does the same in sessions that the seat cannot tell apart, and leaves them so. -/
def Action.IsPrivate {α : Type} (rules : Rules) (seat : Seat) (moment : Moment) (action : Action α) : Prop :=
  ∀ left right, left.Alike rules seat moment.now right →
    (action moment left).1 = (action moment right).1 ∧
      (action moment left).2.Alike rules seat moment.now (action moment right).2

section

variable {α β : Type} {rules : Rules} {seat : Seat} {moment : Moment}

namespace Action

theorem isPrivate_pure (value : α) : (Pure.pure value : Action α).IsPrivate rules seat moment :=
  fun _ _ alike => ⟨rfl, alike⟩

theorem isPrivate_fail (fault : GameFault) : (Action.fail fault : Action α).IsPrivate rules seat moment :=
  fun _ _ alike => ⟨rfl, alike⟩

theorem isPrivate_moment : Action.moment.IsPrivate rules seat moment :=
  fun _ _ alike => ⟨rfl, alike⟩

theorem isPrivate_ofExcept {ε : Type} (wrap : ε → GameFault) (result : Except ε α) :
    (Action.ofExcept wrap result).IsPrivate rules seat moment := by
  cases result with
  | error fault => exact isPrivate_fail (wrap fault)
  | ok value => exact isPrivate_pure value

theorem IsPrivate.bind {action : Action α} {next : α → Action β} (first : action.IsPrivate rules seat moment)
    (rest : ∀ value, (next value).IsPrivate rules seat moment) :
    (action >>= next).IsPrivate rules seat moment := by
  intro left right alike
  obtain ⟨same, later⟩ := first left right alike
  cases onLeft : action moment left with
  | mk result leftLater =>
      cases onRight : action moment right with
      | mk other rightLater =>
          rw [onLeft, onRight] at same later
          dsimp only at same later
          subst same
          cases result with
          | ok value =>
              rw [bind_of_ok onLeft, bind_of_ok onRight]
              exact rest value leftLater rightLater later
          | error fault =>
              rw [bind_of_error onLeft, bind_of_error onRight]
              exact ⟨rfl, later⟩

theorem isPrivate_command_unreachable {run : Float → Store → α × Store} {reason : String}
    (outage : moment.outage = some reason) : (Action.command run).IsPrivate rules seat moment := by
  intro left right alike
  simp only [command, outage]
  exact ⟨trivial, alike⟩

theorem isPrivate_text : (Action.query (Store.text? seat.key)).IsPrivate rules seat moment := by
  cases outage : moment.outage with
  | some reason => exact isPrivate_command_unreachable outage
  | none =>
      intro left right alike
      rw [query_reachable _ left outage, query_reachable _ right outage, purged_eq outage, purged_eq outage]
      refine ⟨?_, alike.ages alike.isLeft.live alike.isRight.live⟩
      simp only [Store.text?, alike.entry]

/-- A write is private if it spares the pool and what it leaves at the seat's key depends on nothing else. -/
theorem isPrivate_write {change : Float → Store → Store}
    (keyed : ∀ store : Store, store.IsKeyed → (change moment.now store).IsKeyed)
    (pool : ∀ store, (change moment.now store).get? poolKey = store.get? poolKey)
    (entry : ∀ left right : Store, left.get? seat.key = right.get? seat.key →
      (change moment.now left).get? seat.key = (change moment.now right).get? seat.key) :
    (Action.write change).IsPrivate rules seat moment := by
  cases outage : moment.outage with
  | some reason => exact isPrivate_command_unreachable outage
  | none =>
      intro left right alike
      rw [write_eq outage, write_eq outage]
      have onLeft : left.Ages rules moment.now _ := alike.isLeft.live
      have onRight : right.Ages rules moment.now _ := alike.isRight.live
      have aged := alike.ages onLeft onRight
      obtain ⟨isLeft, leftProblems⟩ := aged.isLeft.change (keyed _ aged.isLeft.keyed) (pool _) rules
      obtain ⟨isRight, rightProblems⟩ := aged.isRight.change (keyed _ aged.isRight.keyed) (pool _) rules
      refine ⟨rfl, isLeft, isRight, (leftProblems.trans aged.problems).trans rightProblems.symm, ?_⟩
      dsimp only
      rw [Store.get?_live (keyed _ aged.isLeft.keyed), Store.get?_live (keyed _ aged.isRight.keyed),
        entry _ _ alike.entry]

theorem isPrivate_erase {key : String} (other : key ≠ poolKey) :
    (Action.write fun _ store => store.erase key).IsPrivate rules seat moment := by
  apply isPrivate_write
  · exact fun store keyed => keyed.erase key
  · intro store
    rw [Store.get?_erase, if_neg other.symm]
  · intro left right same
    rw [Store.get?_erase, Store.get?_erase, same]

theorem isPrivate_putText {key : String} (value : String) (other : key ≠ poolKey) :
    (Action.write fun _ store => store.putText key value).IsPrivate rules seat moment := by
  unfold Store.putText
  apply isPrivate_write
  · exact fun store keyed => keyed.put key _
  · intro store
    rw [Store.get?_put, if_neg other.symm]
  · intro left right same
    rw [Store.get?_put, Store.get?_put, same]

theorem isPrivate_expire {key : String} (seconds : Int) (other : key ≠ poolKey) :
    (Action.write fun now store => store.expire now key seconds).IsPrivate rules seat moment := by
  apply isPrivate_write
  · exact fun store keyed => keyed.expire _ key seconds
  · intro store
    exact Store.get?_expire_of_ne other.symm _ _
  · intro left right same
    by_cases here : seat.key = key
    · rw [← here]
      simp only [Store.expire, same]
      cases right.get? seat.key with
      | none => exact same
      | some entry =>
          dsimp only
          split
          · rw [Store.get?_erase, Store.get?_erase, if_pos rfl, if_pos rfl]
          · rw [Store.get?_put, Store.get?_put, if_pos rfl, if_pos rfl]
    · rw [Store.get?_expire_of_ne here, Store.get?_expire_of_ne here, same]

theorem isPrivate_addScore (server player : String) (amount : Float) :
    (Action.write fun _ store => store.addScore (boardKey server) player amount).IsPrivate rules seat moment := by
  unfold Store.addScore
  apply isPrivate_write
  · exact fun store keyed => keyed.put _ _
  · intro store
    rw [Store.get?_put, if_neg (boardKey_ne_poolKey server).symm]
  · intro left right same
    rw [Store.get?_put, Store.get?_put, if_neg (seat.key_ne_boardKey server),
      if_neg (seat.key_ne_boardKey server), same]

end Action

open TenPuzzle.Action

/-! What players ask for is private. -/

theorem activeGame_isPrivate : (activeGame seat).IsPrivate rules seat moment := by
  refine isPrivate_text.bind fun text => ?_
  cases text with
  | none => exact isPrivate_pure none
  | some text =>
      dsimp only
      split
      · exact isPrivate_pure none
      · exact (isPrivate_ofExcept _ _).bind fun game => isPrivate_pure _

theorem requireGame_isPrivate : (requireGame seat).IsPrivate rules seat moment := by
  refine activeGame_isPrivate.bind fun game => ?_
  cases game with
  | none => exact isPrivate_fail .notPlaying
  | some game => exact isPrivate_pure game

theorem draw_isPrivate (count : Int) (pool : List String) : (draw count pool).IsPrivate rules seat moment := by
  refine isPrivate_moment.bind fun moment => ?_
  cases moment.draw with
  | none =>
      dsimp only
      split
      · exact isPrivate_fail .negativeDraw
      · exact isPrivate_pure _
  | some positions =>
      dsimp only
      split
      · cases positions.mapM (itemAt? pool) with
        | none => exact isPrivate_fail .outOfRange
        | some problems => exact isPrivate_pure problems
      · split
        · exact isPrivate_fail .negativeDraw
        · exact isPrivate_pure _

theorem drawProblems_isPrivate (count : Int) (reachable : moment.outage = none) :
    (drawProblems rules count).IsPrivate rules seat moment := by
  have ensures : (ensureProblems rules).IsPrivate rules seat moment := by
    intro left right alike
    obtain ⟨leftLater, onLeft, leftAges⟩ := ensureProblems_ages rules reachable alike.isLeft
    obtain ⟨rightLater, onRight, rightAges⟩ := ensureProblems_ages rules reachable alike.isRight
    rw [onLeft, onRight, alike.problems]
    exact ⟨rfl, alike.ages leftAges rightAges⟩
  refine ensures.bind fun pool => ?_
  split
  · exact (isPrivate_fail _).bind fun _ => draw_isPrivate count pool
  · exact draw_isPrivate count pool

theorem saveGame_isPrivate (game : Game) : (saveGame rules game).IsPrivate rules seat moment :=
  (isPrivate_ofExcept _ _).bind fun text =>
    (isPrivate_putText text game.seat.key_ne_poolKey).bind fun _ =>
      isPrivate_expire _ game.seat.key_ne_poolKey

theorem createGame_isPrivate (mode : Option Int) : (createGame rules seat mode).IsPrivate rules seat moment := by
  unfold createGame
  dsimp only
  split
  · exact fun _ _ alike => ⟨rfl, alike⟩
  · cases outage : moment.outage with
    | some reason =>
        -- without the store the pool is not looked for, whatever is in memory
        intro left right alike
        rw [bind_of_error (activeGame_unreachable seat left outage),
          bind_of_error (activeGame_unreachable seat right outage)]
        exact ⟨rfl, alike⟩
    | none =>
        refine activeGame_isPrivate.bind fun game => ?_
        split
        · exact fun _ _ alike => ⟨rfl, alike⟩
        · refine (drawProblems_isPrivate _ outage).bind fun problems => ?_
          refine isPrivate_moment.bind fun moment => ?_
          exact (saveGame_isPrivate _).bind fun _ => isPrivate_pure _

theorem deleteGame_isPrivate (game : Game) : (deleteGame game).IsPrivate rules seat moment :=
  isPrivate_erase game.seat.key_ne_poolKey

theorem finishGame_isPrivate (game : Game) : (finishGame game).IsPrivate rules seat moment := by
  refine isPrivate_moment.bind fun moment => (deleteGame_isPrivate _).bind fun _ => ?_
  split
  · exact (isPrivate_addScore _ _ _).bind fun _ => isPrivate_pure _
  · exact isPrivate_pure _

theorem storeOrFinish_isPrivate (game : Game) : (storeOrFinish rules game).IsPrivate rules seat moment := by
  unfold storeOrFinish
  split
  · exact finishGame_isPrivate game
  · exact (saveGame_isPrivate game).bind fun _ => isPrivate_pure game

theorem judgeFor_isPrivate [DepthLimit] (game : Game) (expression : List Char) :
    (judgeFor game expression).IsPrivate rules seat moment := by
  unfold judgeFor
  cases game.spot with
  | problem digits => exact isPrivate_pure _
  | outOfRange => exact isPrivate_fail .outOfRange
  | finished =>
      dsimp only
      cases plainFault? (normalize expression) with
      | none => exact isPrivate_fail .nothingToAnswer
      | some rejection => exact isPrivate_fail (.rejected rejection)

theorem submitAnswer_isPrivate [DepthLimit] (expression : List Char) :
    (submitAnswer rules seat expression).IsPrivate rules seat moment :=
  requireGame_isPrivate.bind fun game => (judgeFor_isPrivate game expression).bind fun _ =>
    (isPrivate_ofExcept _ _).bind fun _ => (storeOrFinish_isPrivate _).bind fun _ => isPrivate_pure _

theorem revealFor_isPrivate [DepthLimit] (game : Game) : (revealFor game).IsPrivate rules seat moment := by
  unfold revealFor
  cases game.spot with
  | problem digits => exact (isPrivate_ofExcept _ _).bind fun _ => isPrivate_pure _
  | outOfRange => exact isPrivate_fail .outOfRange
  | finished => exact isPrivate_fail .nothingToPass

theorem passProblem_isPrivate [DepthLimit] : (passProblem rules seat).IsPrivate rules seat moment :=
  requireGame_isPrivate.bind fun game => (revealFor_isPrivate game).bind fun _ =>
    (storeOrFinish_isPrivate _).bind fun _ => isPrivate_pure _

theorem cancelGame_isPrivate : (cancelGame seat).IsPrivate rules seat moment := by
  refine activeGame_isPrivate.bind fun game => ?_
  cases game with
  | none => exact isPrivate_pure false
  | some game => exact (deleteGame_isPrivate game).bind fun _ => isPrivate_pure true

theorem perform_isPrivate [DepthLimit] (play : Play) : (play.perform rules seat).IsPrivate rules seat moment := by
  cases play with
  | create mode => exact (createGame_isPrivate mode).bind fun _ => isPrivate_pure _
  | answer expression => exact (submitAnswer_isPrivate expression).bind fun _ => isPrivate_pure _
  | pass => exact passProblem_isPrivate.bind fun _ => isPrivate_pure _
  | look => exact activeGame_isPrivate.bind fun _ => isPrivate_pure _
  | cancel => exact cancelGame_isPrivate.bind fun _ => isPrivate_pure _

end

/-! A seat among others. -/

section

variable {rules : Rules} {step : Step} {seat : Seat} {before after right : Session} {now : Float}
  {outcome : Except GameFault Outcome} {good : Game → Prop}

theorem Turn.alike [DepthLimit] (turn : Turn rules step before outcome after) (holds : before.store.Holds good)
    (plain : step.seat.IsPlain) (seatPlain : seat.IsPlain) (other : step.seat ≠ seat)
    (ordered : step.moment.now ≤ now) (alike : before.Alike rules seat now right) :
    after.Alike rules seat now right := by
  obtain ⟨stocked, problems⟩ := turn.stocked
  obtain ⟨between, ages, same⟩ := turn.elsewhere alike.isLeft holds plain seatPlain other
  refine ⟨stocked, alike.isRight, problems.trans alike.problems, ?_⟩
  rw [Store.get?_live stocked.keyed, same, ← Store.get?_live ages.stocked.keyed,
    ages.get?_live alike.isLeft (fun _ => isLive_earlier ordered) seat.key_ne_poolKey, alike.entry]

end

section

variable [DepthLimit] {rules : Rules} {start : Session} {steps : List Step} {seat : Seat}

/-- Whatever is played, each text in the store is a game at its own key. -/
theorem playAll_holds (stocked : start.IsStocked) (holds : start.store.Holds Game.IsStorable) :
    (playAll rules start steps).session.IsStocked ∧
      (playAll rules start steps).session.store.Holds Game.IsStorable := by
  apply @playAll_keeps _ rules start steps fun run => run.session.IsStocked ∧ run.session.store.Holds Game.IsStorable
  · exact ⟨stocked, holds⟩
  · rintro run step _ ⟨stocked, holds⟩
    have turn := step.turn rules stocked
    refine ⟨turn.stocked.1, turn.holds stocked holds (fun _ => id) ?_ ?_⟩
    · intro mode problems _ _ _ _ storable
      exact storable
    · intro game attempt _ _ settles unfinished
      exact settles unfinished

theorem playAll_alike (stocked : start.IsStocked) (holds : start.store.Holds Game.IsStorable)
    (plain : ∀ step ∈ steps, step.seat.IsPlain) (seatPlain : seat.IsPlain)
    (ordered : (steps.map fun step => step.moment.now).Pairwise (· ≤ ·)) :
    let together := playAll rules start steps
    let alone := playAll rules start (steps.filter fun step => step.seat = seat)
    (together.events.filter fun event => event.step.seat = seat) = alone.events ∧
      ∀ now, (∀ step ∈ steps, step.moment.now ≤ now) → together.session.Alike rules seat now alone.session := by
  induction steps using List.reverseRecOn with
  | nil => exact ⟨rfl, fun now _ => .refl stocked⟩
  | append_singleton steps step ih =>
      rw [List.map_append, List.pairwise_append] at ordered
      obtain ⟨earlier, _, before⟩ := ordered
      obtain ⟨told, alike⟩ := ih (fun other member => plain other (by simp [member])) earlier
      have reached : ∀ other ∈ steps, other.moment.now ≤ step.moment.now :=
        fun other member => before _ (List.mem_map_of_mem member) _ (by simp)
      dsimp only
      rw [playAll_concat, List.filter_append]
      by_cases here : step.seat = seat
      · subst here
        rw [List.filter_cons_of_pos (by simp), List.filter_nil, playAll_concat]
        obtain ⟨same, later⟩ := perform_isPrivate step.play _ _ (alike step.moment.now reached)
        constructor
        · unfold Run.extend Step.run
          rw [List.filter_append, told, same, List.filter_cons_of_pos (by simp), List.filter_nil]
        · intro now reaches
          exact later.later (reaches step (by simp))
      · rw [List.filter_cons_of_neg (by simpa using here), List.filter_nil, List.append_nil]
        constructor
        · unfold Run.extend
          rw [List.filter_append, told, List.filter_cons_of_neg (by simpa using here), List.filter_nil,
            List.append_nil]
        · intro now reaches
          obtain ⟨isStocked, isHeld⟩ := @playAll_holds _ rules _ steps stocked holds
          exact (step.turn rules isStocked).alike isHeld (plain step (by simp)) seatPlain here
            (reaches step (by simp)) (alike now fun other member => reaches other (by simp [member]))

end

/-- Seats do not interfere. In a run of many seats, in which time never goes back, the steps of one seat give
what they give when that seat plays alone, and so does whatever the seat does next. -/
theorem seats_do_not_interfere [DepthLimit] (rules : Rules) (stored kept : List String) (asked : Nat)
    (steps : List Step) (plain : ∀ step ∈ steps, step.seat.IsPlain)
    (ordered : (steps.map fun step => step.moment.now).Pairwise (· ≤ ·)) (seat : Seat) (seatPlain : seat.IsPlain) :
    let together := playAll rules (Session.opening stored kept asked) steps
    let alone := playAll rules (Session.opening stored kept asked) (steps.filter fun step => step.seat = seat)
    (together.events.filter fun event => event.step.seat = seat) = alone.events ∧
      ∀ moment play, (∀ step ∈ steps, step.moment.now ≤ moment.now) →
        (Step.run rules ⟨moment, seat, play⟩ together.session).1 =
          (Step.run rules ⟨moment, seat, play⟩ alone.session).1 := by
  intro together alone
  obtain ⟨told, alike⟩ := @playAll_alike _ rules _ steps seat (opening_isStocked stored kept asked)
    (opening_holds stored kept asked _) plain seatPlain ordered
  refine ⟨told, ?_⟩
  intro moment play reaches
  exact (perform_isPrivate play _ _ (alike moment.now reaches)).1

section

attribute [local instance] DepthLimit.standard

theorem seats_do_not_interfere_of_two_players :
    let rules : Rules := ⟨⟨[1], 1, 60, 10⟩, fun _ => false⟩
    let seat : Seat := ⟨"1", "2", "3"⟩
    let other : Seat := ⟨"1", "2", "4"⟩
    let start := Session.opening ["1234", "5678"] [] 0
    let together := playAll rules start
      [⟨⟨0.0, some [1], none⟩, seat, .create none⟩, ⟨⟨1.0, some [0], none⟩, other, .create none⟩]
    let alone := playAll rules start [⟨⟨0.0, some [1], none⟩, seat, .create none⟩]
    (together.session.store.text? seat.key).isSome = true ∧
      (together.session.store.text? other.key).isSome = true ∧
      (Step.run rules ⟨⟨59.0, none, none⟩, seat, .look⟩ together.session).1 =
        (Step.run rules ⟨⟨59.0, none, none⟩, seat, .look⟩ alone.session).1 := by
  intro rules seat other start together alone
  refine ⟨by decide +kernel, by decide +kernel, ?_⟩
  obtain ⟨_, looks⟩ := seats_do_not_interfere rules ["1234", "5678"] [] 0
    [⟨⟨0.0, some [1], none⟩, seat, .create none⟩, ⟨⟨1.0, some [0], none⟩, other, .create none⟩]
    (by
      intro step member
      simp only [List.mem_cons, List.not_mem_nil, or_false] at member
      rcases member with rfl | rfl <;> exact ⟨by decide, by decide, by decide⟩)
    (by decide +kernel) seat ⟨by decide, by decide, by decide⟩
  refine looks ⟨59.0, none, none⟩ .look ?_
  intro step member
  simp only [List.mem_cons, List.not_mem_nil, or_false] at member
  rcases member with rfl | rfl <;> decide +kernel

end

end TenPuzzle
