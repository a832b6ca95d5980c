import TenPuzzle.Proofs.Game.Request

/-!
Failures. A request that fails leaves every game and every leaderboard as it was, but for what has expired. The
one thing it may have written is the pool, and only if a game was to start and there was none.
-/

namespace TenPuzzle

/-- The entry at a key is as before, or its time was over and it is gone. -/
def Store.Keeps (now : Float) (key : String) (before after : Store) : Prop :=
  after.get? key = before.get? key ∨
    (∃ entry, before.get? key = some entry ∧ entry.isLive now = false) ∧ after.get? key = none

/-- The pool was neither in memory nor in the store, and now the store has it from a sweep. -/
structure Session.Sweeps (rules : Rules) (before after : Session) : Prop where
  noPool : before.pool = []
  noStored : before.store.membersOf poolKey = []
  swept : after.store.get? poolKey = (Store.empty.addMembers poolKey (solvableProblems rules.solvable)).get? poolKey

section

variable {rules : Rules} {seat : Seat} {moment : Moment} {session later : Session} {fault : GameFault}

theorem Session.IsStocked.supplied_pool (stocked : session.IsStocked) (rules : Rules) (now : Float) :
    (session.supplied rules now).store.get? poolKey = session.store.get? poolKey ∨
      session.Sweeps rules (session.supplied rules now) := by
  unfold Session.supplied
  dsimp only
  split
  · exact .inl rfl
  · next forgotten =>
      split
      · next noStored =>
          rw [problems_live stocked, List.isEmpty_iff] at noStored
          refine .inr ⟨by simpa using forgotten, Store.problems_eq_nil.mp noStored, ?_⟩
          generalize solvableProblems rules.solvable = swept
          exact Store.addMembers_congr (Store.get?_erase_self poolKey _) swept
      · exact .inl (get?_live_pool stocked now)

/-- A look at the store does not change the pool. -/
theorem Session.IsStocked.purged_pool (stocked : session.IsStocked) (moment : Moment) :
    (session.purged moment).pool = session.pool ∧
      (session.purged moment).store.get? poolKey = session.store.get? poolKey := by
  unfold Session.purged
  split
  · exact ⟨rfl, rfl⟩
  · exact ⟨rfl, get?_live_pool stocked moment.now⟩

/-- A game fails to start before anything is looked up, after a look for another game, or after a draw. -/
theorem createGame_error {mode : Option Int} (stocked : session.IsStocked)
    (fails : createGame rules seat mode moment session = (.error fault, later)) :
    later = session ∨ later = session.purged moment ∨
      moment.outage = none ∧ later = (session.purged moment).supplied rules moment.now := by
  rcases createGame_cases rules seat mode moment stocked with
    ⟨_, _, refuses, kept⟩ | ⟨_, _, _, _, _, _, _, _, starts⟩
  · rw [fails] at refuses
    cases refuses
    exact kept
  · rw [fails] at starts
    cases starts

theorem error_of_map {α β : Type} {action : Action α} (wrap : α → β)
    (fails : (do return wrap (← action)) moment session = (.error fault, later)) :
    action moment session = (.error fault, later) := by
  cases performed : action moment session with
  | mk result between =>
      cases result with
      | error other =>
          rw [bind_of_error performed] at fails
          cases fails
          rfl
      | ok value =>
          rw [bind_of_ok performed] at fails
          cases fails

theorem cancelGame_error (fails : cancelGame seat moment session = (.error fault, later)) :
    later = session.purged moment := by
  have looks := activeGame_session seat moment session
  cases finds : activeGame seat moment session with
  | mk found between =>
      rw [finds] at looks
      dsimp only at looks
      subst looks
      unfold cancelGame at fails
      cases found with
      | error other =>
          rw [bind_of_error finds] at fails
          exact (Prod.mk.inj fails).2.symm
      | ok game =>
          rw [bind_of_ok finds] at fails
          cases game with
          | none => cases fails
          | some game =>
              dsimp only at fails
              rw [deleteGame, bind_of_ok (write_eq (reachable_of_activeGame finds) _ _)] at fails
              cases fails

theorem passProblem_error [DepthLimit] (fails : passProblem rules seat moment session = (.error fault, later)) :
    later = session.purged moment := by
  rcases passProblem_cases rules seat moment session with
    ⟨_, leaves⟩ | ⟨game, digits, solution, finds, _, _, reveals, settles⟩
  · rw [fails] at leaves
    exact (Prod.mk.inj leaves).2
  · rw [passProblem_recorded finds reveals settles] at fails
    cases fails

/-- A move fails before its first write. -/
theorem Step.run_error [DepthLimit] {play : Play} (stocked : session.IsStocked)
    (fails : Step.run rules ⟨moment, seat, play⟩ session = (.error fault, later)) :
    later = session ∨ later = session.purged moment ∨
      (∃ mode, play = .create mode) ∧ moment.outage = none ∧
        later = (session.purged moment).supplied rules moment.now := by
  cases play with
  | create mode =>
      rcases createGame_error stocked (error_of_map _ fails) with same | purged | ⟨reachable, supplied⟩
      · exact .inl same
      · exact .inr (.inl purged)
      · exact .inr (.inr ⟨⟨mode, rfl⟩, reachable, supplied⟩)
  | answer expression => exact .inr (.inl (submitAnswer_error (error_of_map _ fails)))
  | pass => exact .inr (.inl (passProblem_error (error_of_map _ fails)))
  | look =>
      have finds := error_of_map _ fails
      have looks := activeGame_session seat moment session
      rw [finds] at looks
      exact .inr (.inl looks)
  | cancel => exact .inr (.inl (cancelGame_error (error_of_map _ fails)))

theorem Call.run_error [DepthLimit] {request : Request} (stocked : session.IsStocked)
    (fails : Call.run rules ⟨moment, request⟩ session = (.error fault, later)) :
    later = session ∨ later = session.purged moment ∨
      (∃ seat mode, request = .move seat (.create mode)) ∧ moment.outage = none ∧
        later = (session.purged moment).supplied rules moment.now := by
  cases request with
  | move seat play =>
      rcases Step.run_error stocked (error_of_map (fun _ => ()) fails) with same | purged | ⟨⟨mode, creates⟩, supplied⟩
      · exact .inl same
      · exact .inr (.inl purged)
      · exact .inr (.inr ⟨⟨seat, mode, by rw [creates]⟩, supplied⟩)
  | rank server limit =>
      have looks := leaderboard_session rules server limit moment session
      rw [error_of_map (fun _ => ()) fails] at looks
      exact .inr (.inl looks)
  | stock =>
      have ensures := error_of_map (fun _ => ()) fails
      cases outage : moment.outage with
      | some reason =>
          have looks := @ensureProblems_unreachable rules moment _ outage session
          rw [ensures] at looks
          exact .inl looks
      | none =>
          rw [ensureProblems_eq rules outage] at ensures
          cases ensures

end

/-- A request that fails, since it is refused or the store is out of reach for all of it, leaves every game and every
leaderboard with its expiry, if that was not over. The pool stays too, unless a game was to start and there was no
pool: then the sweep may have filled it. -/
theorem failure_changes_nothing [DepthLimit] (rules : Rules) (stored kept : List String) (asked : Nat)
    (calls : List Call) (call : Call) (fault : GameFault) (later : Session)
    (fails : call.run rules (callAll rules (Session.opening stored kept asked) calls) = (.error fault, later)) :
    let before := callAll rules (Session.opening stored kept asked) calls
    (∀ key, key ≠ poolKey → Store.Keeps call.moment.now key before.store later.store) ∧
      (later.store.get? poolKey = before.store.get? poolKey ∨
        (∃ seat mode, call.request = .move seat (.create mode)) ∧ before.Sweeps rules later) := by
  intro before
  have stocked : before.IsStocked := callAll_isStocked (opening_isStocked stored kept asked)
  have aged := stocked.purged rules call.moment
  obtain ⟨sameKept, sameStored⟩ := stocked.purged_pool call.moment
  rcases Call.run_error stocked fails with rfl | rfl | ⟨creates, reachable, rfl⟩
  · exact ⟨fun key _ => .inl rfl, .inl rfl⟩
  · exact ⟨aged.kept, .inl sameStored⟩
  · have supplies := (aged.stocked.supplied rules call.moment.now).2
    refine ⟨(aged.trans supplies).kept, ?_⟩
    rcases aged.stocked.supplied_pool rules call.moment.now with same | sweeps
    · exact .inl (same.trans sameStored)
    · have noStored := sweeps.noStored
      rw [Store.membersOf_congr sameStored] at noStored
      exact .inr ⟨creates, sameKept.symm.trans sweeps.noPool, noStored, sweeps.swept⟩

section

attribute [local instance] DepthLimit.standard

theorem failure_changes_nothing_of_malformed_answer :
    let rules : Rules := ⟨⟨[1], 1, 60, 10⟩, fun _ => false⟩
    let seat : Seat := ⟨"1", "2", "3"⟩
    let calls : List Call := [⟨⟨0.0, some [1], none⟩, .move seat (.create none)⟩]
    let before := callAll rules (Session.opening [] ["1234", "5678"] 0) calls
    let call : Call := ⟨⟨5.0, none, none⟩, .move seat (.answer "5+".toList)⟩
    (before.store.text? seat.key).isSome = true ∧ (call.run rules before).1.isOk = false ∧
      Store.Keeps 5.0 seat.key before.store (call.run rules before).2.store := by
  intro rules seat calls before call
  have fails : (call.run rules before).1.isOk = false := by decide +kernel
  refine ⟨by decide +kernel, fails, ?_⟩
  cases result : call.run rules before with
  | mk outcome later =>
      cases outcome with
      | error fault =>
          obtain ⟨kept, _⟩ := failure_changes_nothing rules [] ["1234", "5678"] 0 calls call fault later result
          exact kept seat.key seat.key_ne_poolKey
      | ok value =>
          rw [result] at fails
          cases fails

end

end TenPuzzle
