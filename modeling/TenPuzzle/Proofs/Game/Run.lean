import TenPuzzle.Proofs.Game.Turn

/-!
Runs: steps one after the other, with what each of them gave.
-/

namespace TenPuzzle

/-- A session in which nobody has played yet. The pool may stand in the store, in memory, or in neither. -/
def Session.opening (stored kept : List String) (asked : Nat) : Session :=
  ⟨Store.empty.addMembers poolKey stored, kept, asked⟩

structure Occurrence where
  step : Step
  outcome : Except GameFault Outcome

structure Run where
  events : List Occurrence
  session : Session

def Run.extend [DepthLimit] (rules : Rules) (run : Run) (step : Step) : Run :=
  ⟨run.events ++ [⟨step, (step.run rules run.session).1⟩], (step.run rules run.session).2⟩

def playAll [DepthLimit] (rules : Rules) (start : Session) (steps : List Step) : Run :=
  steps.foldl (Run.extend rules) ⟨[], start⟩

section

variable [DepthLimit] {rules : Rules} {start : Session} {steps : List Step}

theorem playAll_concat (step : Step) :
    playAll rules start (steps ++ [step]) = (playAll rules start steps).extend rules step :=
  List.foldl_concat _ _ _ _

theorem playAll_steps : (playAll rules start steps).events.map Occurrence.step = steps := by
  induction steps using List.reverseRecOn with
  | nil => rfl
  | append_singleton steps step ih =>
      rw [playAll_concat, Run.extend, List.map_append, ih]
      rfl

theorem playAll_keeps {invariant : Run → Prop} (begins : invariant ⟨[], start⟩)
    (continues : ∀ run, ∀ step ∈ steps, invariant run → invariant (run.extend rules step)) :
    invariant (playAll rules start steps) := by
  induction steps using List.reverseRecOn with
  | nil => exact begins
  | append_singleton steps step ih =>
      rw [playAll_concat]
      apply continues _ step (by simp)
      exact ih fun run other member => continues run other (by simp [member])

end

theorem get?_opening {stored kept : List String} {asked : Nat} {key : String} (other : key ≠ poolKey) :
    (Session.opening stored kept asked).store.get? key = none :=
  Store.get?_addMembers_of_ne other stored .empty

theorem opening_isStocked (stored kept : List String) (asked : Nat) :
    (Session.opening stored kept asked).IsStocked where
  keyed := Store.isKeyed_empty.addMembers poolKey stored
  lasting _ found := Store.members_of_addMembers rfl found

theorem opening_problems (stored kept : List String) (asked : Nat) :
    (Session.opening stored kept asked).store.problems = Text.sortedDistinct stored :=
  Store.problems_addMembers rfl stored

/-- At the opening there is nothing in the store but a pool. -/
theorem opening_every {fits : String → Entry → Prop} (pool : ∀ texts, fits poolKey ⟨.members texts, none⟩)
    (stored kept : List String) (asked : Nat) : (Session.opening stored kept asked).store.Every fits := by
  intro key entry found
  by_cases isPool : key = poolKey
  · subst isPool
    obtain ⟨texts, rfl⟩ := (opening_isStocked stored kept asked).lasting entry found
    exact pool texts
  · rw [get?_opening isPool] at found
    cases found

end TenPuzzle
