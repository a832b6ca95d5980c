import TenPuzzle.Proofs.Expression.Moves
import TenPuzzle.Settings.Reading

/-!
Settings that were loaded. Wherever they come from, the default mode is on offer and every mode asks for a problem.
-/

namespace TenPuzzle.Settings

structure IsPlayable (settings : Settings) : Prop where
  offered : settings.defaultMode ∈ settings.modes
  modes : ∀ mode ∈ settings.modes, 1 ≤ mode

theorem standard_isPlayable : standard.IsPlayable :=
  ⟨by decide, by decide⟩

theorem check_isPlayable {settings checked : Settings} (passes : check settings = .ok checked) :
    checked.IsPlayable := by
  unfold check at passes
  split at passes
  · split at passes <;> cases passes
  · next offered =>
      split at passes
      · cases passes
      · next full =>
          cases passes
          refine ⟨Decidable.not_not.mp offered, ?_⟩
          intro mode member
          apply Int.not_lt.mp
          intro below
          exact full (List.any_eq_true.mpr ⟨mode, member, decide_eq_true below⟩)

theorem ofText_isPlayable {text : String} {settings : Settings} (reads : ofText text = .ok settings) :
    settings.IsPlayable := by
  unfold ofText at reads
  split at reads
  · next document _ =>
      unfold ofDocument at reads
      split at reads
      · cases reads
        exact standard_isPlayable
      · split at reads
        · unfold ofEntries at reads
          obtain ⟨_, _, reads⟩ := bind_eq_ok reads
          obtain ⟨_, _, reads⟩ := bind_eq_ok reads
          obtain ⟨_, _, reads⟩ := bind_eq_ok reads
          obtain ⟨_, _, reads⟩ := bind_eq_ok reads
          exact check_isPlayable reads
        · cases reads
  · cases reads

theorem load_isPlayable {directory : Directory} {path : Option String} {settings : Settings}
    (loads : load directory path = .ok settings) : settings.IsPlayable := by
  unfold load at loads
  split at loads
  · cases loads
    exact standard_isPlayable
  · split at loads
    · exact ofText_isPlayable loads
    · cases loads

end TenPuzzle.Settings
