import TenPuzzle.Proofs.Game.Standing
import TenPuzzle.Proofs.Number.Coarse

/-!
Clocks. A game is found only before its deadline, and a deadline never leads from far in the past to far in the
future; so the time that a running game has taken is always finite.
-/

namespace TenPuzzle

open Number

/-- The last save is no later than the start, or neither is far off on its own side. -/
def IsTimely (start saved : Float) : Prop :=
  ∃ begun last, exactValue start = some begun ∧ exactValue saved = some last ∧
    (last ≤ begun ∨ -coarseBound ≤ begun ∧ last ≤ coarseBound)

theorem isTimely_refl {now : Float} (finite : now.isFinite = true) : IsTimely now now := by
  obtain ⟨exact, isNow⟩ := exactValue_of_isFinite finite
  exact ⟨exact, exact, isNow, isNow, .inl le_rfl⟩

theorem exactValue_lifetime {rules : Rules} (positive : 1 ≤ rules.settings.lifetime)
    (bounded : rules.settings.lifetime < 2 ^ 53) :
    exactValue (Float.ofInt rules.settings.lifetime) = some (rules.settings.lifetime : ℚ) := by
  obtain ⟨seconds, isLifetime⟩ := Int.eq_ofNat_of_zero_le (by omega : 0 ≤ rules.settings.lifetime)
  rw [isLifetime] at bounded ⊢
  exact (isNearest_ofNat seconds).exact (by exact_mod_cast bounded)

section

variable {rules : Rules} {start saved now : Float}

/-- A clock that has not reached the deadline keeps the time of a game in order. -/
theorem IsTimely.next (timely : IsTimely start saved) (finite : now.isFinite = true)
    (positive : 1 ≤ rules.settings.lifetime) (bounded : rules.settings.lifetime < 2 ^ 53)
    (lives : ¬rules.deadline saved ≤ now) : IsTimely start now := by
  obtain ⟨begun, last, isStart, isSaved, within⟩ := timely
  obtain ⟨exact, isNow⟩ := exactValue_of_isFinite finite
  have isLifetime := exactValue_lifetime positive bounded
  have nonneg : (0 : ℚ) ≤ rules.settings.lifetime := by exact_mod_cast (by omega : 0 ≤ rules.settings.lifetime)
  have moderate : (rules.settings.lifetime : ℚ) ≤ 2 ^ (53 : ℤ) := by exact_mod_cast bounded.le
  have wider : (2 : ℚ) ^ (53 : ℤ) ≤ 2 ^ 65 := by norm_num
  obtain ⟨deadline, isDeadline, rounds⟩ :=
    exactValue_add_moderate isSaved isLifetime (by rw [abs_of_nonneg nonneg]; exact moderate.trans wider)
  have before : exact < deadline := by
    rw [← not_le]
    exact mt (le_iff_exactValue isDeadline isNow).mpr lives
  refine ⟨begun, exact, isStart, isNow, ?_⟩
  rcases within with early | ⟨notEarly, notLate⟩
  · by_cases coarse : coarseBound ≤ |begun|
    · exact .inl (before.le.trans (rounds.le_of_coarse_double isStart coarse early moderate))
    · obtain ⟨low, high⟩ := abs_lt.mp (not_le.mp coarse)
      exact .inr ⟨low.le, before.le.trans (rounds.le_coarseBound (early.trans high.le) moderate)⟩
  · exact .inr ⟨notEarly, before.le.trans (rounds.le_coarseBound notLate moderate)⟩

theorem IsTimely.sub_isFinite (timely : IsTimely start now) (passes : 0.0 < now - start) :
    ∃ exact, exactValue (now - start) = some exact ∧ 0 ≤ exact := by
  obtain ⟨begun, last, isStart, isNow, within⟩ := timely
  have nearest := isNearest_sub isNow isStart
  have passed := pos_of_isNearest nearest passes
  obtain ⟨rounded, rounds, finite, _⟩ := nearest
  refine ⟨rounded, finite (rounds.abs_lt ?_), rounds.nonneg passed.le⟩
  obtain ⟨notEarly, notLate⟩ := within.resolve_left (by linarith)
  have most : last - begun ≤ coarseBound + coarseBound := by linarith
  have top : (2 : ℚ) ^ 1024 = 2 ^ (1023 : ℤ) * 2 := by
    rw [← zpow_natCast, ← zpow_add_one₀ two_ne_zero]
    rfl
  have room : coarseBound + coarseBound ≤ 2 ^ (1023 : ℤ) := by
    have least : (2 : ℚ) ^ (111 : ℤ) ≤ 2 ^ (1023 : ℤ) := two_zpow_le.mpr (by decide)
    refine le_of_eq_of_le ?_ least
    norm_num [coarseBound]
  have half : (2 : ℚ) ^ (971 : ℤ) / 2 < 2 ^ (1023 : ℤ) := by
    rw [two_zpow_half]
    exact two_zpow_lt.mpr (by decide)
  rw [abs_of_pos passed, top]
  generalize (2 : ℚ) ^ (1023 : ℤ) = large at room half ⊢
  generalize (2 : ℚ) ^ (971 : ℤ) / 2 = unit at half ⊢
  linarith

end

def Game.IsTimely (game : Game) (saved : Float) : Prop :=
  TenPuzzle.IsTimely game.startTime.toFloat saved

/-- The time that a game has taken, or took to its end at this moment, is finite. -/
theorem Game.IsTimely.elapsed {game : Game} {now : Float} (timely : game.IsTimely now)
    (ends : ∀ time ∈ game.endTime, time = .real now) :
    ∃ exact, exactValue (game.elapsed now) = some exact ∧ 0 ≤ exact := by
  have last : (game.endTime.map Quantity.toFloat).getD now = now := by
    cases ended : game.endTime with
    | none => rfl
    | some time =>
        rw [ends time ended]
        rfl
  unfold Game.elapsed
  rw [last]
  dsimp only
  split
  · next passes => exact TenPuzzle.IsTimely.sub_isFinite timely passes
  · exact ⟨0, by decide +kernel, le_rfl⟩

end TenPuzzle
