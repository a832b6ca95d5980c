import TenPuzzle.Proofs.Sweep.Size

/-!
The order of a pool. The sweep goes through the problems in the order of their texts, so that a set of texts, once it
is sorted, gives back the list that the sweep made.
-/

namespace TenPuzzle

/-! Digits behind zeros. -/

namespace Number

theorem append_lt_append {left right : List Char} (less : left < right) (same : left.length = right.length)
    (after later : List Char) : left ++ after < right ++ later := by
  induction left generalizing right with
  | nil =>
      cases right with
      | nil => cases less
      | cons first right => cases same
  | cons first left ih =>
      cases right with
      | nil => cases same
      | cons second right =>
          rw [List.cons_append, List.cons_append, List.cons_lt_cons_iff]
          rcases List.cons_lt_cons_iff.mp less with smaller | ⟨equal, rest⟩
          · exact .inl smaller
          · exact .inr ⟨equal, ih rest (Nat.succ.inj same)⟩

theorem digitChar_lt {left right : Nat} (less : left < right) (below : right < 10) :
    left.digitChar < right.digitChar := by
  interval_cases right <;> interval_cases left <;> decide

theorem padLeft_length {width value : Nat} (positive : 0 < width) (below : value < 10 ^ width) :
    (padLeft width (decimalDigits value)).length = width := by
  have short := (decimalDigits_length_le positive).mpr below
  rw [padLeft, List.length_append, List.length_replicate]
  omega

/-- The last digit apart from those before it. -/
theorem padLeft_succ {width : Nat} (positive : 0 < width) (value : Nat) :
    padLeft (width + 1) (decimalDigits value) =
      padLeft width (decimalDigits (value / 10)) ++ [(value % 10).digitChar] := by
  unfold padLeft decimalDigits
  by_cases small : value < 10
  · have zeros : List.replicate (width - 1) '0' ++ ['0'] = List.replicate width '0' := by
      rw [← List.replicate_succ', Nat.sub_add_cancel positive]
    rw [Nat.toDigits_of_lt_base small, Nat.div_eq_of_lt small, Nat.mod_eq_of_lt small, Nat.toDigits_zero]
    simp only [List.length_singleton, Nat.add_sub_cancel]
    rw [zeros]
  · rw [Nat.toDigits_of_base_le (by decide) (by omega), List.length_append, List.length_singleton,
      Nat.add_sub_add_right, List.append_assoc]

theorem padLeft_lt {width left right : Nat} (less : left < right) (below : right < 10 ^ (width + 1)) :
    padLeft (width + 1) (decimalDigits left) < padLeft (width + 1) (decimalDigits right) := by
  induction width generalizing left right with
  | zero =>
      have single {value : Nat} (small : value < 10) : padLeft 1 (decimalDigits value) = [value.digitChar] := by
        rw [padLeft, decimalDigits, Nat.toDigits_of_lt_base small]
        rfl
      rw [single (by omega), single below]
      exact List.cons_lt_cons_iff.mpr (.inl (digitChar_lt less below))
  | succ width ih =>
      have within : right / 10 < 10 ^ (width + 1) := Nat.div_lt_of_lt_mul (by rwa [Nat.pow_succ'] at below)
      rw [padLeft_succ width.succ_pos left, padLeft_succ width.succ_pos right]
      by_cases same : left / 10 = right / 10
      · rw [same]
        apply List.append_left_lt
        exact List.cons_lt_cons_iff.mpr (.inl (digitChar_lt (by omega) (by omega)))
      · have smaller : left / 10 < right / 10 := by omega
        apply append_lt_append (ih smaller within)
        rw [padLeft_length width.succ_pos (smaller.trans within), padLeft_length width.succ_pos within]

end Number

/-! The sweep. -/

theorem problemAt_lt {left right : Nat} (less : left < right) (below : right < problemCount) :
    problemAt left < problemAt right := by
  rw [String.lt_iff_toList_lt, problemAt_toList, problemAt_toList]
  exact Number.padLeft_lt less below

theorem solvableProblems_sorted (solvable : String → Bool) : (solvableProblems solvable).Pairwise (· < ·) := by
  rw [solvableProblems_eq]
  apply List.Pairwise.filter
  rw [List.pairwise_map]
  apply List.pairwise_lt_range.imp_of_mem
  intro left right _ isIndex less
  exact problemAt_lt less (List.mem_range.mp isIndex)

end TenPuzzle
