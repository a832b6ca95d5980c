import Mathlib.Data.List.Nodup
import Mathlib.Data.List.Perm.Subperm
import Mathlib.Data.String.Basic
import Mathlib.Tactic.IntervalCases
import TenPuzzle.Proofs.Number.Numeral
import TenPuzzle.Proofs.Solver.Completeness
import TenPuzzle.Proofs.Text.Order
import TenPuzzle.Sweep.Basic

/-!
The size of a pool. There are ten thousand problems, and neither the sweep nor a stored set has more of them.
-/

namespace TenPuzzle

/-! Texts of digits. -/

def digits : List Char := ['0', '1', '2', '3', '4', '5', '6', '7', '8', '9']

def digitTexts : Nat → List (List Char)
  | 0 => [[]]
  | count + 1 => digits.flatMap fun digit => (digitTexts count).map (digit :: ·)

theorem digitTexts_length (count : Nat) : (digitTexts count).length = 10 ^ count := by
  induction count with
  | zero => rfl
  | succ count ih =>
      rw [digitTexts, List.length_flatMap, Nat.pow_succ]
      simp only [digits, List.length_map, ih, List.map_cons, List.map_nil, List.sum_cons, List.sum_nil]
      omega

theorem mem_digits {digit : Char} (isDigit : digit.isDigit = true) : digit ∈ digits := by
  have bounds : 48 ≤ digit.toNat ∧ digit.toNat ≤ 57 := by
    simpa [Char.isDigit, UInt32.le_iff_toNat_le] using isDigit
  rw [← Char.ofNat_toNat digit]
  generalize digit.toNat = code at bounds
  obtain ⟨above, below⟩ := bounds
  interval_cases code <;> decide

theorem mem_digitTexts {text : List Char} (allDigits : ∀ digit ∈ text, digit.isDigit = true) :
    text ∈ digitTexts text.length := by
  induction text with
  | nil => exact List.mem_singleton.mpr rfl
  | cons digit text ih =>
      have rest := ih fun other member => allDigits other (by simp [member])
      exact List.mem_flatMap.mpr ⟨digit, mem_digits (allDigits digit (by simp)), List.mem_map_of_mem rest⟩

theorem problems_subperm {problems : List String} (distinct : problems.Nodup)
    (areProblems : ∀ problem ∈ problems, IsProblem problem) :
    (problems.map String.toList).Subperm (digitTexts 4) := by
  have apart : (problems.map String.toList).Nodup := distinct.map fun _ _ same => String.toList_inj.mp same
  apply apart.subperm
  intro text member
  obtain ⟨problem, isIn, rfl⟩ := List.mem_map.mp member
  obtain ⟨four, allDigits⟩ := areProblems problem isIn
  rw [← four]
  exact mem_digitTexts allDigits

theorem problems_length_le {problems : List String} (distinct : problems.Nodup)
    (areProblems : ∀ problem ∈ problems, IsProblem problem) : problems.length ≤ 10 ^ 4 := by
  have fewer := (problems_subperm distinct areProblems).length_le
  rwa [List.length_map, digitTexts_length] at fewer

/-! The sweep. -/

theorem problemAt_toList (index : Nat) :
    (problemAt index).toList = Number.padLeft 4 (Number.decimalDigits index) := by
  rw [problemAt, Number.padded, if_neg (by omega), Int.natAbs_natCast, String.toList_ofList]

theorem problemAt_isProblem {index : Nat} (below : index < problemCount) : IsProblem (problemAt index) := by
  have short : (Number.decimalDigits index).length ≤ 4 := (Number.decimalDigits_length_le (by decide)).mpr below
  constructor
  · rw [problemAt_toList, Number.padLeft, List.length_append, List.length_replicate]
    omega
  · rw [problemAt_toList]
    intro digit member
    rcases List.mem_append.mp member with isZero | isDigit
    · rw [List.eq_of_mem_replicate isZero]
      decide
    · exact Number.isDigit_of_mem_decimalDigits digit isDigit

theorem accepted_foldl (solvable : String → Bool) (indices : List Nat) (sweep : Sweep) :
    (indices.foldl (Sweep.advance solvable) sweep).accepted =
      ((indices.map problemAt).filter solvable).reverse ++ sweep.accepted := by
  induction indices generalizing sweep with
  | nil => rfl
  | cons index indices ih =>
      rw [List.foldl_cons, ih, List.map_cons, List.filter_cons]
      cases found : solvable (problemAt index) <;> simp [Sweep.advance, found]

theorem solvableProblems_eq (solvable : String → Bool) :
    solvableProblems solvable = ((List.range problemCount).map problemAt).filter solvable := by
  unfold solvableProblems Sweep.run
  rw [accepted_foldl, List.reverse_append, List.reverse_reverse]
  exact List.nil_append _

/-- The sweep finds problems, and no more than there are. -/
theorem solvableProblems_arePool (solvable : String → Bool) :
    (∀ problem ∈ solvableProblems solvable, IsProblem problem) ∧
      (solvableProblems solvable).length ≤ problemCount := by
  rw [solvableProblems_eq]
  constructor
  · intro problem member
    obtain ⟨index, isIndex, rfl⟩ := List.mem_map.mp (List.mem_filter.mp member).1
    exact problemAt_isProblem (List.mem_range.mp isIndex)
  · have fewer := List.length_filter_le solvable ((List.range problemCount).map problemAt)
    rwa [List.length_map, List.length_range] at fewer

end TenPuzzle
