import TenPuzzle.Proofs.Sweep.Order
import TenPuzzle.Sweep.Transcript

/-!
What a sweep does. It asks the solver about every problem once, in order, and reports on its way how many of those
asked so far were accepted.
-/

namespace TenPuzzle

/-- What can be seen of a sweep from outside. -/
inductive Probe where
  | asked (problem : String)
  | reported (progress : Progress)
  deriving DecidableEq, Repr

def Probe.record (probe : Probe) : StateM (List Probe) Unit :=
  modify (· ++ [probe])

def askRecorded (solvable : String → Bool) (problem : String) : StateM (List Probe) Bool := do
  Probe.record (.asked problem)
  return solvable problem

def reportRecorded (progress : Progress) : StateM (List Probe) Unit :=
  Probe.record (.reported progress)

/-- A sweep, and all that it did in order. -/
def Sweep.recorded (solvable : String → Bool) : Sweep × List Probe :=
  Id.run (StateT.run (Sweep.runWith (askRecorded solvable) reportRecorded) [])

def allProblems : List String :=
  (List.range problemCount).map problemAt

/-- What a sweep does at one problem, if it has accepted so many with this one. -/
def probesAt (index accepted : Nat) : List Probe :=
  .asked (problemAt index) :: if reportsAt index then [.reported ⟨index, accepted⟩] else []

/-- A sweep over the first so many problems. -/
def Sweep.upTo (solvable : String → Bool) (count : Nat) : Sweep :=
  (List.range count).foldl (Sweep.advance solvable) .start

section

variable {solvable : String → Bool} {index : Nat} {trace : List Probe}

/-! One step. -/

theorem advanceWith_recorded (sweep : Sweep) :
    StateT.run (sweep.advanceWith (askRecorded solvable) reportRecorded index) trace =
      (pure (sweep.advance solvable index, trace ++ probesAt index (sweep.advance solvable index).count) : Id _) := by
  have same : sweep.advance (fun _ => solvable (problemAt index)) index = sweep.advance solvable index := rfl
  unfold Sweep.advanceWith probesAt
  by_cases reports : reportsAt index = true
  · simp [askRecorded, reportRecorded, Probe.record, reports, same]
  · simp [askRecorded, Probe.record, reports, same]

theorem advance_count (sweep : Sweep) :
    (sweep.advance solvable index).count = sweep.count + [problemAt index].countP solvable := by
  cases found : solvable (problemAt index) <;> simp [Sweep.advance, found]

/-! A run. -/

theorem upTo_succ (count : Nat) :
    Sweep.upTo solvable (count + 1) = (Sweep.upTo solvable count).advance solvable count := by
  rw [Sweep.upTo, List.range_succ, List.foldl_concat, Sweep.upTo]

theorem upTo_count (count : Nat) :
    (Sweep.upTo solvable count).count = ((List.range count).map problemAt).countP solvable := by
  induction count with
  | zero => rfl
  | succ count ih =>
      rw [upTo_succ, advance_count, ih, List.range_succ, List.map_append, List.countP_append, List.map_singleton]

/-- What is done at each problem follows what was done at the problems before it. -/
theorem foldlM_recorded (count : Nat) :
    StateT.run ((List.range count).foldlM (Sweep.advanceWith (askRecorded solvable) reportRecorded) .start) [] =
      (pure (Sweep.upTo solvable count, (List.range count).flatMap fun index =>
        probesAt index (Sweep.upTo solvable (index + 1)).count) : Id _) := by
  induction count with
  | zero => rfl
  | succ count ih =>
      rw [List.range_succ, List.foldlM_append, StateT.run_bind, ih, pure_bind, List.foldlM_cons, StateT.run_bind,
        advanceWith_recorded, pure_bind, List.foldlM_nil, StateT.run_pure, List.flatMap_append, List.flatMap_singleton,
        ← upTo_succ]

theorem recorded_eq (solvable : String → Bool) :
    Sweep.recorded solvable = (Sweep.run solvable, (List.range problemCount).flatMap fun index =>
      probesAt index (Sweep.upTo solvable (index + 1)).count) := by
  rw [Sweep.recorded, Sweep.runWith, foldlM_recorded]
  rfl

/-! The problems. -/

theorem value_problemAt (index : Nat) : Number.valueOfDigits (problemAt index).toList = index := by
  rw [problemAt_toList, Number.padLeft, Number.valueOfDigits_append, Number.valueOfDigits_zeros, Nat.zero_mul,
    Nat.zero_add, Number.valueOfDigits_decimalDigits]

theorem values_allProblems :
    allProblems.map (fun problem => Number.valueOfDigits problem.toList) = List.range problemCount := by
  rw [allProblems, List.map_map]
  exact (List.map_congr_left fun index _ => value_problemAt index).trans (List.map_id _)

/-- There are as many texts of four digits as problems that the sweep asks for. -/
theorem mem_allProblems {text : String} : text ∈ allProblems ↔ IsProblem text := by
  have areProblems : ∀ problem ∈ allProblems, IsProblem problem := by
    intro problem member
    obtain ⟨index, isIndex, rfl⟩ := List.mem_map.mp member
    exact problemAt_isProblem (List.mem_range.mp isIndex)
  refine ⟨areProblems text, ?_⟩
  rintro ⟨four, allDigits⟩
  have distinct : allProblems.Nodup := .of_map _ (values_allProblems ▸ List.nodup_range)
  have enough : (digitTexts 4).length ≤ (allProblems.map String.toList).length := by
    rw [digitTexts_length, List.length_map, allProblems, List.length_map, List.length_range]
    exact Nat.le_refl problemCount
  have all := (problems_subperm distinct areProblems).perm_of_length_le enough
  have isText : text.toList ∈ digitTexts 4 := four ▸ mem_digitTexts allDigits
  obtain ⟨problem, isIn, same⟩ := List.mem_map.mp (all.mem_iff.mpr isText)
  exact String.toList_inj.mp same ▸ isIn

theorem take_allProblems (below : index < problemCount) :
    allProblems.take (index + 1) = (List.range (index + 1)).map problemAt := by
  rw [allProblems, ← List.map_take, List.take_range, Nat.min_eq_left below]

/-! Reports. -/

theorem reportsAt_iff : reportsAt index = true ↔ index % 100 = 0 ∨ index = 9999 := by
  rw [reportsAt, Bool.or_eq_true, decide_eq_true_iff, decide_eq_true_iff, problemCount]
  omega

theorem sweepSummary_counts (problems : List String) :
    ∃ before after, sweepSummary problems =
      before ++ "\n" ++ s!"Solvable patterns found: {problems.length}" ++ "\n" ++ after := by
  refine ⟨"\n".intercalate ["", "", "Verification complete!", s!"Total patterns checked: {problemCount}"],
    "\n".intercalate ["", "// JavaScript array format:", problemListing problems, ""], ?_⟩
  rw [sweepSummary]
  simp only [String.intercalate_cons_cons, String.intercalate_singleton, String.append_assoc]

end

/-- A sweep does exactly what it should. It asks about every text of four digits once, in the order of their values,
and right after every hundredth problem and after the last one it reports how many of the problems so far were
accepted. What it gives are the accepted ones in strictly increasing order. So the last report has their number, which
is the number that is printed. -/
theorem sweep_is_exact (solvable : String → Bool) :
    Sweep.recorded solvable = (Sweep.run solvable, (List.range problemCount).flatMap fun index =>
      .asked (problemAt index) ::
        if index % 100 = 0 ∨ index = 9999 then [.reported ⟨index, (allProblems.take (index + 1)).countP solvable⟩]
        else []) ∧
    allProblems.map (fun problem => Number.valueOfDigits problem.toList) = List.range problemCount ∧
    (∀ text, text ∈ allProblems ↔ IsProblem text) ∧
    solvableProblems solvable = allProblems.filter solvable ∧ (solvableProblems solvable).Pairwise (· < ·) ∧
    (Sweep.recorded solvable).2.getLast? = some (.reported ⟨9999, (solvableProblems solvable).length⟩) ∧
    ∃ before after, (Sweep.run solvable).transcript =
      before ++ "\n" ++ s!"Solvable patterns found: {(solvableProblems solvable).length}" ++ "\n" ++ after := by
  rw [recorded_eq]
  refine ⟨?_, values_allProblems, fun text => mem_allProblems, solvableProblems_eq solvable,
    solvableProblems_sorted solvable, ?_, ?_⟩
  · refine congrArg (Prod.mk (Sweep.run solvable)) (List.flatMap_congr ?_)
    intro index isIndex
    rw [upTo_count, ← take_allProblems (List.mem_range.mp isIndex), probesAt]
    simp only [reportsAt_iff]
  · have last : problemCount = 9999 + 1 := rfl
    have reports : reportsAt 9999 = true := rfl
    have total : (Sweep.upTo solvable (9999 + 1)).count = (solvableProblems solvable).length := by
      rw [solvableProblems_eq, upTo_count, List.countP_eq_length_filter, last]
    rw [last, List.range_succ, List.flatMap_append, List.flatMap_singleton, probesAt, if_pos reports, total,
      List.getLast?_append]
    rfl
  · obtain ⟨before, after, counts⟩ := sweepSummary_counts (solvableProblems solvable)
    refine ⟨sweepHeading ++ String.join ((Sweep.run solvable).reports.reverse.map Progress.text) ++ before, after, ?_⟩
    rw [Sweep.transcript, ← solvableProblems, counts]
    simp only [String.append_assoc]

end TenPuzzle
