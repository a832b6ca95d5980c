import TenPuzzle.Proofs.Number.Order
import TenPuzzle.Store

/-!
Ranked boards. The ranking of a board has the lines of the board in another order, and while every score is
a number no score comes before a higher one.
-/

namespace TenPuzzle

theorem insertRanked_perm (line : String × Float) (board : List (String × Float)) :
    (insertRanked line board).Perm (line :: board) := by
  induction board with
  | nil => exact .refl _
  | cons first rest ih =>
      unfold insertRanked
      split
      · exact .refl _
      · exact (ih.cons first).trans (.swap line first rest)

theorem ranking_perm (board : List (String × Float)) : (ranking board).Perm board := by
  induction board with
  | nil => exact .refl _
  | cons line board ih => exact (insertRanked_perm line (ranking board)).trans (ih.cons line)

/-- Scores that go down from line to line, each of them a number. -/
def IsRanked (board : List (String × Float)) : Prop :=
  (∀ line ∈ board, (Number.place line.2).isSome = true) ∧ board.Pairwise fun left right => right.2 ≤ left.2

section

variable {left right line : String × Float} {board : List (String × Float)}

theorem le_of_ranksBefore (ranks : ranksBefore left right = true) : right.2 ≤ left.2 := by
  unfold ranksBefore at ranks
  rw [Bool.or_eq_true, decide_eq_true_eq, Bool.and_eq_true] at ranks
  rw [Number.le_iff_place]
  rcases ranks with less | ⟨same, _⟩
  · obtain ⟨low, high, isLow, isHigh, less⟩ := Number.lt_iff_place.mp less
    exact ⟨low, high, isLow, isHigh, less.le⟩
  · obtain ⟨place, isLeft, isRight⟩ := Number.beq_iff_place.mp same
    exact ⟨place, place, isRight, isLeft, le_refl place⟩

theorem le_of_not_ranksBefore (isLeft : (Number.place left.2).isSome = true)
    (isRight : (Number.place right.2).isSome = true) (ranks : ¬ranksBefore left right = true) :
    left.2 ≤ right.2 := by
  by_contra above
  apply ranks
  have less : right.2 < left.2 := (Number.lt_iff_not_le isRight isLeft).mpr above
  rw [ranksBefore, decide_eq_true less, Bool.true_or]

theorem IsRanked.insert (ranked : IsRanked board) (isNumber : (Number.place line.2).isSome = true) :
    IsRanked (insertRanked line board) := by
  obtain ⟨numbers, descends⟩ := ranked
  constructor
  · intro other member
    rcases List.mem_cons.mp ((insertRanked_perm line board).mem_iff.mp member) with rfl | isIn
    · exact isNumber
    · exact numbers other isIn
  · induction board with
    | nil => exact List.pairwise_singleton _ _
    | cons first rest ih =>
        obtain ⟨below, later⟩ := List.pairwise_cons.mp descends
        unfold insertRanked
        split
        · next ranks =>
            have under := le_of_ranksBefore ranks
            refine List.pairwise_cons.mpr ⟨?_, descends⟩
            intro other member
            rcases List.mem_cons.mp member with rfl | isIn
            · exact under
            · exact Number.le_trans_float (below other isIn) under
        · next ranks =>
            have isFirst := numbers first List.mem_cons_self
            refine List.pairwise_cons.mpr ⟨?_, ih (fun other isIn => numbers other (.tail _ isIn)) later⟩
            intro other member
            rcases List.mem_cons.mp ((insertRanked_perm line rest).mem_iff.mp member) with rfl | isIn
            · exact le_of_not_ranksBefore isNumber isFirst ranks
            · exact below other isIn

theorem ranking_isRanked (numbers : ∀ line ∈ board, (Number.place line.2).isSome = true) :
    IsRanked (ranking board) := by
  induction board with
  | nil => exact ⟨by simp [ranking], .nil⟩
  | cons line board ih =>
      have later := ih fun other member => numbers other (.tail _ member)
      exact later.insert (numbers line List.mem_cons_self)

end

theorem mem_leaders {store : Store} {key : String} {last : Int} {line : String × Float}
    (member : line ∈ store.leaders key last) : line ∈ store.boardOf key :=
  (ranking_perm _).mem_iff.mp (List.mem_of_mem_take member)

/-- As many leaders as there are lines are the whole ranking. -/
theorem leaders_all {store : Store} {key : String} {last : Int}
    (enough : ((store.boardOf key).length : Int) ≤ max 0 (last + 1)) :
    store.leaders key last = ranking (store.boardOf key) := by
  have length := (ranking_perm (store.boardOf key)).length_eq
  unfold Store.leaders
  dsimp only
  rw [List.take_of_length_le]
  split <;> omega

end TenPuzzle
