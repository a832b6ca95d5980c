import Mathlib.Data.List.Sort
import Mathlib.Data.String.Basic
import TenPuzzle.Text.Order

/-!
Sorted texts. What is sorted has each text once, in order, so it depends on which texts there are and on nothing else.
-/

namespace TenPuzzle.Text

theorem mem_insertSorted {text other : String} {texts : List String} :
    other ∈ insertSorted text texts ↔ other = text ∨ other ∈ texts := by
  induction texts with
  | nil => simp [insertSorted]
  | cons first rest ih =>
      unfold insertSorted
      split
      · simp
      · split
        · next same => simp [same]
        · simp only [List.mem_cons, ih]
          tauto

theorem insertSorted_pairwise {text : String} {texts : List String} (sorted : texts.Pairwise (· < ·)) :
    (insertSorted text texts).Pairwise (· < ·) := by
  induction texts with
  | nil => simp [insertSorted]
  | cons first rest ih =>
      obtain ⟨least, rest_sorted⟩ := List.pairwise_cons.mp sorted
      unfold insertSorted
      split
      · next less =>
          refine List.pairwise_cons.mpr ⟨?_, sorted⟩
          intro other member
          rcases List.mem_cons.mp member with rfl | member
          · exact less
          · exact less.trans (least other member)
      · next notLess =>
          split
          · exact sorted
          · next different =>
              refine List.pairwise_cons.mpr ⟨?_, ih rest_sorted⟩
              intro other member
              rcases mem_insertSorted.mp member with rfl | member
              · exact lt_of_le_of_ne (not_lt.mp notLess) (Ne.symm different)
              · exact least other member

theorem sortedDistinct_pairwise (texts : List String) : (sortedDistinct texts).Pairwise (· < ·) := by
  induction texts with
  | nil => exact List.Pairwise.nil
  | cons text texts ih => exact insertSorted_pairwise ih

theorem sortedDistinct_nodup (texts : List String) : (sortedDistinct texts).Nodup :=
  (sortedDistinct_pairwise texts).imp fun less => less.ne

theorem mem_sortedDistinct {text : String} {texts : List String} : text ∈ sortedDistinct texts ↔ text ∈ texts := by
  induction texts with
  | nil => rfl
  | cons first rest ih => rw [List.mem_cons, ← ih]; exact mem_insertSorted

theorem sortedDistinct_congr {texts others : List String} (same : ∀ text, text ∈ texts ↔ text ∈ others) :
    sortedDistinct texts = sortedDistinct others :=
  (sortedDistinct_pairwise texts).eq_of_mem_iff (sortedDistinct_pairwise others) fun text =>
    mem_sortedDistinct.trans ((same text).trans mem_sortedDistinct.symm)

theorem sortedDistinct_of_sorted {texts : List String} (sorted : texts.Pairwise (· < ·)) :
    sortedDistinct texts = texts :=
  (sortedDistinct_pairwise texts).eq_of_mem_iff sorted fun _ => mem_sortedDistinct

theorem sortedDistinct_eq_nil {texts : List String} : sortedDistinct texts = [] ↔ texts = [] := by
  simp only [List.eq_nil_iff_forall_not_mem, mem_sortedDistinct]

end TenPuzzle.Text
