import Mathlib.Data.String.Basic

/-!
Characters that do not occur in a text.
-/

namespace TenPuzzle

structure Lacks (character : Char) (text : String) : Prop where
  absent : character ∉ text.toList

instance (character : Char) (text : String) : Decidable (Lacks character text) :=
  decidable_of_iff (character ∉ text.toList) ⟨.mk, Lacks.absent⟩

section

variable {character : Char} {left right text : String}

@[simp] theorem lacks_append : Lacks character (left ++ right) ↔ Lacks character left ∧ Lacks character right := by
  constructor
  · rintro ⟨absent⟩
    rw [String.toList_append, List.mem_append, not_or] at absent
    exact ⟨⟨absent.1⟩, ⟨absent.2⟩⟩
  · rintro ⟨isLeft, isRight⟩
    constructor
    rw [String.toList_append, List.mem_append, not_or]
    exact ⟨isLeft.absent, isRight.absent⟩

theorem lacks_intercalate {separator : String} {texts : List String} (between : Lacks character separator)
    (inside : ∀ text ∈ texts, Lacks character text) : Lacks character (separator.intercalate texts) := by
  induction texts with
  | nil => exact ⟨List.not_mem_nil⟩
  | cons first texts ih =>
      have isFirst := inside first List.mem_cons_self
      cases texts with
      | nil => rwa [String.intercalate_singleton]
      | cons second texts =>
          rw [String.intercalate_cons_cons, lacks_append, lacks_append]
          exact ⟨⟨isFirst, between⟩, ih fun text member => inside text (.tail _ member)⟩

end

end TenPuzzle
