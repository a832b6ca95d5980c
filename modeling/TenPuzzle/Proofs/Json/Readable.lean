import TenPuzzle.Proofs.Expression.Moves
import TenPuzzle.Proofs.Json.RoundTrip

/-!
What the reader takes from a text is readable: no whole number in it is too long, and nothing is nested
deeper than the reader goes.
-/

namespace TenPuzzle.Json

open Number

theorem isDigit_of_mem_splitWhole (text : List Char) : ∀ digit ∈ (splitWhole text).1, digit.isDigit = true := by
  intro digit member
  unfold splitWhole at member
  split at member
  · rw [List.mem_singleton.mp member]
    rfl
  · exact List.mem_takeWhile_imp member

section

variable {levels : Nat} {text rest : List Char} {value : Json}

theorem readNumber_readable {opening : List Char} {negative : Bool}
    (reads : readNumber opening negative text = .ok (value, rest)) : IsReadable levels value := by
  unfold readNumber at reads
  dsimp only at reads
  split at reads
  · cases reads
  · next begun =>
      split at reads
      · split at reads
        · cases reads
        · next short =>
            cases reads
            have below := valueOfDigits_lt (isDigit_of_mem_splitWhole text)
            have wider : 10 ^ (splitWhole text).1.length ≤ 10 ^ Text.digitLimit :=
              Nat.pow_le_pow_right (by decide) (by omega)
            have magnitude : (if negative then -(valueOfDigits (splitWhole text).1 : Int)
                else valueOfDigits (splitWhole text).1).natAbs = valueOfDigits (splitWhole text).1 := by
              cases negative <;> simp
            change (decimalDigits _).length ≤ Text.digitLimit
            rw [magnitude]
            exact (decimalDigits_length_le (by decide)).mpr (lt_of_lt_of_le below wider)
      · cases reads
        trivial

theorem readScalar_readable (reads : readScalar text = .ok (value, rest)) : IsReadable levels value := by
  unfold readScalar at reads
  split at reads
  case h_7 => exact readNumber_readable reads
  case h_8 => exact readNumber_readable reads
  all_goals
    cases reads
    trivial

end

mutual

theorem readValue_readable (levels fuel : Nat) (text rest : List Char) (value : Json)
    (reads : readValue levels fuel text = .ok (value, rest)) : IsReadable levels value := by
  match fuel with
  | 0 => cases reads
  | fuel + 1 =>
      rw [readValue.eq_def] at reads
      dsimp only at reads
      split at reads
      · obtain ⟨⟨read, later⟩, _, isString⟩ := bind_eq_ok reads
        cases isString
        trivial
      · split at reads
        · cases reads
        · next deep =>
            split at reads
            · cases reads
              exact ⟨Nat.pos_of_ne_zero deep, trivial⟩
            · obtain ⟨⟨items, later⟩, readsItems, isArray⟩ := bind_eq_ok reads
              cases isArray
              exact ⟨Nat.pos_of_ne_zero deep, readItems_readable _ fuel _ _ items readsItems⟩
      · split at reads
        · cases reads
        · next deep =>
            split at reads
            · cases reads
              exact ⟨Nat.pos_of_ne_zero deep, trivial⟩
            · obtain ⟨⟨members, later⟩, readsMembers, isObject⟩ := bind_eq_ok reads
              cases isObject
              exact ⟨Nat.pos_of_ne_zero deep, readMembers_readable _ fuel _ _ members readsMembers⟩
      · exact readScalar_readable reads

theorem readItems_readable (levels fuel : Nat) (text rest : List Char) (items : List Json)
    (reads : readItems levels fuel text = .ok (items, rest)) : AreReadable levels items := by
  match fuel with
  | 0 => cases reads
  | fuel + 1 =>
      rw [readItems] at reads
      obtain ⟨⟨item, afterItem⟩, readsItem, continues⟩ := bind_eq_ok reads
      have first := readValue_readable levels fuel text afterItem item readsItem
      dsimp only at continues
      split at continues
      · cases continues
        exact ⟨first, trivial⟩
      · obtain ⟨⟨later, afterItems⟩, readsLater, isList⟩ := bind_eq_ok continues
        cases isList
        exact ⟨first, readItems_readable levels fuel _ _ later readsLater⟩
      · cases continues

theorem readMembers_readable (levels fuel : Nat) (text rest : List Char) (members : List (String × Json))
    (reads : readMembers levels fuel text = .ok (members, rest)) : HaveReadable levels members := by
  match fuel with
  | 0 => cases reads
  | fuel + 1 =>
      rw [readMembers] at reads
      obtain ⟨⟨name, afterName⟩, _, continues⟩ := bind_eq_ok reads
      obtain ⟨⟨value, afterValue⟩, readsValue, continues⟩ := bind_eq_ok continues
      have first := readValue_readable levels fuel afterName afterValue value readsValue
      dsimp only at continues
      split at continues
      · cases continues
        exact ⟨first, trivial⟩
      · obtain ⟨⟨later, afterMembers⟩, readsLater, isList⟩ := bind_eq_ok continues
        cases isList
        exact ⟨first, readMembers_readable levels fuel _ _ later readsLater⟩
      · cases continues

end

theorem read_readable {text : String} {value : Json} (reads : read text = .ok value) :
    IsReadable nestingLimit value := by
  unfold read at reads
  cases whole : readWhole text.toList with
  | error stop =>
      rw [whole] at reads
      cases reads
  | ok found =>
      rw [whole] at reads
      cases reads
      unfold readWhole at whole
      split at whole
      · cases whole
      · obtain ⟨⟨item, rest⟩, readsItem, ends⟩ := bind_eq_ok whole
        dsimp only at ends
        split at ends
        · cases ends
          exact readValue_readable _ _ _ _ _ readsItem
        · cases ends

end TenPuzzle.Json
