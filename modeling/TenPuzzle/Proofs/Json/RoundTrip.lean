import TenPuzzle.Proofs.Json.Numeral
import TenPuzzle.Proofs.Json.Quoted

/-!
A written value reads back as itself, if its whole numbers are not too long and it is not nested too
deep for the reader. The fuel of the reader suffices, since every level takes at least one character.
-/

namespace TenPuzzle.Json

open Number

mutual

/-- Values that the reader takes when it may go down so many levels. -/
def IsReadable : Nat → Json → Prop
  | _, .integer value => (decimalDigits value.natAbs).length ≤ Text.digitLimit
  | levels, .array items => 0 < levels ∧ AreReadable (levels - 1) items
  | levels, .object members => 0 < levels ∧ HaveReadable (levels - 1) members
  | _, _ => True

def AreReadable : Nat → List Json → Prop
  | _, [] => True
  | levels, item :: rest => IsReadable levels item ∧ AreReadable levels rest

def HaveReadable : Nat → List (String × Json) → Prop
  | _, [] => True
  | levels, (_, value) :: rest => IsReadable levels value ∧ HaveReadable levels rest

end

theorem areReadable_iff {levels : Nat} {items : List Json} :
    AreReadable levels items ↔ ∀ item ∈ items, IsReadable levels item := by
  induction items with
  | nil => simp [AreReadable]
  | cons item items ih => simp [AreReadable, ih]

/-- A character that can begin a value. -/
def Begins (first : Char) : Prop :=
  isSpace first = false ∧ first ≠ ']' ∧ first ≠ '\uFEFF'

theorem skipSpace_begins {first : Char} {rest : List Char} (begins : Begins first) :
    skipSpace (first :: rest) = first :: rest := by
  rw [skipSpace, List.dropWhile_cons_of_neg]
  simp [begins.1]

section

variable {text : List Char} {result : Json × List Char}

theorem readNumber_begins {opening : List Char} {negative : Bool}
    (reads : readNumber opening negative text = .ok result) :
    ∃ first rest, text = first :: rest ∧ first.isDigit = true := by
  cases text with
  | nil => simp [readNumber, splitWhole] at reads
  | cons first rest =>
      refine ⟨first, rest, rfl, ?_⟩
      by_contra notDigit
      have whole : splitWhole (first :: rest) = ([], first :: rest) := by
        rw [splitWhole]
        · simp [notDigit]
        · rintro tail same
          cases same
          exact notDigit rfl
      simp [readNumber, whole] at reads

theorem readScalar_begins (reads : readScalar text = .ok result) :
    ∃ first rest, text = first :: rest ∧ Begins first ∧ first ≠ '\x22' ∧ first ≠ '[' ∧ first ≠ '\x7b' := by
  unfold readScalar at reads
  split at reads
  case h_8 =>
    obtain ⟨first, rest, isText, isDigit⟩ := readNumber_begins reads
    refine ⟨first, rest, isText, ⟨?_, ?_, ?_⟩, ?_, ?_, ?_⟩
    · by_contra isSpace
      simp only [Json.isSpace, Bool.or_eq_true, decide_eq_true_eq, Bool.not_eq_false] at isSpace
      rcases isSpace with ((rfl | rfl) | rfl) | rfl <;> cases isDigit
    all_goals
      rintro rfl
      cases isDigit
  all_goals exact ⟨_, _, rfl, ⟨rfl, by decide, by decide⟩, by decide, by decide, by decide⟩

theorem readValue_scalar (levels fuel : Nat) (reads : readScalar text = .ok result) :
    readValue levels (fuel + 1) text = .ok result := by
  obtain ⟨first, rest, rfl, _, notQuote, notArray, notObject⟩ := readScalar_begins reads
  rw [readValue]
  · exact reads
  · intro other same
    exact notQuote (List.cons.inj same).1
  · intro other same
    exact notArray (List.cons.inj same).1
  · intro other same
    exact notObject (List.cons.inj same).1

end

section

variable {levels fuel : Nat} {rest : List Char}

def IsScalar : Json → Prop
  | .string _ | .array _ | .object _ => False
  | _ => True

theorem readScalar_write {value : Json} (scalar : IsScalar value) (readable : IsReadable levels value)
    (ends : Ends rest) : readScalar (value.write ++ rest) = .ok (value, rest) := by
  cases value with
  | null => rfl
  | bool value => cases value <;> rfl
  | integer value =>
      simp only [IsReadable] at readable
      exact readScalar_integer readable ends
  | float value => exact readScalar_float value ends
  | string value => exact scalar.elim
  | array items => exact scalar.elim
  | object members => exact scalar.elim

theorem write_begins {value : Json} (readable : IsReadable levels value) :
    ∃ first tail, value.write = first :: tail ∧ Begins first := by
  have ofScalar (scalar : IsScalar value) : ∃ first tail, value.write = first :: tail ∧ Begins first := by
    have reads := @readScalar_write levels [] value scalar readable trivial
    rw [List.append_nil] at reads
    obtain ⟨first, tail, isText, begins, _⟩ := readScalar_begins reads
    exact ⟨first, tail, isText, begins⟩
  cases value with
  | string value => exact ⟨'\x22', _, rfl, rfl, by decide, by decide⟩
  | array items => exact ⟨'[', _, by rw [write]; rfl, rfl, by decide, by decide⟩
  | object members => exact ⟨'\x7b', _, by rw [write]; rfl, rfl, by decide, by decide⟩
  | _ => exact ofScalar trivial

theorem readName_write (name : String) {first : Char} (tail : List Char) (begins : Begins first) :
    readName (writeString name ++ ':' :: ' ' :: first :: tail) = .ok (name, first :: tail) := by
  have quoted : writeString name ++ ':' :: ' ' :: first :: tail =
      '\x22' :: (name.toList.flatMap escapeCharacter ++ '\x22' :: ':' :: ' ' :: first :: tail) := by
    simp [writeString]
  rw [quoted, readName, readString_escaped]
  have spaced : skipSpace (' ' :: first :: tail) = first :: tail := skipSpace_begins begins
  change Except.ok (name, skipSpace (' ' :: first :: tail)) = _
  rw [spaced]

end

theorem writeItems_begins {levels : Nat} {items : List Json} (readable : AreReadable levels items)
    (nonempty : items ≠ []) : ∃ first tail, writeItems items = first :: tail ∧ Begins first := by
  match items, nonempty with
  | [item], _ =>
      rw [writeItems]
      exact write_begins readable.1
  | item :: second :: more, _ =>
      obtain ⟨first, tail, isText, begins⟩ := write_begins readable.1
      rw [writeItems, isText]
      exact ⟨first, _, rfl, begins⟩
      exact List.cons_ne_nil _ _

theorem writeMembers_begins {members : List (String × Json)} (nonempty : members ≠ []) :
    ∃ tail, writeMembers members = '\x22' :: tail := by
  match members, nonempty with
  | [(name, value)], _ => exact ⟨_, rfl⟩
  | (name, value) :: second :: more, _ => exact ⟨_, rfl⟩

mutual

theorem readValue_write (value : Json) (levels fuel : Nat) (rest : List Char)
    (readable : IsReadable levels value) (enough : 2 * value.write.length ≤ fuel) (ends : Ends rest) :
    readValue levels fuel (value.write ++ rest) = .ok (value, rest) := by
  obtain ⟨first, tail, isText, begins⟩ := write_begins readable
  obtain ⟨fuel, rfl⟩ : ∃ more, fuel = more + 1 := by
    rw [isText, List.length_cons] at enough
    exact ⟨fuel - 1, by omega⟩
  match value with
  | .string value =>
      have quoted : Json.write (.string value) ++ rest =
          '\x22' :: (value.toList.flatMap escapeCharacter ++ '\x22' :: rest) := by
        simp [write, writeString]
      rw [quoted, readValue, readString_escaped]
      rfl
  | .array items =>
      obtain ⟨deep, readable⟩ := readable
      simp only [write, List.cons_append, List.append_assoc, List.nil_append, List.length_cons,
        List.length_append, List.length_nil] at enough ⊢
      rw [readValue, if_neg (by omega)]
      by_cases isEmpty : items = []
      · subst isEmpty
        rfl
      · obtain ⟨next, later, isItems, starts⟩ := writeItems_begins readable isEmpty
        have skip : skipSpace (writeItems items ++ ']' :: rest) = writeItems items ++ ']' :: rest := by
          rw [isItems]
          exact skipSpace_begins starts
        have reads := readItems_write items (levels - 1) fuel rest isEmpty readable (by omega)
        rw [skip]
        split
        · next after same =>
            rw [isItems] at same
            exact absurd (List.cons.inj same).1 starts.2.1
        · rw [reads]
          rfl
  | .object members =>
      obtain ⟨deep, readable⟩ := readable
      simp only [write, List.cons_append, List.append_assoc, List.nil_append, List.length_cons,
        List.length_append, List.length_nil] at enough ⊢
      rw [readValue, if_neg (by omega)]
      by_cases isEmpty : members = []
      · subst isEmpty
        rfl
      · obtain ⟨later, isMembers⟩ := writeMembers_begins isEmpty
        have skip : skipSpace (writeMembers members ++ '\x7d' :: rest) = writeMembers members ++ '\x7d' :: rest := by
          rw [isMembers]
          rfl
        have reads := readMembers_write members (levels - 1) fuel rest isEmpty readable (by omega)
        rw [skip]
        split
        · next after same =>
            rw [isMembers] at same
            exact absurd (List.cons.inj same).1 (by decide)
        · rw [reads]
          rfl
  | .null => exact readValue_scalar levels fuel (readScalar_write trivial readable ends)
  | .bool _ => exact readValue_scalar levels fuel (readScalar_write trivial readable ends)
  | .integer _ => exact readValue_scalar levels fuel (readScalar_write trivial readable ends)
  | .float _ => exact readValue_scalar levels fuel (readScalar_write trivial readable ends)

theorem readItems_write (items : List Json) (levels fuel : Nat) (rest : List Char) (nonempty : items ≠ [])
    (readable : AreReadable levels items) (enough : 2 * (writeItems items).length + 1 ≤ fuel) :
    readItems levels fuel (writeItems items ++ ']' :: rest) = .ok (items, rest) := by
  obtain ⟨fuel, rfl⟩ : ∃ more, fuel = more + 1 := ⟨fuel - 1, by omega⟩
  match items, nonempty with
  | [item], _ =>
      simp only [writeItems] at enough ⊢
      have reads := readValue_write item levels fuel (']' :: rest) readable.1 (by omega) (.inr (.inl rfl))
      rw [readItems, reads]
      rfl
  | item :: second :: more, _ =>
      simp only [writeItems, List.append_assoc, List.cons_append, List.length_append, List.length_cons]
        at enough ⊢
      have reads := readValue_write item levels fuel
        (',' :: ' ' :: (writeItems (second :: more) ++ ']' :: rest)) readable.1 (by omega) (.inl rfl)
      have later := readItems_write (second :: more) levels fuel rest (by simp) readable.2 (by omega)
      obtain ⟨first, tail, isText, begins⟩ := writeItems_begins readable.2 (by simp)
      have skip : skipSpace (' ' :: (writeItems (second :: more) ++ ']' :: rest)) =
          writeItems (second :: more) ++ ']' :: rest := by
        rw [isText]
        exact skipSpace_begins begins
      rw [readItems, reads]
      change (readItems levels fuel (skipSpace (' ' :: (writeItems (second :: more) ++ ']' :: rest)))).bind _ = _
      rw [skip, later]
      rfl

theorem readMembers_write (members : List (String × Json)) (levels fuel : Nat) (rest : List Char)
    (nonempty : members ≠ []) (readable : HaveReadable levels members)
    (enough : 2 * (writeMembers members).length + 1 ≤ fuel) :
    readMembers levels fuel (writeMembers members ++ '\x7d' :: rest) = .ok (members, rest) := by
  obtain ⟨fuel, rfl⟩ : ∃ more, fuel = more + 1 := ⟨fuel - 1, by omega⟩
  match members, nonempty with
  | [(name, value)], _ =>
      simp only [writeMembers, List.append_assoc, List.cons_append, List.length_append, List.length_cons]
        at enough ⊢
      have reads := readValue_write value levels fuel ('\x7d' :: rest) readable.1 (by omega) (.inr (.inr rfl))
      obtain ⟨first, tail, isText, begins⟩ := write_begins readable.1
      have named : readName (writeString name ++ ':' :: ' ' :: (value.write ++ '\x7d' :: rest)) =
          .ok (name, value.write ++ '\x7d' :: rest) := by
        rw [isText]
        exact readName_write name _ begins
      rw [readMembers, named]
      change (readValue levels fuel (value.write ++ '\x7d' :: rest)).bind _ = _
      rw [reads]
      rfl
  | (name, value) :: second :: more, _ =>
      simp only [writeMembers, List.append_assoc, List.cons_append, List.length_append, List.length_cons]
        at enough ⊢
      have reads := readValue_write value levels fuel
        (',' :: ' ' :: (writeMembers (second :: more) ++ '\x7d' :: rest)) readable.1 (by omega) (.inl rfl)
      have later := readMembers_write (second :: more) levels fuel rest (by simp) readable.2 (by omega)
      obtain ⟨first, tail, isText, begins⟩ := write_begins readable.1
      have named (rest : List Char) : readName (writeString name ++ ':' :: ' ' :: (value.write ++ rest)) =
          .ok (name, value.write ++ rest) := by
        rw [isText]
        exact readName_write name _ begins
      obtain ⟨next, isMembers⟩ := writeMembers_begins (List.cons_ne_nil second more)
      have skip : skipSpace (' ' :: (writeMembers (second :: more) ++ '\x7d' :: rest)) =
          writeMembers (second :: more) ++ '\x7d' :: rest := by
        rw [isMembers]
        rfl
      rw [readMembers, named]
      change (readValue levels fuel (value.write ++ _)).bind _ = _
      rw [reads]
      change (readMembers levels fuel (skipSpace (' ' :: (writeMembers (second :: more) ++ '\x7d' :: rest)))).bind
        _ = _
      rw [skip, later]
      rfl

end

theorem read_text {value : Json} (readable : IsReadable nestingLimit value) : read value.text = .ok value := by
  obtain ⟨first, tail, isText, begins⟩ := write_begins readable
  have reads := readValue_write value nestingLimit (2 * value.write.length + 2) [] readable (by omega) trivial
  rw [List.append_nil] at reads
  have skip : skipSpace value.write = value.write := by
    rw [isText]
    exact skipSpace_begins begins
  have whole : readWhole value.write = .ok value := by
    unfold readWhole
    split
    · next isMark =>
        rw [isText] at isMark
        exact absurd (List.cons.inj isMark).1 begins.2.2
    · rw [skip, reads]
      rfl
  rw [read, text, String.toList_ofList, whole]
  rfl

end TenPuzzle.Json
