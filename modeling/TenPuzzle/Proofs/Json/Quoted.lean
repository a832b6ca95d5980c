import TenPuzzle.Json.Reader
import TenPuzzle.Json.Writer

/-!
Quoted strings. Every character reads back from its escape, a character beyond the first plane from the
two units of its pair.
-/

namespace TenPuzzle.Json

theorem toNat_cases (character : Char) :
    character.toNat < 0xD800 ∨ 0xDFFF < character.toNat ∧ character.toNat < 0x110000 :=
  character.valid

theorem hexValue_hexDigit (value : Nat) : Text.hexValue? (Text.hexDigit value) = some (value % 16) := by
  have below : value % 16 < 16 := Nat.mod_lt _ (by decide)
  have table : ∀ digit < 16, Text.hexValue? (Nat.digitChar digit) = some digit := by decide
  exact table _ below

/-- Characters that are written as themselves or by a letter. -/
def IsSingle (character : Char) : Prop :=
  character = '\x22' ∨ character = '\x5c' ∨ character = '\x08' ∨ character = '\t' ∨ character = '\n' ∨
    character = '\x0c' ∨ character = '\r' ∨ (0x20 ≤ character.toNat ∧ character.toNat ≤ 0x7E)

instance (character : Char) : Decidable (IsSingle character) :=
  inferInstanceAs (Decidable (_ ∨ _))

/-- What the reader makes of an escaped character. -/
def partsFor (character : Char) : List Part :=
  if IsSingle character then [.character character]
  else if character.toNat < 0x10000 then [.unit character.toNat]
  else
    [.unit (0xD800 + (character.toNat - 0x10000) / 0x400),
      .unit (0xDC00 + (character.toNat - 0x10000) % 0x400)]

section

variable {opening rest after : List Char} {next : Char} {parts : List Part}

theorem readParts_unit {unit : Nat} (small : unit < 0x10000)
    (reads : readParts opening (next :: rest) = .ok (parts, after)) :
    readParts opening (unitEscape unit ++ next :: rest) = .ok (.unit unit :: parts, after) := by
  have value : unitValue? (Text.hexDigit (unit / 16 / 16 / 16)) (Text.hexDigit (unit / 16 / 16))
      (Text.hexDigit (unit / 16)) (Text.hexDigit unit) = some unit := by
    simp only [unitValue?, hexValue_hexDigit, Option.bind_eq_bind, Option.bind_some, Option.some.injEq]
    omega
  change readParts opening ('\x5c' :: 'u' :: Text.hexDigit (unit / 16 / 16 / 16) ::
    Text.hexDigit (unit / 16 / 16) :: Text.hexDigit (unit / 16) :: Text.hexDigit unit :: next :: rest) = _
  rw [readParts, value]
  simp only [reads]
  rfl

theorem readParts_letter {letter meant : Char} (means : escaped? letter = some meant) (other : letter ≠ 'u')
    (reads : readParts opening rest = .ok (parts, after)) :
    readParts opening ('\x5c' :: letter :: rest) = .ok (.character meant :: parts, after) := by
  rw [readParts, means]
  · simp only [reads]
    rfl
  · intro _ _ _ _ _ _ isLetter
    exact absurd isLetter other
  · exact other

theorem readParts_plain {character : Char} (unquoted : character ≠ '\x22') (unescaped : character ≠ '\x5c')
    (visible : 0x20 ≤ character.toNat) (reads : readParts opening rest = .ok (parts, after)) :
    readParts opening (character :: rest) = .ok (.character character :: parts, after) := by
  rw [readParts, if_neg (Nat.not_lt.mpr visible)]
  · simp only [reads]
    rfl
  · exact unquoted
  all_goals
    intros
    exact unescaped ‹_›

theorem readParts_escape (character : Char) (reads : readParts opening (next :: rest) = .ok (parts, after)) :
    readParts opening (escapeCharacter character ++ next :: rest) =
      .ok (partsFor character ++ parts, after) := by
  by_cases single : IsSingle character
  · rw [partsFor, if_pos single]
    rcases single with rfl | rfl | rfl | rfl | rfl | rfl | rfl | ⟨visible, ascii⟩
    any_goals exact readParts_letter rfl (by decide) reads
    by_cases quoted : character = '\x22' ∨ character = '\x5c'
    · rcases quoted with rfl | rfl
      all_goals exact readParts_letter rfl (by decide) reads
    · have escape : escapeCharacter character = [character] := by
        have apart : ∀ other : Char, other.toNat < 0x20 → character ≠ other := by
          rintro other low rfl
          omega
        unfold escapeCharacter
        dsimp only
        rw [if_neg quoted, if_neg (apart _ (by decide)), if_neg (apart _ (by decide)),
          if_neg (apart _ (by decide)), if_neg (apart _ (by decide)), if_neg (apart _ (by decide)),
          if_pos ⟨visible, ascii⟩]
      rw [escape]
      exact readParts_plain (fun same => quoted (.inl same)) (fun same => quoted (.inr same)) visible reads
  · have escape : escapeCharacter character =
        if character.toNat < 0x10000 then unitEscape character.toNat
        else unitEscape (0xD800 + (character.toNat - 0x10000) / 0x400) ++
          unitEscape (0xDC00 + (character.toNat - 0x10000) % 0x400) := by
      simp only [IsSingle, not_or] at single
      simp [escapeCharacter, single]
    rw [escape, partsFor, if_neg single]
    by_cases small : character.toNat < 0x10000
    · rw [if_pos small, if_pos small]
      exact readParts_unit small reads
    · rw [if_neg small, if_neg small, List.append_assoc]
      have bound := toNat_cases character
      have lower : 0xDC00 + (character.toNat - 0x10000) % 0x400 < 0x10000 := by omega
      have low := readParts_unit lower reads
      exact readParts_unit (by omega) low

end

theorem isHighUnit_toNat (character : Char) : isHighUnit character.toNat = false := by
  have valid := toNat_cases character
  simp only [isHighUnit, Bool.and_eq_false_iff, decide_eq_false_iff_not]
  omega

theorem unitCharacter_toNat (character : Char) : unitCharacter character.toNat = character := by
  have valid := toNat_cases character
  have low : isLowUnit character.toNat = false := by
    simp only [isLowUnit, Bool.and_eq_false_iff, decide_eq_false_iff_not]
    omega
  rw [unitCharacter, isHighUnit_toNat, low, Bool.or_false, if_neg Bool.false_ne_true, Char.ofNat_toNat]

theorem pairCharacter_toNat {character : Char} (large : 0x10000 ≤ character.toNat) :
    pairCharacter (0xD800 + (character.toNat - 0x10000) / 0x400)
      (0xDC00 + (character.toNat - 0x10000) % 0x400) = character := by
  have code : 0x10000 + (0xD800 + (character.toNat - 0x10000) / 0x400 - 0xD800) * 0x400 +
      (0xDC00 + (character.toNat - 0x10000) % 0x400 - 0xDC00) = character.toNat := by
    omega
  rw [pairCharacter, code, Char.ofNat_toNat]

theorem joinParts_unit (character : Char) (parts : List Part) :
    joinParts (.unit character.toNat :: parts) = character :: joinParts parts := by
  cases parts with
  | nil => simp [joinParts, unitCharacter_toNat]
  | cons part parts =>
      cases part with
      | character value => simp [joinParts, unitCharacter_toNat]
      | unit low =>
          rw [joinParts, isHighUnit_toNat, Bool.false_and, if_neg Bool.false_ne_true, unitCharacter_toNat]

theorem joinParts_partsFor (character : Char) (parts : List Part) :
    joinParts (partsFor character ++ parts) = character :: joinParts parts := by
  unfold partsFor
  split
  · rfl
  · split
    · exact joinParts_unit character parts
    · next large =>
        have valid := toNat_cases character
        have high : isHighUnit (0xD800 + (character.toNat - 0x10000) / 0x400) = true := by
          simp only [isHighUnit, Bool.and_eq_true, decide_eq_true_eq]
          omega
        have low : isLowUnit (0xDC00 + (character.toNat - 0x10000) % 0x400) = true := by
          simp only [isLowUnit, Bool.and_eq_true, decide_eq_true_eq]
          omega
        change joinParts (.unit _ :: .unit _ :: parts) = _
        rw [joinParts, high, low, Bool.and_true, if_pos rfl, pairCharacter_toNat (by omega)]

theorem readParts_text (opening text rest : List Char) :
    readParts opening (text.flatMap escapeCharacter ++ '\x22' :: rest) =
      .ok (text.flatMap partsFor, rest) := by
  induction text with
  | nil => rfl
  | cons character text ih =>
      rw [List.flatMap_cons, List.flatMap_cons, List.append_assoc]
      obtain ⟨next, later, isList⟩ : ∃ next later,
          text.flatMap escapeCharacter ++ '\x22' :: rest = next :: later :=
        List.exists_cons_of_ne_nil (by simp)
      rw [isList] at ih ⊢
      exact readParts_escape character ih

theorem joinParts_text (text : List Char) : joinParts (text.flatMap partsFor) = text := by
  induction text with
  | nil => rfl
  | cons character text ih => rw [List.flatMap_cons, joinParts_partsFor, ih]

theorem readString_escaped (opening : List Char) (text : String) (rest : List Char) :
    readString opening (text.toList.flatMap escapeCharacter ++ '\x22' :: rest) = .ok (text, rest) := by
  rw [readString, readParts_text]
  change Except.ok (String.ofList (joinParts (text.toList.flatMap partsFor)), rest) = _
  rw [joinParts_text, String.ofList_toList]

end TenPuzzle.Json
