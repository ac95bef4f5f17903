import Plotter.Operand

/-! Identifiers as their spelling has them: a letter or an underscore, then also digits. -/

namespace Plotter.Identifier

/-- A letter from A to Z, large or small, or an underscore. -/
def Letter (c : Char) : Prop :=
  -- The underscore counts as a letter, and letters outside of ASCII do not.
  'A' ≤ c ∧ c ≤ 'Z' ∨ 'a' ≤ c ∧ c ≤ 'z' ∨ c = '_'

/-- A digit from zero to nine. -/
def Digit (c : Char) : Prop :=
  -- Only the ten digits of ASCII are meant.
  '0' ≤ c ∧ c ≤ '9'

/-- The texts of the form `[A-Za-z_][A-Za-z0-9_]*`. -/
def Spelled (text : String) : Prop :=
  -- At least one character is needed, and a digit may not come first.
  ∃ first rest, text.toList = first :: rest ∧ Letter first ∧ ∀ c ∈ rest, Letter c ∨ Digit c

/-- An identifier starts with a letter. -/
theorem isStart_iff (c : Char) : isStart c = true ↔ Letter c := by
  -- The ranges of letters are those of the code points of their ends.
  have upper : c.isUpper = decide ('A' ≤ c ∧ c ≤ 'Z') := rfl
  have lower : c.isLower = (decide ('a' ≤ c) && decide (c ≤ 'z')) := rfl
  have either : c.isAlpha = (c.isUpper || c.isLower) := rfl
  simp only [isStart, Letter, either, upper, lower, Bool.or_eq_true, Bool.and_eq_true,
    decide_eq_true_eq, beq_iff_eq, or_assoc]

/-- An identifier goes on with letters and digits. -/
theorem isPart_iff (c : Char) : isPart c = true ↔ Letter c ∨ Digit c := by
  have letter := isStart_iff c
  have digit : c.isDigit = (decide ('0' ≤ c) && decide (c ≤ '9')) := rfl
  have either : c.isAlphanum = (c.isAlpha || c.isDigit) := rfl
  -- Both sides name the same kinds of characters, in different orders.
  simp only [isStart, Bool.or_eq_true, beq_iff_eq] at letter
  simp only [isPart, Digit, either, digit, Bool.or_eq_true, Bool.and_eq_true, decide_eq_true_eq,
    beq_iff_eq, ← letter]
  exact or_right_comm

/-- A text is an identifier exactly if it is spelled like one. -/
theorem isValid_iff (text : String) : isValid text = true ↔ Spelled text := by
  unfold isValid Spelled
  -- The empty text fails on both sides, as it has no first character.
  cases text.toList with
  | nil => simp [accepts]
  | cons first rest =>
    simp only [accepts, Bool.and_eq_true, isStart_iff, List.all_eq_true, isPart_iff,
      List.cons.injEq]
    constructor
    · rintro ⟨start, parts⟩
      exact ⟨first, rest, ⟨rfl, rfl⟩, start, parts⟩
    · rintro ⟨_, _, ⟨rfl, rfl⟩, start, parts⟩
      exact ⟨start, parts⟩

instance (text : String) : Decidable (Spelled text) :=
  -- The program has a test for it.
  decidable_of_iff _ (isValid_iff text)

/-- An identifier has no other characters than those that it can go on with. -/
theorem Spelled.isPart {name : String} (spelled : Spelled name) :
    ∀ c ∈ name.toList, isPart c = true := by
  obtain ⟨first, rest, same, letter, parts⟩ := spelled
  intro c member
  rw [same, List.mem_cons] at member
  -- A first letter is a part as well.
  rcases member with rfl | later
  · exact (isPart_iff c).mpr (.inl letter)
  · exact (isPart_iff c).mpr (parts c later)

/-- The letters by their code points. -/
theorem letter_iff_toNat (c : Char) :
    Letter c ↔ 65 ≤ c.toNat ∧ c.toNat ≤ 90 ∨ 97 ≤ c.toNat ∧ c.toNat ≤ 122 ∨ c.toNat = 95 := by
  -- Characters compare as their code points do.
  have underscore : c = '_' ↔ c.toNat = 95 := Char.toNat_inj.symm
  simp only [Letter, underscore, Char.le_def, UInt32.le_iff_toNat_le]
  rfl

/-- The digits by their code points. -/
theorem digit_iff_toNat (c : Char) : Digit c ↔ 48 ≤ c.toNat ∧ c.toNat ≤ 57 := by
  -- Characters compare as their code points do.
  simp only [Digit, Char.le_def, UInt32.le_iff_toNat_le]
  rfl

/-- No digit is a letter. -/
theorem not_letter_of_digit {c : Char} (digit : Digit c) : ¬ Letter c := by
  rw [digit_iff_toNat] at digit
  rw [letter_iff_toNat]
  -- As code points the ranges are apart.
  omega

/-- No identifier starts with a digit. -/
theorem isStart_of_digit {c : Char} (digit : Digit c) : isStart c = false := by
  -- What may start an identifier is exactly a letter.
  rw [Bool.eq_false_iff, Ne, isStart_iff]
  exact not_letter_of_digit digit

end Plotter.Identifier
