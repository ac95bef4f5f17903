import Mathlib.Data.List.DropRight
import Plotter.Text.Blank

/-! Texts without blanks at their ends, and what trimming makes of a text. -/

namespace Plotter.Text

/-- Neither the first nor the last character of the text is blank. -/
def Trimmed (text : List Char) : Prop :=
  -- The empty text is trimmed as well: it has no end that could be blank.
  (∀ c ∈ text.head?, isBlank c = false) ∧ ∀ c ∈ text.getLast?, isBlank c = false

instance (text : List Char) : Decidable (Trimmed text) :=
  -- Both halves of the conjunction can be evaluated.
  -- Two characters are looked at, not all that there are.
  decidable_of_iff
    (text.head?.all (!isBlank ·) = true ∧ text.getLast?.all (!isBlank ·) = true)
    (by simp [Trimmed, Option.all_eq_true])

/-- The second text is the first one without the blanks at its ends. -/
def Trims (whole core : List Char) : Prop :=
  -- The core may hold blanks, only not at its ends.
  ∃ before after, whole = before ++ core ++ after ∧ (∀ c ∈ before, isBlank c = true) ∧
    (∀ c ∈ after, isBlank c = true) ∧ Trimmed core

/-- A text that does not start with a blank keeps all of its characters at the front. -/
theorem dropWhile_isBlank_eq_self {text : List Char} (first : ∀ c ∈ text.head?, isBlank c = false) :
    text.dropWhile isBlank = text := by
  -- Only the first character decides whether anything is dropped at all.
  rw [List.dropWhile_eq_self_iff]
  intro filled blank
  rw [first _ (by simp [List.head?_eq_getElem?, List.getElem?_eq_getElem filled])] at blank
  exact Bool.false_ne_true blank

/-- Cutting the blanks off at the end is what the library knows as dropping from the right. -/
theorem trimEnd_eq_rdropWhile (text : List Char) : trimEnd text = text.rdropWhile isBlank :=
  -- Both go by way of the reversed text.
  rfl

/-- Trimming a text without blanks at its ends changes nothing. -/
theorem Trimmed.trimChars_eq {text : List Char} (trimmed : Trimmed text) :
    trimChars text = text := by
  -- Neither of the two cuts finds a blank.
  rw [trimChars, dropWhile_isBlank_eq_self trimmed.1, trimEnd_eq_rdropWhile,
    List.rdropWhile_eq_self_iff]
  intro filled blank
  rw [trimmed.2 _ (List.getLast_mem_getLast? filled)] at blank
  exact Bool.false_ne_true blank

/-- A text that has characters, and no blanks at its ends. -/
def Solid (text : List Char) : Prop :=
  -- A line or a word that is left after trimming is of this kind.
  text ≠ [] ∧ Trimmed text

instance (text : List Char) : Decidable (Solid text) :=
  inferInstanceAs (Decidable (_ ∧ _))

/-- A text without any blanks is solid. -/
theorem solid_of_forall {text : List Char} (filled : text ≠ [])
    (none : ∀ c ∈ text, isBlank c = false) : Solid text := by
  -- Without a single blank there is none at the ends.
  refine ⟨filled, ?_, ?_⟩
  · intro c first
    exact none c (List.mem_of_mem_head? first)
  · intro c last
    exact none c (List.mem_of_mem_getLast? last)

/-- Whatever stands between two solid texts, the whole is solid. -/
theorem Solid.append {first last : List Char} (opening : Solid first) (ending : Solid last)
    (middle : List Char) : Solid (first ++ middle ++ last) := by
  -- The first part brings the first character, and the last part the last one.
  obtain ⟨filled, front, -⟩ := opening
  obtain ⟨also, -, back⟩ := ending
  refine ⟨by simp [filled], ?_, ?_⟩
  · have same : (first ++ middle ++ last).head? = first.head? := by
      rw [List.append_assoc, List.head?_append, Option.or_of_isSome (by simpa using filled)]
    exact same ▸ front
  · have same : (first ++ middle ++ last).getLast? = last.getLast? := by
      rw [List.getLast?_append, Option.or_of_isSome (by simpa using also)]
    exact same ▸ back

/-- Blanks in front of a text do not matter to trimming. -/
theorem trimChars_append {blanks : List Char} (all : ∀ c ∈ blanks, isBlank c = true)
    (text : List Char) : trimChars (blanks ++ text) = trimChars text := by
  -- Dropping from the front goes through the blanks and on into the text.
  rw [trimChars, trimChars, List.dropWhile_append_of_pos all]

/-- What is left of a text at its front does not start with a blank. -/
theorem isBlank_of_mem_head?_dropWhile {text : List Char} {c : Char}
    (first : c ∈ (text.dropWhile isBlank).head?) : isBlank c = false := by
  -- What dropping stops at is a character that fails the test.
  have fails := List.head?_dropWhile_not isBlank text
  rw [Option.mem_def.mp first] at fails
  exact fails

/-- Trimming takes away the blanks at both ends of a text and nothing else. -/
theorem trims_trimChars (text : List Char) : Trims text (trimChars text) := by
  -- The front is cut off first, and the end of the rest after it.
  have front := List.takeWhile_append_dropWhile (p := isBlank) (l := text)
  have split := List.rdropWhile_append_rtakeWhile (p := isBlank) (l := text.dropWhile isBlank)
  rw [trimChars, trimEnd_eq_rdropWhile]
  refine ⟨text.takeWhile isBlank, (text.dropWhile isBlank).rtakeWhile isBlank, ?_,
    List.all_eq_true.mp List.all_takeWhile, fun _ => List.mem_rtakeWhile_imp, ?_, ?_⟩
  · rw [List.append_assoc, split, front]
  · intro c first
    -- The first character that is left is also the first one before the end was cut off.
    have same : (text.dropWhile isBlank).head? = some c := by
      rw [← split, List.head?_append, Option.mem_def.mp first, Option.some_or]
    exact isBlank_of_mem_head?_dropWhile same
  · intro c last
    -- A last character that is left has not been dropped, and so it is not blank.
    obtain ⟨filled, rfl⟩ := List.mem_getLast?_eq_getLast last
    simpa using List.rdropWhile_last_not isBlank (text.dropWhile isBlank) filled

end Plotter.Text
