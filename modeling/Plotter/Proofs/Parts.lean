import Plotter.Drawing

/-! Texts that are put together of parts, which can be told apart where no part has a separator. -/

namespace Plotter

namespace Text

/-- The text has none of the characters. -/
def Free (excluded : List Char) (text : String) : Prop :=
  -- Nothing is said about the other characters.
  ∀ c ∈ excluded, c ∉ text.toList

instance (excluded : List Char) (text : String) : Decidable (Free excluded text) :=
  -- Only the characters that are excluded are looked for.
  decidable_of_iff (excluded.all (!text.toList.contains ·) = true) (by simp [Free])

variable {excluded : List Char} {first second front other rest tail : String}

/-- Two texts in a row are free of what both of them are free of. -/
@[simp] theorem free_append :
    Free excluded (first ++ second) ↔ Free excluded first ∧ Free excluded second := by
  -- A character of the whole is a character of one of its parts.
  simp only [Free, String.toList_append, List.mem_append, not_or]
  exact ⟨fun free => ⟨fun c listed => (free c listed).1, fun c listed => (free c listed).2⟩,
    fun free c listed => ⟨free.1 c listed, free.2 c listed⟩⟩

/-- A text that is free of some characters is free of any part of them. -/
theorem Free.mono {fewer : List Char} (free : Free excluded first)
    (part : ∀ c ∈ fewer, c ∈ excluded) : Free fewer first :=
  -- Fewer characters are easier to avoid.
  fun c listed => free c (part c listed)

/-- All characters of the text are of the kind. -/
def Within (kind : Char → Bool) (text : String) : Prop :=
  -- The empty text is within every kind.
  ∀ c ∈ text.toList, kind c = true

/-- Two texts in a row are of the kind that both of them are of. -/
@[simp] theorem within_append {kind : Char → Bool} :
    Within kind (first ++ second) ↔ Within kind first ∧ Within kind second := by
  -- A character of the whole is a character of one of its parts.
  simp only [Within, String.toList_append, List.mem_append, or_imp, forall_and]

/-- A text is of any kind that takes in its own. -/
theorem Within.mono {kind wider : Char → Bool} (within : Within kind first)
    (part : ∀ c, kind c = true → wider c = true) : Within wider first :=
  -- Each character is moved to the wider kind.
  fun c member => part c (within c member)

/-- A text is free of all characters that are not of its kind. -/
theorem Within.free {kind : Char → Bool} (within : Within kind first)
    (apart : excluded.all (!kind ·) = true) : Free excluded first := by
  intro c listed member
  -- A character that is excluded is not of the kind.
  have other := List.all_eq_true.mp apart c listed
  simp [within c member] at other

/-- A list of characters is cut in one way at the first of a kind. -/
theorem append_cons_inj {c : Char} {front other rest tail : List Char} (one : c ∉ front)
    (two : c ∉ other) (same : front ++ c :: rest = other ++ c :: tail) :
    front = other ∧ rest = tail := by
  -- The induction is on the front, beside which the other one has to go on as well.
  induction front generalizing other with
  | nil =>
    cases other with
    | nil => exact ⟨rfl, (List.cons.inj same).2⟩
    | cons d other =>
      obtain ⟨rfl, -⟩ := List.cons.inj same
      exact (two List.mem_cons_self).elim
  | cons d front ih =>
    cases other with
    | nil =>
      obtain ⟨rfl, -⟩ := List.cons.inj same
      exact (one List.mem_cons_self).elim
    | cons e other =>
      obtain ⟨rfl, behind⟩ := List.cons.inj same
      rw [List.mem_cons, not_or] at one two
      obtain ⟨rfl, ends⟩ := ih one.2 two.2 behind
      exact ⟨rfl, ends⟩

/-- A text is cut in one way at a separator whose first character is not in front of it. -/
theorem append_separator_inj {separator : String} {c : Char}
    (starts : separator.toList.head? = some c) (one : Free [c] front) (two : Free [c] other)
    (same : front ++ separator ++ rest = other ++ separator ++ tail) :
    front = other ∧ rest = tail := by
  obtain ⟨more, split⟩ := List.head?_eq_some_iff.mp starts
  -- The first character of the separator is where the characters are cut.
  have characters := congrArg String.toList same
  simp only [String.toList_append, split, List.append_assoc, List.cons_append] at characters
  obtain ⟨fronts, behind⟩ := append_cons_inj (one c List.mem_cons_self) (two c List.mem_cons_self)
    characters
  exact ⟨String.toList_injective fronts, String.toList_injective (List.append_cancel_left behind)⟩

/-- Texts with a separator between them are free of what all of these are free of. -/
theorem free_intercalate {separator : String} (between : Free excluded separator)
    {parts : List String} (each : ∀ part ∈ parts, Free excluded part) :
    Free excluded (separator.intercalate parts) := by
  induction parts with
  | nil => simp [Free]
  | cons part rest ih =>
    rw [List.forall_mem_cons] at each
    -- The last part has no separator behind it.
    cases rest with
    | nil => simpa using each.1
    | cons next rest =>
      rw [String.intercalate_cons_cons]
      exact free_append.mpr ⟨free_append.mpr ⟨each.1, between⟩, ih each.2⟩

/-- Texts with a separator between them have a unique split, if none of them has it. -/
theorem intercalate_inj {separator : String} {c : Char} (single : separator.toList = [c])
    {parts others : List String} (one : ∀ part ∈ parts, Free [c] part)
    (two : ∀ part ∈ others, Free [c] part) (filled : parts ≠ []) (also : others ≠ [])
    (same : separator.intercalate parts = separator.intercalate others) : parts = others := by
  have characters := congrArg (List.splitOn c ∘ String.toList) same
  simp only [Function.comp_apply, String.toList_intercalate, single] at characters
  -- Splitting at the separator gives back the parts on both sides.
  have free : ∀ {parts : List String}, (∀ part ∈ parts, Free [c] part) →
      ∀ part ∈ parts.map String.toList, c ∉ part := by
    intro parts each part listed
    obtain ⟨text, member, rfl⟩ := List.mem_map.mp listed
    exact each text member c List.mem_cons_self
  rw [List.splitOn_intercalate c (free one) (by simpa using filled),
    List.splitOn_intercalate c (free two) (by simpa using also)] at characters
  exact (List.map_inj_right fun _ _ => String.toList_injective).mp characters

end Text

namespace Number

open Text

/-- Whether a character can be a part of a number. -/
def isNumeral (c : Char) : Bool :=
  -- A minus sign is the only other character that a decimal can have.
  c.isDigit || c == '-'

/-- A number in decimal notation has nothing but digits and a sign. -/
theorem within_decimal (value : Int) : Within isNumeral (decimal value) := by
  intro c member
  -- The sign is in front of the digits of a number below zero, and of no other.
  have digit : c ∈ Nat.toDigits 10 value.natAbs → isNumeral c = true := by
    intro found
    simp [isNumeral, Nat.isDigit_of_mem_toDigits (by decide) (by decide) found]
  rw [decimal, String.toList_ofList, digits] at member
  split at member
  · rcases List.mem_cons.mp member with rfl | found
    · rfl
    · exact digit found
  · exact digit member

/-- A number is known by its decimal notation. -/
theorem decimal_inj {first second : Int} (same : decimal first = decimal second) :
    first = second := by
  have characters : digits first = digits second := by
    simpa [decimal] using congrArg String.toList same
  -- Reading the digits of a natural number gives it back.
  have sizes : ∀ {one two : Nat}, Nat.toDigits 10 one = Nat.toDigits 10 two → one = two := by
    intro one two written
    rw [← Nat.ofDigitChars_ten_toDigits (n := one), written, Nat.ofDigitChars_ten_toDigits]
  -- A sign is no digit, so both numbers are on the same side of zero.
  have apart : ∀ {one two : Nat}, '-' :: Nat.toDigits 10 one ≠ Nat.toDigits 10 two := by
    intro one two written
    have sign : '-' ∈ Nat.toDigits 10 two := written ▸ List.mem_cons_self
    exact nomatch Nat.isDigit_of_mem_toDigits (by decide) (by decide) sign
  unfold digits at characters
  by_cases negative : first < 0
  · by_cases also : second < 0
    · rw [if_pos negative, if_pos also] at characters
      have size := sizes (List.cons.inj characters).2
      omega
    · rw [if_pos negative, if_neg also] at characters
      exact (apart characters).elim
  · by_cases also : second < 0
    · rw [if_neg negative, if_pos also] at characters
      exact (apart characters.symm).elim
    · rw [if_neg negative, if_neg also] at characters
      have size := sizes characters
      omega

/-- A number of a script is known by its text. -/
theorem text_inj {first second : Number} (same : first.text = second.text) : first = second :=
  -- A number is known by its integer, and an integer by its decimal.
  Int32.toInt_inj.mp (decimal_inj same)

end Number

end Plotter
