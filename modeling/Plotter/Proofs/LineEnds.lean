import Plotter.Script
import Plotter.Text.Lowercase

/-! Line ends: one scan of a text finds them all, also before the text is lower-cased. -/

namespace Plotter.Text

/-- Splits a text into lines by one scan, to which a carriage return and line feed are one end. -/
def scanLines : List Char → List (List Char)
  -- The pair of carriage return and line feed stands first, so it ends one line and not two.
  | [] => [[]]
  | '\r' :: '\n' :: rest => [] :: scanLines rest
  | c :: rest => if isLineEnd c then [] :: scanLines rest else consFirst c (scanLines rest)

/-- The text has no line end in it. -/
def Unbroken (text : String) : Prop :=
  -- An empty line is unbroken as well.
  ∀ c ∈ text.toList, isLineEnd c = false

instance (text : String) : Decidable (Unbroken text) :=
  -- Every character can be tested.
  decidable_of_iff (text.toList.all (!isLineEnd ·) = true) (by simp [Unbroken])

/-- Two texts without line ends have none when one follows the other. -/
theorem Unbroken.append {front back : String} (first : Unbroken front) (second : Unbroken back) :
    Unbroken (front ++ back) := by
  -- Each character comes from one of the two texts.
  intro c member
  rw [String.toList_append, List.mem_append] at member
  exact member.elim (first c) (second c)

section Split

/-- A list of lines with a character in front is not empty. -/
theorem consFirst_ne_nil (c : Char) (lines : List (List Char)) : consFirst c lines ≠ [] := by
  -- There is a first line to put the character into, or it makes one.
  cases lines <;> simp [consFirst]

/-- A text has at least one line. -/
theorem splitSingles_ne_nil (text : List Char) : splitSingles text ≠ [] := by
  -- Even the empty text has one line, the empty one.
  cases text with
  | nil => simp [splitSingles]
  | cons c rest =>
    rw [splitSingles]
    split
    · simp
    · exact consFirst_ne_nil c _

/-- A text has at least one part between the pairs. -/
theorem splitPairs_ne_nil (text : List Char) : splitPairs text ≠ [] := by
  -- The empty text has one line, and a character joins a line that is there.
  fun_cases splitPairs text with
  | case1 | case2 => simp
  | case3 c rest => exact consFirst_ne_nil c _

/-- A character that starts a text is in front of the first line of its first part. -/
theorem flatMap_splitSingles_consFirst (c : Char) {parts : List (List Char)} (filled : parts ≠ []) :
    (consFirst c parts).flatMap splitSingles =
      if isLineEnd c then [] :: parts.flatMap splitSingles
      else consFirst c (parts.flatMap splitSingles) := by
  cases parts with
  | nil => exact (filled rfl).elim
  | cons part parts =>
    rw [consFirst, List.flatMap_cons, splitSingles, List.flatMap_cons]
    split
    · rfl
    · -- The first line is one of the first part, which has a line.
      cases lines : splitSingles part with
      | nil => exact (splitSingles_ne_nil part lines).elim
      | cons line lines => rfl

/-- Splitting at the pairs, and then at the other line ends, gives the lines of one scan. -/
theorem splitLines_eq_scanLines (text : List Char) : splitLines text = scanLines text := by
  unfold splitLines
  -- The induction follows the scan: a pair, or one character of any kind.
  fun_induction scanLines text with
  | case1 => rfl
  | case2 rest ih =>
    rw [splitPairs, List.flatMap_cons, ih]
    rfl
  | case3 c rest single ends ih =>
    -- A line end that starts no pair is inside the first part, where it ends a line.
    rw [splitPairs.eq_3 c rest single, flatMap_splitSingles_consFirst c (splitPairs_ne_nil rest),
      if_pos ends, ih]
  | case4 c rest single inner ih =>
    rw [splitPairs.eq_3 c rest single, flatMap_splitSingles_consFirst c (splitPairs_ne_nil rest),
      if_neg inner, ih]

/-- A carriage return before a pair is a line end of its own, as is one behind a line feed. -/
example : (splitLines "a\r\r\nb\n\rc".toList).map String.ofList = ["a", "", "b", "", "c"] := by
  decide

/-- A scan leaves at least one line. -/
theorem scanLines_ne_nil (text : List Char) : scanLines text ≠ [] := by
  -- The empty text has one line, and a character joins a line that is there.
  fun_cases scanLines text with
  | case1 | case2 | case3 => simp
  | case4 c rest => exact consFirst_ne_nil c _

/-- A character that is no line end belongs to the line of the characters behind it. -/
theorem scanLines_cons_of_inner {c : Char} (inner : isLineEnd c = false) (rest : List Char) :
    scanLines (c :: rest) = consFirst c (scanLines rest) := by
  rw [scanLines.eq_3, inner, if_neg Bool.false_ne_true]
  -- The first character of a pair is a line end.
  rintro rest rfl -
  cases inner

/-- The first line of a text and the others. -/
theorem exists_scanLines_eq (text : List Char) :
    ∃ first others, scanLines text = first :: others :=
  -- There is always a line, so there is a first one.
  List.exists_cons_of_ne_nil (scanLines_ne_nil text)

/-- Characters that are no line ends belong to the first line of what is behind them. -/
theorem scanLines_append {front rest first : List Char} {others : List (List Char)}
    (inner : ∀ c ∈ front, isLineEnd c = false) (lines : scanLines rest = first :: others) :
    scanLines (front ++ rest) = (front ++ first) :: others := by
  -- The induction is on the characters in front, each of which joins the first line.
  induction front with
  | nil => exact lines
  | cons c front ih =>
    rw [List.forall_mem_cons] at inner
    rw [List.cons_append, scanLines_cons_of_inner inner.1, ih inner.2]
    rfl

/-- No line has a line end in it. -/
theorem isLineEnd_of_mem_scanLines {text line : List Char} (member : line ∈ scanLines text) :
    ∀ c ∈ line, isLineEnd c = false := by
  fun_induction scanLines text generalizing line with
  | case1 => simp_all
  | case2 rest ih | case3 _ rest _ _ ih =>
    rcases List.mem_cons.mp member with rfl | later
    · simp
    · exact ih later
  | case4 c rest single inner ih =>
    -- The character is added to one line, and the other lines stay as they are.
    obtain ⟨first, others, lines⟩ := exists_scanLines_eq rest
    rw [lines] at ih member
    rcases List.mem_cons.mp member with rfl | later
    · exact List.forall_mem_cons.mpr ⟨by simpa using inner, ih List.mem_cons_self⟩
    · exact ih (List.mem_cons_of_mem _ later)

end Split

section Lowercase

/-- A line end has no case, and words end at it. -/
theorem caseless_of_isLineEnd {c : Char} (ends : isLineEnd c = true) :
    isCased c = false ∧ isCaseIgnorable c = false ∧ c ≠ 'Σ' ∧ lowerChar c = [c] := by
  -- Both line ends are looked up in the tables of cased and of ignorable characters.
  obtain rfl | rfl : c = '\r' ∨ c = '\n' := by simpa [isLineEnd] using ends
  · decide +kernel
  · decide +kernel

/-- A character made of a number has that code point, or zero if there is none like it. -/
theorem toNat_ofNat (n : Nat) : (Char.ofNat n).toNat = n ∨ (Char.ofNat n).toNat = 0 := by
  -- A number that is no character gives the null character.
  by_cases valid : n.isValidChar
  · exact .inl (by rw [Char.ofNat, dif_pos valid]; rfl)
  · exact .inr (by rw [Char.ofNat, dif_neg valid]; rfl)

/-- The lower-case form of any other character has no line end in it. -/
theorem isLineEnd_of_mem_lowerChar {c lower : Char} (inner : isLineEnd c = false)
    (member : lower ∈ lowerChar c) : isLineEnd lower = false := by
  -- Lower-case letters of a run come behind the line ends, or are no characters at all.
  have beyond : ∀ run ∈ caseRuns, 13 < run.lower := by decide +kernel
  have ends : ∀ c, isLineEnd c = true → c.toNat = 13 ∨ c.toNat = 10 := by
    intro c ends
    obtain rfl | rfl : c = '\r' ∨ c = '\n' := by simpa [isLineEnd] using ends
    · exact .inl rfl
    · exact .inr rfl
  unfold lowerChar at member
  -- The character has a form of two characters, or its run gives its form, or it has no case.
  split at member
  · simp only [List.mem_cons, List.not_mem_nil, or_false] at member
    rcases member with rfl | rfl <;> rfl
  · split at member
    · rename_i run found
      have behind := beyond run (List.mem_of_find?_eq_some found)
      have code := toNat_ofNat (run.lower + (c.toNat - run.first))
      rw [← List.mem_singleton.mp member] at code
      refine Bool.eq_false_iff.mpr fun ended => ?_
      have early := ends lower ended
      omega
    · rwa [List.mem_singleton.mp member]

/-- Whether a cased letter comes next is told by the first character that is not ignorable. -/
theorem startsCased_cons (c : Char) (rest : List Char) :
    startsCased (c :: rest) = if isCaseIgnorable c then startsCased rest else isCased c := by
  unfold startsCased
  -- An ignorable character is skipped, and any other decides.
  by_cases ignorable : isCaseIgnorable c = true
  · rw [if_pos ignorable, List.dropWhile_cons_of_pos ignorable]
  · rw [if_neg ignorable, List.dropWhile_cons_of_neg ignorable]

/-- No cased letter comes next at a line end. -/
theorem startsCased_of_isLineEnd {c : Char} (ends : isLineEnd c = true) (rest : List Char) :
    startsCased (c :: rest) = false := by
  -- A line end is not ignorable, so it decides, and it has no case.
  obtain ⟨cased, ignorable, -⟩ := caseless_of_isLineEnd ends
  rw [startsCased_cons, ignorable, cased]
  rfl

/-- Whether a cased letter comes next is told by the line alone. -/
theorem startsCased_of_scanLines {text first : List Char} {others : List (List Char)}
    (lines : scanLines text = first :: others) : startsCased text = startsCased first := by
  -- A line end has no case, so it is as good as the end of the text.
  fun_induction scanLines text generalizing first others with
  | case1 =>
    obtain ⟨rfl, -⟩ := List.cons.inj lines
    rfl
  | case2 rest ih =>
    obtain ⟨rfl, -⟩ := List.cons.inj lines
    exact startsCased_of_isLineEnd rfl _
  | case3 c rest single ends ih =>
    obtain ⟨rfl, -⟩ := List.cons.inj lines
    exact startsCased_of_isLineEnd ends _
  | case4 c rest single inner ih =>
    obtain ⟨line, later, behind⟩ := exists_scanLines_eq rest
    rw [behind] at lines
    obtain ⟨rfl, -⟩ := List.cons.inj lines
    rw [startsCased_cons, startsCased_cons, ih behind]

/-- A line end stays as it is, and the next line starts without a letter in front of it. -/
theorem lowerFrom_of_isLineEnd {c : Char} (ends : isLineEnd c = true) (afterLetter : Bool)
    (rest : List Char) : lowerFrom afterLetter (c :: rest) = c :: lowercase rest := by
  -- A line end has no case: it stays, and no letter stands before what follows.
  obtain ⟨cased, ignorable, other, same⟩ := caseless_of_isLineEnd ends
  simp [lowerFrom, lowercase, cased, ignorable, other, same]

/-- Every character has a lower-case form. -/
theorem lowerChar_ne_nil (c : Char) : lowerChar c ≠ [] := by
  unfold lowerChar
  -- Only capital letters are changed, and to one character or to two.
  split
  · simp
  · split <;> simp

/-- What becomes of any other character is told by its line alone, and has no line end in it. -/
theorem exists_lowerFrom_cons {c : Char} (inner : isLineEnd c = false) (afterLetter : Bool)
    {rest line : List Char} (same : startsCased rest = startsCased line) :
    ∃ front next, front ≠ [] ∧ (∀ lower ∈ front, isLineEnd lower = false) ∧
      lowerFrom afterLetter (c :: rest) = front ++ lowerFrom next rest ∧
      lowerFrom afterLetter (c :: line) = front ++ lowerFrom next line := by
  refine ⟨_, _, ?_, ?_, rfl, by rw [lowerFrom, same]⟩
  · split
    · simp
    · exact lowerChar_ne_nil c
  · -- Both forms of a sigma are letters.
    intro lower member
    split at member
    · obtain rfl := List.mem_singleton.mp member
      split <;> rfl
    · exact isLineEnd_of_mem_lowerChar inner member

/-- A lower-cased text starts with a line feed only if the text does. -/
theorem head?_of_head?_lowerFrom {afterLetter : Bool} {text : List Char}
    (starts : (lowerFrom afterLetter text).head? = some '\n') : text.head? = some '\n' := by
  cases text with
  | nil => exact starts
  | cons c rest =>
    -- Line ends are left as they are, and no other character is lowered to one.
    cases kind : isLineEnd c with
    | true =>
      rw [lowerFrom_of_isLineEnd kind] at starts
      exact starts
    | false =>
      obtain ⟨front, next, filled, none, whole, -⟩ := exists_lowerFrom_cons kind afterLetter rfl
      obtain ⟨lower, front, rfl⟩ := List.exists_cons_of_ne_nil filled
      rw [whole] at starts
      obtain rfl := Option.some.inj starts
      exact nomatch none '\n' List.mem_cons_self

/--
Splitting a lower-cased text gives the lower-cased lines of the text.

Only the first line has a left neighbourhood that may end in a cased letter.
-/
theorem scanLines_lowerFrom (afterLetter : Bool) {text first : List Char}
    {others : List (List Char)} (lines : scanLines text = first :: others) :
    scanLines (lowerFrom afterLetter text) =
      lowerFrom afterLetter first :: others.map lowercase := by
  fun_induction scanLines text generalizing afterLetter first others with
  | case1 =>
    obtain ⟨rfl, rfl⟩ := List.cons.inj lines
    rfl
  | case2 rest ih =>
    obtain ⟨rfl, rfl⟩ := List.cons.inj lines
    -- The pair is a pair afterwards, too.
    obtain ⟨line, later, behind⟩ := exists_scanLines_eq rest
    rw [lowerFrom_of_isLineEnd rfl, lowercase, lowerFrom_of_isLineEnd rfl, scanLines, lowercase,
      ih false behind, behind]
    rfl
  | case3 c rest single ends ih =>
    obtain ⟨rfl, rfl⟩ := List.cons.inj lines
    obtain ⟨line, later, behind⟩ := exists_scanLines_eq rest
    -- A carriage return without a line feed does not get one behind it.
    have alone : ∀ after, c = '\r' → lowerFrom false rest = '\n' :: after → False := by
      intro after carriage pair
      have starts : rest.head? = some '\n' := head?_of_head?_lowerFrom (by rw [pair]; rfl)
      obtain ⟨tail, same⟩ := List.head?_eq_some_iff.mp starts
      exact single tail carriage same
    rw [lowerFrom_of_isLineEnd ends, lowercase, scanLines.eq_3 c _ alone, if_pos ends,
      ih false behind, behind]
    rfl
  | case4 c rest single inner ih =>
    obtain ⟨line, later, behind⟩ := exists_scanLines_eq rest
    rw [behind] at lines
    obtain ⟨rfl, rfl⟩ := List.cons.inj lines
    -- The form of the character is told by its line alone, and joins the first line.
    obtain ⟨front, next, -, none, whole, part⟩ := exists_lowerFrom_cons (by simpa using inner)
      afterLetter (startsCased_of_scanLines behind)
    rw [whole, part, scanLines_append none (ih next behind)]

/-- The lines of a lower-cased text are the lower-cased lines of the text. -/
theorem scanLines_lowercase (text : List Char) :
    scanLines (lowercase text) = (scanLines text).map lowercase := by
  -- Between two line ends lower-casing looks at nothing outside, final sigma included.
  obtain ⟨first, others, lines⟩ := exists_scanLines_eq text
  rw [lowercase, scanLines_lowerFrom false lines, lines]
  rfl

end Lowercase

end Plotter.Text
