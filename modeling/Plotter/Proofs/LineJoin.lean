import Mathlib.Data.List.Chain
import Plotter.Proofs.LineEnds
import Plotter.Script

/-! Texts put together of lines, which come apart into the same lines whatever ends these have. -/

namespace Plotter

namespace Text

/-- The ways in which a line can end. -/
inductive LineEnd where
  /-- With a line feed. -/
  | feed
  /-- With a carriage return. -/
  | carriage
  /-- With a carriage return and a line feed. -/
  | pair
  deriving DecidableEq, Repr

/-- The characters of a line end. -/
def LineEnd.text : LineEnd → String
  -- The pair is one end of a line, though it has two characters.
  | feed => "\n"
  | carriage => "\r"
  | pair => "\r\n"

/-- A text made of a first line and others, in front of each of which the line before it ends. -/
def joined : String → List (LineEnd × String) → String
  -- There is one ending fewer than there are lines.
  | first, [] => first
  | first, (ending, line) :: rest => first ++ ending.text ++ joined line rest

/-- The characters of a text of lines are those of its first line, of its end, and of the rest. -/
theorem toList_joined_cons (first : String) (ending : LineEnd) (line : String)
    (rest : List (LineEnd × String)) :
    (joined first ((ending, line) :: rest)).toList =
      first.toList ++ (ending.text.toList ++ (joined line rest).toList) := by
  -- As characters, the three parts stand one behind the other.
  rw [joined, String.toList_append, String.toList_append, List.append_assoc]

/-- The lines that a text is made of. -/
def linesOf (first : String) (rest : List (LineEnd × String)) : List String :=
  -- The endings are dropped, so an empty rest leaves one line.
  first :: rest.map Prod.snd

/-- No carriage return has just an empty line between itself and a line feed. -/
def Apart (rest : List (LineEnd × String)) : Prop :=
  -- The two would stand together, and be taken for one line end.
  rest.IsChain fun (ending, line) (next, _) => ¬ (ending = .carriage ∧ line = "" ∧ next = .feed)

instance (rest : List (LineEnd × String)) : Decidable (Apart rest) :=
  -- A chain is checked link by link.
  inferInstanceAs (Decidable (List.IsChain _ rest))

/-- A text in lower case. -/
def lowered (text : String) : String :=
  -- The characters are lowered together, as a sigma depends on its neighbours.
  String.ofList (lowercase text.toList)

section Lowercase

variable {c : Char} (ends : isLineEnd c = true)

include ends

/-- What comes behind a line end does not tell whether a cased letter comes next on the line. -/
theorem startsCased_append_of_isLineEnd (line rest : List Char) :
    startsCased (line ++ c :: rest) = startsCased line := by
  -- The look ahead is over at the line end at the latest.
  induction line with
  | nil => exact startsCased_of_isLineEnd ends rest
  | cons d line ih => rw [List.cons_append, startsCased_cons, startsCased_cons, ih]

/-- The text on either side of a line end is lower-cased on its own. -/
theorem lowerFrom_append_of_isLineEnd (afterLetter : Bool) (line rest : List Char) :
    lowerFrom afterLetter (line ++ c :: rest) =
      lowerFrom afterLetter line ++ c :: lowercase rest := by
  -- The induction is on the line, of which each character leaves its own neighbourhood behind.
  induction line generalizing afterLetter with
  | nil => exact lowerFrom_of_isLineEnd ends afterLetter rest
  | cons d line ih =>
    rw [List.cons_append, lowerFrom, lowerFrom, startsCased_append_of_isLineEnd ends, ih,
      List.append_assoc]

end Lowercase

/-- Lower-casing a line and what is behind its end lower-cases the two of them. -/
theorem lowered_append (first : String) (ending : LineEnd) (rest : String) :
    lowered (first ++ ending.text ++ rest) = lowered first ++ ending.text ++ lowered rest := by
  have cut : ∀ {c : Char}, isLineEnd c = true → ∀ front behind : List Char,
      lowercase (front ++ c :: behind) = lowercase front ++ c :: lowercase behind :=
    fun ends => lowerFrom_append_of_isLineEnd ends false
  refine String.toList_injective ?_
  simp only [lowered, String.toList_append, String.toList_ofList, List.append_assoc]
  cases ending with
  | feed => exact cut rfl _ _
  | carriage => exact cut rfl _ _
  | pair =>
    -- The line feed has nothing but the carriage return in front of it.
    have second : lowercase ('\n' :: rest.toList) = '\n' :: lowercase rest.toList :=
      cut rfl [] rest.toList
    refine (cut rfl first.toList ('\n' :: rest.toList)).trans ?_
    rw [second]
    rfl

/-- Lower-casing a text lower-cases each of its lines on its own and keeps their ends. -/
theorem lowered_joined (first : String) (rest : List (LineEnd × String)) :
    lowered (joined first rest) =
      joined (lowered first) (rest.map fun (ending, line) => (ending, lowered line)) := by
  -- A line end cuts the text for lower-casing, so each line is lowered for itself.
  induction rest generalizing first with
  | nil => rfl
  | cons head rest ih =>
    obtain ⟨ending, line⟩ := head
    rw [joined, lowered_append, ih]
    rfl

section Scan

/-- A line end in front of a text is a line end of its own, if it is not part of a pair there. -/
theorem scanLines_lineEnd {ending : LineEnd} {text : List Char}
    (alone : ending = .carriage → text.head? ≠ some '\n') :
    scanLines (ending.text.toList ++ text) = [] :: scanLines text := by
  -- Only a carriage return could be a pair with what follows it.
  cases ending with
  | feed => rfl
  | pair => rfl
  | carriage =>
    show scanLines ('\r' :: text) = _
    rw [scanLines.eq_3]
    · rfl
    · rintro rest - rfl
      exact alone rfl rfl

/-- A text that starts with a line feed has an empty line there, which ends with it. -/
theorem eq_feed_of_head?_joined {line : String} {rest : List (LineEnd × String)}
    (inner : Unbroken line) (starts : (joined line rest).toList.head? = some '\n') :
    line = "" ∧ ∃ next others, rest = (.feed, next) :: others := by
  have empty : line.toList = [] := by
    cases characters : line.toList with
    | nil => rfl
    | cons c more =>
      -- The first character of a line is no line end.
      have first : (joined line rest).toList.head? = some c := by
        cases rest <;> simp [joined, characters]
      obtain rfl : c = '\n' := Option.some.inj (first.symm.trans starts)
      exact nomatch inner '\n' (by simp [characters])
  obtain rfl : line = "" := String.toList_eq_nil_iff.mp empty
  refine ⟨rfl, ?_⟩
  cases rest with
  | nil => simp [joined] at starts
  | cons head others =>
    obtain ⟨ending, next⟩ := head
    -- The two other line ends start with a carriage return.
    cases ending with
    | feed => exact ⟨next, others, rfl⟩
    | carriage | pair => simp [joined, LineEnd.text] at starts

/-- A text of lines is scanned into just these lines, if no two of its line ends make a pair. -/
theorem scanLines_joined {first : String} {rest : List (LineEnd × String)}
    (inner : ∀ line ∈ linesOf first rest, Unbroken line) (apart : Apart rest) :
    scanLines (joined first rest).toList = (linesOf first rest).map String.toList := by
  -- The induction is on the lines behind the first one, which is in front of all line ends.
  induction rest generalizing first with
  | nil =>
    have whole := scanLines_append (inner first List.mem_cons_self) (rfl : scanLines [] = [[]])
    simpa [joined, linesOf] using whole
  | cons head rest ih =>
    obtain ⟨ending, line⟩ := head
    obtain ⟨unbroken, others⟩ : Unbroken first ∧ ∀ other ∈ linesOf line rest, Unbroken other :=
      List.forall_mem_cons.mp inner
    have alone : ending = .carriage → (joined line rest).toList.head? ≠ some '\n' := by
      rintro rfl starts
      obtain ⟨rfl, next, more, rfl⟩ :=
        eq_feed_of_head?_joined (others line List.mem_cons_self) starts
      exact (List.isChain_cons_cons.mp apart).1 ⟨rfl, rfl, rfl⟩
    have behind := scanLines_lineEnd alone
    rw [ih others apart.tail] at behind
    rw [toList_joined_cons, scanLines_append unbroken behind, List.append_nil]
    rfl

/-- Characters that are no line ends do not change the number of lines. -/
theorem length_scanLines_append {front : List Char} (inner : ∀ c ∈ front, isLineEnd c = false)
    (text : List Char) : (scanLines (front ++ text)).length = (scanLines text).length := by
  -- Characters without a line end join the first line and add none.
  obtain ⟨first, others, lines⟩ := exists_scanLines_eq text
  rw [scanLines_append inner lines, lines, List.length_cons, List.length_cons]

/-- A line end in front of a text makes one more line, or is part of a pair and makes none. -/
theorem length_scanLines_lineEnd_le (ending : LineEnd) (text : List Char) :
    (scanLines (ending.text.toList ++ text)).length ≤ (scanLines text).length + 1 := by
  by_cases alone : ending = .carriage → text.head? ≠ some '\n'
  · rw [scanLines_lineEnd alone, List.length_cons]
  · simp only [not_forall, Decidable.not_not] at alone
    obtain ⟨rfl, starts⟩ := alone
    obtain ⟨rest, rfl⟩ := List.head?_eq_some_iff.mp starts
    -- The line feed ends a line with or without the carriage return.
    exact Nat.le_succ _

/-- A text has no more lines than it is made of. -/
theorem length_scanLines_joined_le {first : String} {rest : List (LineEnd × String)}
    (inner : ∀ line ∈ linesOf first rest, Unbroken line) :
    (scanLines (joined first rest).toList).length ≤ rest.length + 1 := by
  -- Each line end makes one more line at most, and the characters between them make none.
  induction rest generalizing first with
  | nil =>
    have whole := length_scanLines_append (inner first List.mem_cons_self) []
    rw [List.append_nil] at whole
    exact Nat.le_of_eq whole
  | cons head rest ih =>
    obtain ⟨ending, line⟩ := head
    obtain ⟨unbroken, others⟩ : Unbroken first ∧ ∀ other ∈ linesOf line rest, Unbroken other :=
      List.forall_mem_cons.mp inner
    have behind := ih others
    have more := length_scanLines_lineEnd_le ending (joined line rest).toList
    rw [toList_joined_cons, length_scanLines_append unbroken, List.length_cons]
    omega

/-- A text in which two line ends make a pair has fewer lines than it is made of. -/
theorem length_scanLines_joined_lt {first : String} {rest : List (LineEnd × String)}
    (inner : ∀ line ∈ linesOf first rest, Unbroken line) (together : ¬ Apart rest) :
    (scanLines (joined first rest).toList).length < rest.length + 1 := by
  induction rest generalizing first with
  | nil => exact (together .nil).elim
  | cons head rest ih =>
    obtain ⟨ending, line⟩ := head
    obtain ⟨unbroken, others⟩ : Unbroken first ∧ ∀ other ∈ linesOf line rest, Unbroken other :=
      List.forall_mem_cons.mp inner
    rw [toList_joined_cons, length_scanLines_append unbroken, List.length_cons]
    by_cases apart : Apart rest
    · cases rest with
      | nil => exact (together (.singleton _)).elim
      | cons second more =>
        obtain ⟨other, next⟩ := second
        -- The pair is made by the first two line ends, between which nothing stands.
        obtain ⟨rfl, rfl, rfl⟩ : ending = .carriage ∧ line = "" ∧ other = .feed := by
          by_contra separate
          exact together (List.isChain_cons_cons.mpr ⟨separate, apart⟩)
        have pair : scanLines (LineEnd.carriage.text.toList ++
            (joined "" ((.feed, next) :: more)).toList) =
              [] :: scanLines (joined next more).toList := by
          simp [joined, LineEnd.text, scanLines]
        have behind := length_scanLines_joined_le (List.forall_mem_cons.mp others).2
        rw [pair, List.length_cons, List.length_cons]
        exact Nat.succ_lt_succ_iff.mpr (Nat.lt_succ_of_le behind)
    · -- The pair is further behind, and the first line end cannot make up for it.
      have behind := ih others apart
      have more := length_scanLines_lineEnd_le ending (joined line rest).toList
      omega

/-- Characters in front of a text of lines are in front of the first of them. -/
theorem joined_append (front first : String) (rest : List (LineEnd × String)) :
    joined (front ++ first) rest = front ++ joined first rest := by
  -- Only the first line is longer.
  cases rest with
  | nil => rfl
  | cons head rest => simp [joined, String.append_assoc]

/-- A line end stays apart from those behind it, unless it is taken for one with the next. -/
theorem Apart.cons {ending : LineEnd} {first : String} {rest : List (LineEnd × String)}
    (apart : Apart rest)
    (alone : ending = .carriage → (joined first rest).toList.head? ≠ some '\n') :
    Apart ((ending, first) :: rest) := by
  cases rest with
  | nil => exact .singleton _
  | cons head rest =>
    refine List.isChain_cons_cons.mpr ⟨?_, apart⟩
    obtain ⟨other, next⟩ := head
    rintro ⟨rfl, rfl, rfl⟩
    -- The line feed is what comes next if the line is empty.
    exact alone rfl (by simp [joined, LineEnd.text])

/-- The text is made of lines, and no two of its line ends make a pair. -/
def MadeOfLines (text : List Char) : Prop :=
  -- The lines and endings are not said to be the only ones.
  ∃ first rest, (∀ line ∈ linesOf first rest, Unbroken line) ∧ Apart rest ∧
    (joined first rest).toList = text

/-- A line end in front of a text ends an empty line. -/
theorem MadeOfLines.behind {text : List Char} (made : MadeOfLines text) (ending : LineEnd)
    (alone : ending = .carriage → text.head? ≠ some '\n') :
    MadeOfLines (ending.text.toList ++ text) := by
  obtain ⟨first, rest, inner, apart, rfl⟩ := made
  -- The new ending stands behind an empty first line.
  refine ⟨"", (ending, first) :: rest, List.forall_mem_cons.mpr ⟨by decide, inner⟩,
    apart.cons alone, ?_⟩
  simp [joined]

/-- A character that is no line end belongs to the first line of what is behind it. -/
theorem MadeOfLines.cons {text : List Char} (made : MadeOfLines text) {c : Char}
    (inside : isLineEnd c = false) : MadeOfLines (c :: text) := by
  obtain ⟨first, rest, inner, apart, rfl⟩ := made
  obtain ⟨unbroken, later⟩ : Unbroken first ∧ ∀ other ∈ rest.map Prod.snd, Unbroken other :=
    List.forall_mem_cons.mp inner
  -- The character goes to the front of the first line.
  have single : Unbroken (String.singleton c) := by simpa [Unbroken] using inside
  refine ⟨String.singleton c ++ first, rest,
    List.forall_mem_cons.mpr ⟨single.append unbroken, later⟩, apart, ?_⟩
  rw [joined_append, String.toList_append]
  simp

/-- Every text is made of lines. -/
theorem madeOfLines (text : List Char) : MadeOfLines text := by
  -- The scan meets a pair, another line end, or a character of the line that it is in.
  fun_induction scanLines text with
  | case1 => exact ⟨"", [], List.forall_mem_singleton.mpr (by decide), .nil, rfl⟩
  | case2 rest ih => exact ih.behind .pair (by simp)
  | case3 c rest single ends ih =>
    obtain rfl | rfl : c = '\r' ∨ c = '\n' := by simpa [isLineEnd] using ends
    · refine ih.behind .carriage fun _ starts => ?_
      obtain ⟨behind, same⟩ := List.head?_eq_some_iff.mp starts
      exact single behind rfl same
    · exact ih.behind .feed (by simp)
  | case4 c rest single inside ih => exact ih.cons (by simpa using inside)

end Scan

end Text

namespace Script

open Text

/-- A line as a script has it: in lower case and without the blanks around it. -/
def cleaned (line : String) : String :=
  -- Trimming comes last, as it does in the program.
  trim (lowered line)

/-- A script has the lines of its text, each of them cleaned on its own. -/
theorem lines_eq_map_cleaned (text : String) :
    lines text = (scanLines text.toList).map fun line => cleaned (String.ofList line) := by
  rw [lines, splitLines_eq_scanLines, scanLines_lowercase, List.map_map]
  -- Line by line it is the same two changes.
  refine List.map_congr_left fun line _ => ?_
  simp [cleaned, trim, lowered]

/-- A text that is made of lines is read as these lines, if no two of its line ends make a pair. -/
theorem lines_joined {first : String} {rest : List (LineEnd × String)}
    (inner : ∀ line ∈ linesOf first rest, Unbroken line) (apart : Apart rest) :
    lines (joined first rest) = (linesOf first rest).map cleaned := by
  -- Splitting gives the lines back, and each of them is cleaned.
  rw [lines_eq_map_cleaned, scanLines_joined inner apart, List.map_map]
  refine List.map_congr_left fun line _ => ?_
  simp

/--
Every line of a script is read on its own.

A text made of lines, with any of the three ends behind each of them but the last one, is read as
just these lines, each in lower case and without the blanks around it. Which ends they are does not
matter, and there is one line more than there are ends. This fails only where an empty line stands
between a carriage return and a line feed, which are one end there. No line matters to the lower
case of another one, and every text is made of lines in this way.
-/
theorem lines_of_joined :
    (∀ first rest, (∀ line ∈ linesOf first rest, Unbroken line) →
      (Apart rest → lines (joined first rest) = (linesOf first rest).map cleaned) ∧
      (Apart rest ↔ (lines (joined first rest)).length = rest.length + 1) ∧
      (∀ other, linesOf first other = linesOf first rest → Apart rest → Apart other →
        lines (joined first other) = lines (joined first rest)) ∧
      lowered (joined first rest) =
        joined (lowered first) (rest.map fun (ending, line) => (ending, lowered line))) ∧
    ∀ text, ∃ first rest, (∀ line ∈ linesOf first rest, Unbroken line) ∧ Apart rest ∧
      joined first rest = text := by
  constructor
  · intro first rest inner
    refine ⟨lines_joined inner, ⟨fun apart => ?_, fun number => ?_⟩, ?_, lowered_joined first rest⟩
    · simp [lines_joined inner apart, linesOf]
    · -- Every pair that is taken for one line end takes a line away.
      by_contra together
      have fewer := length_scanLines_joined_lt inner together
      rw [lines_eq_map_cleaned, List.length_map] at number
      omega
    · intro other same apart also
      rw [lines_joined inner apart, lines_joined (same ▸ inner) also, same]
  · intro text
    obtain ⟨first, rest, inner, apart, whole⟩ := madeOfLines text.toList
    exact ⟨first, rest, inner, apart, String.toList_injective whole⟩

/--
A sigma at the end of a line has its final form although there is a letter on the next line, and a
sigma at the start of a line has the other one. A pair of line ends around an empty line is one end.
-/
theorem lines_of_joined_mixed_ends :
    let rest : List (LineEnd × String) :=
      [(.carriage, "Σ"), (.pair, ""), (.carriage, " İ\u2003"), (.feed, "")]
    joined "ΑΣ" rest = "ΑΣ\rΣ\r\n\r İ\u2003\n" ∧
      lines (joined "ΑΣ" rest) = ["ας", "σ", "", "i\u0307", ""] ∧
      (lines (joined "" [(.carriage, ""), (.feed, "")])).length ≠ 3 := by
  intro rest
  -- The last pair would be read as one ending, so the count of three fails there.
  have inner : ∀ line ∈ linesOf "ΑΣ" rest, Unbroken line := by decide +kernel
  have empty : ∀ line ∈ linesOf "" [(.carriage, ""), (.feed, "")], Unbroken line := by decide
  obtain ⟨read, -⟩ := lines_of_joined.1 "ΑΣ" rest inner
  obtain ⟨-, number, -⟩ := lines_of_joined.1 "" [(.carriage, ""), (.feed, "")] empty
  refine ⟨by decide +kernel, ?_, fun three => ?_⟩
  · rw [read (by decide)]
    decide +kernel
  · exact absurd (number.mpr three) (by decide)

end Script

end Plotter
