import Plotter.Proofs.RoundTrip

/-! What a line spells, written as a line again: the same command, but for one kind of opening. -/

namespace Plotter

open Plotter.Grammar Plotter.Scan

namespace Form

/-- A line is an assignment by its first word and by what follows that. -/
theorem mem_assignment_iff {others : Language Char} (solid : Breaks isSpace others)
    (line : List Char) :
    (∃ name, line ∈ identifier name * sign "=" * others) ↔
      Identifier.Spelled (String.ofList (firstWord line)) ∧
        ∃ rest, afterWord line = '=' :: rest ∧ rest.dropWhile isSpace ∈ others := by
  constructor
  · rintro ⟨name, member⟩
    obtain ⟨token, other, rest, split, rfl⟩ := afterWord_of_assignment member solid
    obtain ⟨spelled, word⟩ := firstWord_of_assignment member
    refine ⟨?_, rest, split, other⟩
    rw [word, String.ofList_toList]
    exact spelled
  · rintro ⟨spelled, rest, split, other⟩
    refine ⟨String.ofList (firstWord line), ?_⟩
    -- The line is its first word, spaces, the sign, spaces again, and the value.
    have word : line = firstWord line ++ line.dropWhile Identifier.isPart :=
      List.takeWhile_append_dropWhile.symm
    have before : line.dropWhile Identifier.isPart =
        (line.dropWhile Identifier.isPart).takeWhile isSpace ++ '=' :: rest := by
      rw [← split, afterWord, List.takeWhile_append_dropWhile]
    have behind : rest = rest.takeWhile isSpace ++ rest.dropWhile isSpace :=
      List.takeWhile_append_dropWhile.symm
    have equals := append_mem_sign (List.all_takeWhile (p := isSpace)
      (l := line.dropWhile Identifier.isPart)) (List.all_takeWhile (p := isSpace) (l := rest)) "="
    have named : firstWord line ∈ identifier (String.ofList (firstWord line)) :=
      ⟨by simp, spelled⟩
    have product := Language.append_mem_mul (Language.append_mem_mul named equals) other
    have whole : firstWord line ++ ((line.dropWhile Identifier.isPart).takeWhile isSpace ++
        "=".toList ++ rest.takeWhile isSpace) ++ rest.dropWhile isSpace = line := by
      conv_rhs => rw [word, before, behind]
      simp
    rwa [whole] at product

/-- Lines with the same first word and the same behind it are assignments alike. -/
theorem isAssignment_congr {one two : List Char} (word : firstWord one = firstWord two)
    (behind : afterWord one = afterWord two) : IsAssignment one ↔ IsAssignment two := by
  -- Each of the two forms puts its own texts behind the equals sign.
  have plain : ∀ line, (∃ name value, line ∈ (Command.assign name value).spellings) ↔
      ∃ value name, line ∈ identifier name * sign "=" * integer value := fun line => exists_comm
  have arithmetic : ∀ line,
      (∃ name source op operand, line ∈ (Command.compute name source op operand).spellings) ↔
        ∃ (source : String) (op : ArithOp) (operand : Number) (name : String),
          line ∈ identifier name * sign "=" *
            (identifier source * sign op.symbol * digits operand.toInt) := by
    intro line
    constructor
    · rintro ⟨name, source, op, operand, spelled⟩
      exact ⟨source, op, operand, name, spelled⟩
    · rintro ⟨source, op, operand, name, spelled⟩
      exact ⟨name, source, op, operand, spelled⟩
  simp only [IsAssignment, plain, arithmetic, mem_assignment_iff (Number.breaks_isSpace _),
    mem_assignment_iff (((Identifier.breaks_isSpace _).mul _).mul _), word, behind]

end Form

namespace Command

/-- A command that is written in one of its ways is read back unless the line is an assignment. -/
theorem ofLine_text_iff {command : Command} (spelled : command.text.toList ∈ command.spellings)
    (trimmed : Text.Trimmed command.text.toList) :
    ofLine command.text = command ↔ ∀ kind condition,
      command = .opens kind condition → ¬ IsAssignment command.text.toList := by
  rw [ofLine_eq_iff, trimmed.trimChars_eq]
  -- Only a line that opens a block could be an assignment as well.
  cases command with
  | opens kind condition =>
    constructor
    · rintro ⟨-, other⟩ _ _ -
      exact other
    · intro other
      exact ⟨spelled, other kind condition rfl⟩
  | unrecognized line => exact (Language.notMem_zero _ spelled).elim
  | _ =>
    constructor
    · rintro - _ _ ⟨⟩
    · intro _
      exact spelled

/-- A line without a form is kept, and what is kept has no form either. -/
theorem ofLine_kept {line kept : String} (same : ofLine line = .unrecognized kept) :
    ofLine kept = .unrecognized kept := by
  obtain ⟨trimmed, unknown⟩ := (ofLine_eq_iff _ _).mp same
  -- What is left without the blanks at its ends has no more of them.
  obtain ⟨_, _, -, -, -, ends⟩ := Text.trims_trimChars line.toList
  rw [← trimmed] at ends unknown
  rw [ofLine_eq_iff, ends.trimChars_eq]
  exact ⟨rfl, unknown⟩

/-- What a line spells is written in one of its ways, and without blanks at the ends. -/
theorem text_of_spelled {command : Command} {line : List Char}
    (spelled : line ∈ command.spellings) :
    command.text.toList ∈ command.spellings ∧ Text.Trimmed command.text.toList := by
  -- Only the condition of an opening line is kept as a text.
  cases command with
  | opens kind condition =>
    have solid := solid_of_mem_opens spelled
    exact ⟨opens_text_mem_spellings kind solid, trimmed_opens_text kind solid⟩
  | _ =>
    have wellFormed := wellFormed_of_spelled spelled nofun
    exact ⟨text_mem_spellings wellFormed, trimmed_text wellFormed⟩

/--
A line that opens a block is its keyword and its condition, if its only blanks are spaces and tabs.
-/
theorem words_of_mem_opens {kind : BlockKind} {condition : String} {line : List Char}
    (spelled : line ∈ (opens kind condition).spellings) (trimmed : Text.Trimmed line)
    (plain : ∀ c ∈ line, Text.isBlank c = true → isSpace c = true) :
    Form.firstWord line = kind.keyword.toList ∧ Form.afterWord line = condition.toList := by
  have solid := solid_of_mem_opens spelled
  rw [spellings_opens] at spelled
  obtain ⟨front, opening, last, ⟨kept, -⟩, rfl⟩ := Language.mem_mul.mp spelled
  -- Blanks around the condition are spaces in front of it, and none behind it.
  obtain ⟨before, after, whole, ahead, behind, -⟩ := Text.trims_trimChars last
  rw [kept] at whole
  have ending : after = [] := by
    by_contra filled
    obtain ⟨c, final⟩ := Option.ne_none_iff_exists'.mp (mt List.getLast?_eq_none_iff.mp filled)
    have blank := behind c (List.mem_of_getLast? final)
    rw [trimmed.2 c (by simp [whole, List.getLast?_append, final])] at blank
    exact nomatch blank
  rw [ending, List.append_nil] at whole
  have spaces : ∀ c ∈ before, isSpace c = true := by
    intro c member
    exact plain c (by simp [whole, member]) (ahead c member)
  have parts : kind.keyword.toList.all Identifier.isPart = true := by cases kind <;> decide
  have line : front ++ last ∈ word kind.keyword * gap * word (String.ofList last) :=
    Language.append_mem_mul opening (by simp [mem_word])
  obtain ⟨first, _, rfl, rest⟩ := Form.afterWord_of_keyword (List.all_eq_true.mp parts) line
  refine ⟨first, ?_⟩
  rw [rest, String.toList_ofList, whole, dropWhile_isSpace_of_trimmed spaces solid.2]

/-- What a line spells is read back from its own line, unless that line is an assignment. -/
theorem ofLine_text_of_ofLine_iff {line : String} {command : Command}
    (same : ofLine line = command) :
    ofLine command.text = command ↔ ∀ kind condition,
      command = .opens kind condition → ¬ IsAssignment command.text.toList := by
  -- A line that is kept as it is has none of the known forms, and any other one is spelled out.
  by_cases kept : ∃ text, command = .unrecognized text
  · obtain ⟨text, rfl⟩ := kept
    constructor
    · rintro - _ _ ⟨⟩
    · intro _
      exact ofLine_kept same
  · have spelled := spelled_of_ofLine same fun text given => kept ⟨text, given⟩
    obtain ⟨written, trimmed⟩ := text_of_spelled spelled
    exact ofLine_text_iff written trimmed

/-- An opening on a line with spaces and tabs as its only blanks has a line that reads as one. -/
theorem not_isAssignment_of_plain {line : String} {kind : BlockKind} {condition : String}
    (same : ofLine line = .opens kind condition)
    (plain : ∀ c ∈ line.toList, Text.isBlank c = true → isSpace c = true) :
    ¬ IsAssignment (opens kind condition).text.toList := by
  obtain ⟨spelled, other⟩ := (ofLine_eq_iff line _).mp same
  obtain ⟨before, after, whole, -, -, trimmed⟩ := Text.trims_trimChars line.toList
  have inner : ∀ c ∈ Text.trimChars line.toList, Text.isBlank c = true → isSpace c = true := by
    intro c member
    exact plain c (by rw [whole]; simp [member])
  -- The two lines have the same words, and the first one is no assignment.
  have here := words_of_mem_opens spelled trimmed inner
  have there := words_of_opens_text kind (solid_of_mem_opens spelled).2
  intro assigned
  exact other ((Form.isAssignment_congr (here.1.trans there.1.symm)
    (here.2.trans there.2.symm)).mpr assigned)

/--
What a line spells is read back from its own line, unless it is an opening that gives way.

An opening gives way to an assignment to a variable that is called like its keyword. No line leads
to that if all of its blanks are spaces and tabs.
-/
theorem reprinted_unless_assignment (line : String) :
    (ofLine (ofLine line).text = ofLine line ↔ ∀ kind condition,
      ofLine line = .opens kind condition → ¬ IsAssignment (ofLine line).text.toList) ∧
    ((∀ c ∈ line.toList, Text.isBlank c = true → isSpace c = true) →
      ofLine (ofLine line).text = ofLine line) := by
  -- A line with ordinary blanks only is never printed as an assignment.
  refine ⟨ofLine_text_of_ofLine_iff rfl, fun plain => (ofLine_text_of_ofLine_iff rfl).mpr ?_⟩
  intro kind condition opening
  rw [opening]
  exact not_isAssignment_of_plain opening plain

/-- A comparison that starts like an assignment to its keyword is read back as it is. -/
theorem reprinted_comparison :
    (∀ c ∈ "\tif  == 4 ".toList, Text.isBlank c = true → isSpace c = true) ∧
      ofLine "\tif  == 4 " = .opens .branch "== 4" ∧ ofLine "if == 4" = .opens .branch "== 4" := by
  -- The condition begins with two equals signs, so the keyword in front assigns nothing.
  have each : ("\tif  == 4 ".toList.all fun c => !Text.isBlank c || isSpace c) = true := by
    decide +kernel
  have plain : ∀ c ∈ "\tif  == 4 ".toList, Text.isBlank c = true → isSpace c = true := by
    intro c member blank
    simpa [blank] using List.all_eq_true.mp each c member
  have opening : ofLine "\tif  == 4 " = .opens .branch "== 4" := by decide +kernel
  have again := (reprinted_unless_assignment "\tif  == 4 ").2 plain
  rw [opening] at again
  exact ⟨plain, opening, again⟩

/--
A wide space hides an equals sign, which the line of the command shows.

The line opens a loop, and the line of the opening binds a variable.
-/
theorem reprinted_as_assignment :
    ofLine "while \u2003= 5" = .opens .loop "= 5" ∧
      ofLine (ofLine "while \u2003= 5").text = .assign "while" 5 := by
  -- The wide blank is trimmed from the condition and is missing from the printed line.
  decide +kernel

end Command

end Plotter
