import Plotter.Proofs.Recognition

/-! A well-formed command, written as a line, is read back as itself. -/

namespace Plotter

open Plotter.Grammar

/-- The operand is a number, or a name that is an identifier. -/
def Operand.WellFormed : Operand → Prop
  -- Every literal is well formed, as it holds a number already.
  | lit _ => True
  | var name => Identifier.Spelled name

/-- The command has a form, and its fields are such as the grammar has for them. -/
def Command.WellFormed : Command → Prop
  | drawTo first second | moveBy first second | rect first second =>
    first.WellFormed ∧ second.WellFormed
  | triangle size | circle size => size.WellFormed
  | clear | reset | run | closes _ => True
  | fill _ chosen | pen chosen => chosen ∈ Color.palette
  -- A condition that starts with an equals sign could make the line an assignment.
  | opens _ condition =>
    Text.Trimmed condition.toList ∧ condition ≠ "" ∧ condition.toList.head? ≠ some '='
  | assign name _ => Identifier.Spelled name
  | compute name source _ operand =>
    Identifier.Spelled name ∧ Identifier.Spelled source ∧ 0 ≤ operand
  | unrecognized _ => False

instance : DecidablePred Operand.WellFormed
  -- A name is tested character by character.
  | .lit _ => inferInstanceAs (Decidable True)
  | .var name => inferInstanceAs (Decidable (Identifier.Spelled name))

instance : DecidablePred Command.WellFormed
  -- Every demand is about names, colours and texts, all of which can be tested.
  | .drawTo first second | .moveBy first second | .rect first second =>
    inferInstanceAs (Decidable (first.WellFormed ∧ second.WellFormed))
  | .triangle size | .circle size => inferInstanceAs (Decidable size.WellFormed)
  | .clear | .reset | .run | .closes _ => inferInstanceAs (Decidable True)
  | .fill _ chosen | .pen chosen => inferInstanceAs (Decidable (chosen ∈ Color.palette))
  | .opens _ _ | .compute _ _ _ _ => inferInstanceAs (Decidable (_ ∧ _ ∧ _))
  | .assign name _ => inferInstanceAs (Decidable (Identifier.Spelled name))
  | .unrecognized _ => inferInstanceAs (Decidable False)

namespace Grammar

/-- No part of an identifier is blank. -/
theorem isBlank_of_isPart {c : Char} (part : Identifier.isPart c = true) :
    Text.isBlank c = false := by
  rw [Identifier.isPart_iff, Identifier.letter_iff_toNat, Identifier.digit_iff_toNat] at part
  -- No range of blanks meets the code points of letters and digits.
  simp only [Text.isBlank, Text.blankPoints, Text.CodePoints.covers, List.any_cons, List.any_nil,
    Bool.or_eq_false_iff, Bool.and_eq_false_iff, decide_eq_false_iff_not, and_true]
  omega

/-- A single space is a gap. -/
theorem space_mem_gap : " ".toList ∈ gap :=
  -- One blank makes a gap.
  (mem_gap _).mpr ⟨by decide, List.all_eq_true.mp (by decide)⟩

/-- A sign can be written with any spaces around it. -/
theorem append_mem_sign {before after : List Char} (ahead : before.all Scan.isSpace = true)
    (behind : after.all Scan.isSpace = true) (text : String) :
    before ++ text.toList ++ after ∈ sign text := by
  -- Both sides are blank, and blanks may stand around a sign.
  have opening := (mem_kstar_space before).mpr (List.all_eq_true.mp ahead)
  have ending := (mem_kstar_space after).mpr (List.all_eq_true.mp behind)
  exact Language.append_mem_mul (Language.append_mem_mul opening ((mem_word text _).mpr rfl)) ending

/-- Spaces go from the front of a text, and the first that is not blank stays. -/
theorem dropWhile_isSpace_of_trimmed {spaces text : List Char}
    (all : ∀ c ∈ spaces, Scan.isSpace c = true) (trimmed : Text.Trimmed text) :
    (spaces ++ text).dropWhile Scan.isSpace = text := by
  -- A space in front of the text would be a blank at its end.
  have solid : Scan.Stops Scan.isSpace text := by
    intro c first
    rw [Bool.eq_false_iff]
    intro space
    have blank := isBlank_of_isSpace space
    rw [trimmed.1 c first] at blank
    exact nomatch blank
  exact (Scan.takeWhile_of_stops all solid).2

/-- An identifier is solid. -/
theorem solid_of_spelled {name : String} (spelled : Identifier.Spelled name) :
    Text.Solid name.toList := by
  -- An identifier has a first letter, and no blanks anywhere.
  refine Text.solid_of_forall ?_ fun c member => isBlank_of_isPart (spelled.isPart c member)
  obtain ⟨first, rest, same, -, -⟩ := spelled
  simp [same]

/-- An identifier has no blanks that could be taken from its ends. -/
theorem trim_of_spelled {name : String} (spelled : Identifier.Spelled name) :
    Text.trim name = name := by
  -- A name has no blanks at all.
  rw [Text.trim, (solid_of_spelled spelled).2.trimChars_eq, String.ofList_toList]

/-- The decimal digits of a natural number spell it. -/
theorem toDigits_mem_digits (size : Nat) : Nat.toDigits 10 size ∈ digits size := by
  -- The digits of a number are the run without zeros in front.
  refine ⟨Nat.toDigits_ne_nil, ?_, ?_⟩
  · intro c member
    exact (isDigit_iff c).mp (Nat.isDigit_of_mem_toDigits (by decide) (by decide) member)
  · rw [Nat.ofDigitChars_ten_toDigits]

/-- A run of digits is solid. -/
theorem solid_of_mem_digits {value : Int} {run : List Char} (member : run ∈ digits value) :
    Text.Solid run := by
  obtain ⟨filled, all, -⟩ := member
  -- Every digit could be a part of an identifier.
  refine Text.solid_of_forall filled fun c listed => isBlank_of_isPart ?_
  exact (Identifier.isPart_iff c).mpr (.inr (all c listed))

end Grammar

namespace Number

/-- A number that is not negative is written by its digits alone. -/
theorem text_mem_digits {number : Number} (natural : 0 ≤ number.toInt) :
    number.text.toList ∈ Grammar.digits number.toInt := by
  -- There is no sign in front of the digits.
  have written : number.text.toList = Nat.toDigits 10 number.toInt.natAbs := by
    simp [text, decimal, digits, Int.not_lt.mpr natural]
  have value : (number.toInt.natAbs : Int) = number.toInt := Int.natAbs_of_nonneg natural
  rw [written, ← value]
  exact toDigits_mem_digits _

/-- A number is written in one of its ways. -/
theorem text_mem_integer (number : Number) : number.text.toList ∈ integer number := by
  rw [mem_integer]
  by_cases natural : 0 ≤ number.toInt
  · exact .inl (text_mem_digits natural)
  · -- A negative number has a sign in front of the digits of its opposite.
    have written : number.text.toList = '-' :: Nat.toDigits 10 number.toInt.natAbs := by
      simp [text, decimal, digits, Int.not_le.mp natural]
    have value : (number.toInt.natAbs : Int) = -number.toInt := by omega
    refine .inr (.inr ⟨_, ?_, written⟩)
    rw [← value]
    exact toDigits_mem_digits _

/-- A number is solid in all of its ways. -/
theorem solid_of_mem_integer {number : Number} {token : List Char}
    (member : token ∈ integer number) : Text.Solid token := by
  -- A sign is as solid as the digits behind it.
  rcases (mem_integer number token).mp member with run | ⟨run, plus, rfl⟩ | ⟨run, minus, rfl⟩
  · exact solid_of_mem_digits run
  · exact Text.Solid.append (by decide : Text.Solid ['+']) (solid_of_mem_digits plus) []
  · exact Text.Solid.append (by decide : Text.Solid ['-']) (solid_of_mem_digits minus) []

end Number

namespace Operand

/-- A well-formed operand is written in one of its ways. -/
theorem text_mem_operand {value : Operand} (wellFormed : value.WellFormed) :
    value.text.toList ∈ operand value := by
  -- A literal is printed as a decimal, and a variable as its name.
  cases value with
  | lit number => exact Number.text_mem_integer number
  | var name => exact ⟨rfl, wellFormed⟩

/-- An operand that can be written is well-formed. -/
theorem wellFormed_of_mem_operand {value : Operand} {token : List Char}
    (member : token ∈ operand value) : value.WellFormed := by
  -- Only a variable has something to be checked, and the grammar has done so.
  cases value with
  | lit number => trivial
  | var name => exact member.2

/-- An operand is solid in all of its ways. -/
theorem solid_of_mem_operand {value : Operand} {token : List Char}
    (member : token ∈ operand value) : Text.Solid token := by
  -- Neither literals nor names have blanks.
  cases value with
  | lit number => exact Number.solid_of_mem_integer member
  | var name =>
    obtain ⟨rfl, spelled⟩ := member
    exact solid_of_spelled spelled

end Operand

namespace Command

/-- A keyword, a space and what follows them are one of the ways to write a line. -/
theorem keyword_mem_mul (keyword : String) {others : Language Char} {token : List Char}
    (member : token ∈ others) :
    keyword.toList ++ " ".toList ++ token ∈ word keyword * gap * others := by
  -- A single blank is all the gap that is needed.
  have opening : keyword.toList ++ " ".toList ∈ word keyword * gap :=
    Language.append_mem_mul ((mem_word keyword _).mpr rfl) space_mem_gap
  exact Language.append_mem_mul opening member

/-- A keyword with two operands is one of the ways to write it with them. -/
theorem pairText_mem_pair (keyword : String) {first second : Operand}
    (both : first.WellFormed ∧ second.WellFormed) :
    (pairText keyword first second).toList ∈ pair keyword first second := by
  -- A space follows the comma, and none stands in front of it.
  have comma : [] ++ ",".toList ++ [' '] ∈ sign "," := append_mem_sign (by decide) (by decide) ","
  have left := Language.append_mem_mul (Operand.text_mem_operand both.1) comma
  have operands := Language.append_mem_mul left (Operand.text_mem_operand both.2)
  simpa [pairText, pair] using keyword_mem_mul keyword operands

/-- A name, an equals sign and what follows them are one of the ways to write an assignment. -/
theorem assignment_mem_mul {name : String} (spelled : Identifier.Spelled name)
    {others : Language Char} {token : List Char} (member : token ∈ others) :
    name.toList ++ " = ".toList ++ token ∈ identifier name * sign "=" * others := by
  -- The sign is printed with a blank on either side.
  have equals : [' '] ++ "=".toList ++ [' '] ∈ sign "=" :=
    append_mem_sign (by decide) (by decide) "="
  have named : name.toList ∈ identifier name := ⟨rfl, spelled⟩
  exact Language.append_mem_mul (Language.append_mem_mul named equals) member

/-- The condition of a well-formed opening is solid. -/
theorem solid_condition {kind : BlockKind} {condition : String}
    (wellFormed : (opens kind condition).WellFormed) : Text.Solid condition.toList := by
  -- A well-formed condition is trimmed and not empty.
  obtain ⟨trimmed, filled, -⟩ := wellFormed
  exact ⟨fun empty => filled (String.toList_eq_nil_iff.mp empty), trimmed⟩

/-- A keyword with a solid condition behind it is one of the ways to open a block with it. -/
theorem opens_text_mem_spellings (kind : BlockKind) {condition : String}
    (solid : Text.Solid condition.toList) :
    (opens kind condition).text.toList ∈ (opens kind condition).spellings := by
  obtain ⟨filled, trimmed⟩ := solid
  -- Trimming a trimmed condition gives it back.
  have kept : condition.toList ∈ Grammar.condition condition :=
    ⟨trimmed.trimChars_eq, fun empty => filled (String.toList_eq_nil_iff.mpr empty)⟩
  rw [spellings_opens]
  simpa [text] using keyword_mem_mul kind.keyword kept

/-- A well-formed command is written in one of its ways. -/
theorem text_mem_spellings {command : Command} (wellFormed : command.WellFormed) :
    command.text.toList ∈ command.spellings := by
  -- Every field is written in one of its ways, with a single space where the grammar has a gap.
  cases command with
  | drawTo x y => exact pairText_mem_pair "drawto" wellFormed
  | moveBy dx dy => exact pairText_mem_pair "moveto" wellFormed
  | rect width height => exact pairText_mem_pair "rect" wellFormed
  | triangle side =>
    simpa [text, spellings] using keyword_mem_mul "trig" (Operand.text_mem_operand wellFormed)
  | circle radius =>
    simpa [text, spellings] using keyword_mem_mul "circle" (Operand.text_mem_operand wellFormed)
  | clear => rfl
  | reset => rfl
  | run => rfl
  | fill enabled chosen =>
    have named : chosen.name.toList ∈ color chosen := ⟨rfl, wellFormed⟩
    have marked : "color:".toList ∈ word "color:" := rfl
    have switched := Language.append_mem_mul (Language.append_mem_mul (Language.append_mem_mul
      ((mem_word (switchText enabled) _).mpr rfl) space_mem_gap) marked) named
    rw [spellings_fill]
    simpa [text] using keyword_mem_mul "fill" switched
  | pen chosen =>
    have named : chosen.name.toList ∈ color chosen := ⟨rfl, wellFormed⟩
    simpa [text, spellings] using keyword_mem_mul "pen" named
  | opens kind condition => exact opens_text_mem_spellings kind (solid_condition wellFormed)
  | closes kind =>
    rw [spellings_closes]
    rfl
  | assign name value =>
    simpa [text, spellings] using assignment_mem_mul wellFormed (Number.text_mem_integer value)
  | compute name source op operand =>
    obtain ⟨named, sourced, natural⟩ := wellFormed
    have operator : [' '] ++ op.symbol.toList ++ [' '] ∈ sign op.symbol :=
      append_mem_sign (by decide) (by decide) op.symbol
    have taken : source.toList ∈ identifier source := ⟨rfl, sourced⟩
    have written := Number.text_mem_digits (Int32.le_iff_toInt_le.mp natural)
    have right := Language.append_mem_mul (Language.append_mem_mul taken operator) written
    simpa [text, spellings] using assignment_mem_mul named right
  | unrecognized line => exact wellFormed.elim

/-- Both operands of a pair that can be written are well-formed. -/
theorem wellFormed_of_mem_pair {keyword : String} {first second : Operand} {line : List Char}
    (member : line ∈ pair keyword first second) : first.WellFormed ∧ second.WellFormed := by
  obtain ⟨_, -, _, operands, -⟩ := Language.mem_mul.mp member
  -- Both operands are spelled somewhere in the line.
  obtain ⟨_, left, _, right, -⟩ := Language.mem_mul.mp operands
  obtain ⟨_, left, _, -, -⟩ := Language.mem_mul.mp left
  exact ⟨Operand.wellFormed_of_mem_operand left, Operand.wellFormed_of_mem_operand right⟩

/-- A condition that can be written is solid. -/
theorem solid_of_mem_opens {kind : BlockKind} {condition : String} {line : List Char}
    (member : line ∈ (opens kind condition).spellings) : Text.Solid condition.toList := by
  rw [spellings_opens] at member
  obtain ⟨_, -, last, ⟨kept, filled⟩, -⟩ := Language.mem_mul.mp member
  -- What is left of a text without the blanks at its ends has none there.
  obtain ⟨_, _, -, -, -, trimmed⟩ := Text.trims_trimChars last
  rw [kept] at trimmed
  exact ⟨fun empty => filled (String.toList_eq_nil_iff.mp empty), trimmed⟩

/--
A command that can be written is well-formed.

The one exception is a condition that starts with an equals sign.
-/
theorem wellFormed_of_spelled {command : Command} {line : List Char}
    (spelled : line ∈ command.spellings)
    (other : ∀ kind condition, command = .opens kind condition →
      condition.toList.head? ≠ some '=') : command.WellFormed := by
  -- Each field is read off the part of the line where it is written.
  cases command with
  | drawTo x y => exact wellFormed_of_mem_pair spelled
  | moveBy dx dy => exact wellFormed_of_mem_pair spelled
  | rect width height => exact wellFormed_of_mem_pair spelled
  | triangle side =>
    obtain ⟨_, -, _, written, -⟩ := Language.mem_mul.mp spelled
    exact Operand.wellFormed_of_mem_operand written
  | circle radius =>
    obtain ⟨_, -, _, written, -⟩ := Language.mem_mul.mp spelled
    exact Operand.wellFormed_of_mem_operand written
  | clear => trivial
  | reset => trivial
  | run => trivial
  | fill enabled chosen =>
    rw [spellings_fill] at spelled
    obtain ⟨_, -, _, switched, -⟩ := Language.mem_mul.mp spelled
    obtain ⟨_, -, _, named, -⟩ := Language.mem_mul.mp switched
    exact named.2
  | pen chosen =>
    obtain ⟨_, -, _, named, -⟩ := Language.mem_mul.mp spelled
    exact named.2
  | opens kind condition =>
    have solid := solid_of_mem_opens spelled
    exact ⟨solid.2, fun empty => solid.1 (String.toList_eq_nil_iff.mpr empty),
      other kind condition rfl⟩
  | closes kind => trivial
  | assign name value =>
    obtain ⟨_, front, _, -, -⟩ := Language.mem_mul.mp spelled
    obtain ⟨_, named, _, -, -⟩ := Language.mem_mul.mp front
    exact named.2
  | compute name source op operand =>
    obtain ⟨_, front, _, right, -⟩ := Language.mem_mul.mp spelled
    obtain ⟨_, named, _, -, -⟩ := Language.mem_mul.mp front
    obtain ⟨_, left, _, written, -⟩ := Language.mem_mul.mp right
    obtain ⟨_, taken, _, -, -⟩ := Language.mem_mul.mp left
    -- Digits without a sign have a value that is not negative.
    have natural : 0 ≤ operand.toInt := by
      rw [← written.2.2]
      omega
    exact ⟨named.2, taken.2, Int32.le_iff_toInt_le.mpr natural⟩
  | unrecognized line => exact (Language.notMem_zero _ spelled).elim

/-- A line that is not kept as it is has a command that can be written as the line. -/
theorem spelled_of_ofLine {line : String} {command : Command} (same : ofLine line = command)
    (known : ∀ kept, command ≠ .unrecognized kept) :
    Text.trimChars line.toList ∈ command.spellings := by
  have reads := (ofLine_eq_iff line command).mp same
  -- Whatever was recognized, its grammar has the line.
  cases command with
  | opens kind condition => exact reads.1
  | unrecognized kept => exact (known kept rfl).elim
  | _ => exact reads

/-- A command that a line spells is well-formed, unless it is a marker or kept as it is. -/
theorem wellFormed_of_ofLine {line : String} {command : Command} (same : ofLine line = command)
    (unmarked : command.marker? = none) (known : ∀ kept, command ≠ .unrecognized kept) :
    command.WellFormed := by
  refine wellFormed_of_spelled (spelled_of_ofLine same known) ?_
  -- An opening is a marker, and those are excluded.
  rintro kind condition rfl
  exact nomatch unmarked

/-- A line that starts and ends with a solid text has no blanks at its ends. -/
theorem trimmed_line (first middle : String) {last : String} (opening : Text.Solid first.toList)
    (ending : Text.Solid last.toList) : Text.Trimmed (first ++ middle ++ last).toList := by
  -- The ends of the line are those of its outer parts.
  rw [String.toList_append, String.toList_append]
  exact (opening.append ending middle.toList).2

/-- A keyword with two operands has no blanks at its ends. -/
theorem trimmed_pairText {keyword : String} (opening : Text.Solid keyword.toList)
    (first : Operand) {second : Operand} (wellFormed : second.WellFormed) :
    Text.Trimmed (pairText keyword first second).toList := by
  -- The line ends with its second operand.
  have ending := Operand.solid_of_mem_operand (Operand.text_mem_operand wellFormed)
  have split : pairText keyword first second =
      keyword ++ (" " ++ first.text ++ ", ") ++ second.text := by
    simp only [pairText, String.append_assoc]
  rw [split]
  exact trimmed_line keyword _ opening ending

/-- A line that opens a block with a solid condition has no blanks at its ends. -/
theorem trimmed_opens_text (kind : BlockKind) {condition : String}
    (solid : Text.Solid condition.toList) : Text.Trimmed (opens kind condition).text.toList :=
  -- The line begins with the keyword and ends with the condition.
  trimmed_line kind.keyword " " (by cases kind <;> decide) solid

/-- The line of a well-formed command has no blanks at its ends. -/
theorem trimmed_text {command : Command} (wellFormed : command.WellFormed) :
    Text.Trimmed command.text.toList := by
  have operand : ∀ {value : Operand}, value.WellFormed → Text.Solid value.text.toList :=
    fun given => Operand.solid_of_mem_operand (Operand.text_mem_operand given)
  have number : ∀ value : Number, Text.Solid value.text.toList :=
    fun value => Number.solid_of_mem_integer (Number.text_mem_integer value)
  have colored : ∀ color ∈ Color.palette, Text.Solid color.name.toList := by decide
  -- A line ends with its last field, and starts with its keyword or with the name that it binds.
  cases command with
  | drawTo x y => exact trimmed_pairText (by decide) x wellFormed.2
  | moveBy dx dy => exact trimmed_pairText (by decide) dx wellFormed.2
  | rect width height => exact trimmed_pairText (by decide) width wellFormed.2
  | triangle side => exact trimmed_line "trig" " " (by decide) (operand wellFormed)
  | circle radius => exact trimmed_line "circle" " " (by decide) (operand wellFormed)
  | clear => decide
  | reset => decide
  | run => decide
  | fill enabled chosen =>
    have split : (fill enabled chosen).text =
        "fill" ++ (" " ++ switchText enabled ++ " color:") ++ chosen.name := by
      simp only [text, ← String.append_assoc]
      rfl
    rw [split]
    exact trimmed_line "fill" _ (by decide) (colored chosen wellFormed)
  | pen chosen => exact trimmed_line "pen" " " (by decide) (colored chosen wellFormed)
  | opens kind condition => exact trimmed_opens_text kind (solid_condition wellFormed)
  | closes kind => cases kind <;> decide
  | assign name value => exact trimmed_line name " = " (solid_of_spelled wellFormed) (number value)
  | compute name source op operand =>
    have split : (compute name source op operand).text =
        name ++ (" = " ++ source ++ " " ++ op.symbol ++ " ") ++ operand.text := by
      simp only [text, String.append_assoc]
    rw [split]
    exact trimmed_line name _ (solid_of_spelled wellFormed.1) (number operand)
  | unrecognized line => exact wellFormed.elim

/-- The line of an opening is its keyword and its condition. -/
theorem words_of_opens_text (kind : BlockKind) {condition : String}
    (trimmed : Text.Trimmed condition.toList) :
    Form.firstWord (opens kind condition).text.toList = kind.keyword.toList ∧
      Form.afterWord (opens kind condition).text.toList = condition.toList := by
  have line : (opens kind condition).text.toList ∈ word kind.keyword * gap * word condition := by
    simpa [text] using keyword_mem_mul kind.keyword ((mem_word condition _).mpr rfl)
  have parts : kind.keyword.toList.all Identifier.isPart = true := by cases kind <;> decide
  obtain ⟨first, _, rfl, rest⟩ := Form.afterWord_of_keyword (List.all_eq_true.mp parts) line
  -- The condition does not start with a space, as it has no blanks at its ends.
  have kept := dropWhile_isSpace_of_trimmed (List.forall_mem_nil _) trimmed
  rw [List.nil_append] at kept
  exact ⟨first, rest.trans kept⟩

/-- The line of a well-formed opening is not an assignment to a variable called like its keyword. -/
theorem not_isAssignment_text {kind : BlockKind} {condition : String}
    (wellFormed : (opens kind condition).WellFormed) :
    ¬ IsAssignment (opens kind condition).text.toList := by
  intro assigned
  obtain ⟨trimmed, -, other⟩ := wellFormed
  -- Behind the keyword and the space stands the condition, which would start with an equals sign.
  have equals := Form.head?_afterWord_of_isAssignment assigned
  rw [(words_of_opens_text kind trimmed).2] at equals
  exact other equals

/--
A well-formed command, written as a line, is read back as itself.

Names may be spelled like keywords, and numbers may be as small or as large as there are.
-/
theorem ofLine_text {command : Command} (wellFormed : command.WellFormed) :
    ofLine command.text = command := by
  have spelled := text_mem_spellings wellFormed
  obtain ⟨form, formed⟩ := exists_form_of_spelled spelled
  rw [ofLine_eq_iff, (trimmed_text wellFormed).trimChars_eq, Form.readsFrom_iff formed]
  refine ⟨spelled, fun opening => ?_⟩
  -- Only a line that opens a block could be an assignment as well.
  obtain ⟨kind, rfl⟩ := opening
  cases command with
  | opens other condition => exact not_isAssignment_text wellFormed
  | _ => simp [form?] at formed

/-- Names like keywords, the least number and the largest one, and a condition with blanks in it. -/
theorem ofLine_text_keywords :
    ofLine "endif = -2147483648" = .assign "endif" (-2147483648) ∧
    ofLine "if = while * 2147483647" = .compute "if" "while" .mul 2147483647 ∧
    ofLine "drawto clear, -1" = .drawTo (.var "clear") (.lit (-1)) ∧
    ofLine "while x  ==\t3" = .opens .loop "x  ==\t3" := by
  -- Keywords as names, both ends of the range, and blanks inside a condition.
  have plain := ofLine_text (by decide : (assign "endif" (-2147483648)).WellFormed)
  have arithmetic := ofLine_text (by decide : (compute "if" "while" .mul 2147483647).WellFormed)
  have operands := ofLine_text (by decide : (drawTo (.var "clear") (.lit (-1))).WellFormed)
  have opening := ofLine_text (by decide : (opens .loop "x  ==\t3").WellFormed)
  exact ⟨plain, arithmetic, operands, opening⟩

end Command

end Plotter
