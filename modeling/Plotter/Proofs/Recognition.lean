import Plotter.Proofs.Forms

/-! A line spells the command that the grammar has for it, and no other one. -/

namespace Plotter

open Plotter.Grammar Plotter.Scan

namespace Form

/-- The two forms of assignments, which are tried first. -/
def assignments : List Form :=
  -- These two are told by the equals sign behind their first word.
  [assign, compute]

/-- The forms that start with a keyword of their own. -/
def keyworded : List Form :=
  -- Each of these begins with a word of its own.
  [drawTo, moveBy, rect, triangle, circle, clear, reset, run, fill, pen, opens .loop, closes .loop,
   opens .branch, closes .branch]

/-- Every form is an assignment or has a keyword. -/
theorem mem_keyworded {form : Form} (other : form ∉ assignments) : form ∈ keyworded := by
  revert other
  -- An opening and a closing form are only listed for a given kind of block.
  cases form with
  | opens kind => cases kind <;> decide
  | closes kind => cases kind <;> decide
  | _ => decide

/-- The first word of a line, which may be empty. -/
def firstWord (line : List Char) : List Char :=
  -- The word ends at the first character that no name could hold.
  line.takeWhile Identifier.isPart

/-- What follows the first word of a line and the spaces behind it. -/
def afterWord (line : List Char) : List Char :=
  -- Blanks behind the word are skipped, so an equals sign shows at once.
  (line.dropWhile Identifier.isPart).dropWhile isSpace

/-- A line of a word, a gap and something else falls apart into these. -/
theorem afterWord_of_keyword {text : String} {others : Language Char} {line : List Char}
    (parts : ∀ c ∈ text.toList, Identifier.isPart c = true)
    (member : line ∈ word text * gap * others) :
    firstWord line = text.toList ∧
      ∃ token ∈ others, afterWord line = token.dropWhile isSpace := by
  obtain ⟨_, opening, token, other, rfl⟩ := Language.mem_mul.mp member
  obtain ⟨_, rfl, space, separates, rfl⟩ := Language.mem_mul.mp opening
  rw [mem_gap] at separates
  -- The gap ends the word.
  have stops : Stops Identifier.isPart (space ++ token) := by
    cases space with
    | nil => exact (separates.1 rfl).elim
    | cons c rest => simpa using isPart_of_isSpace (separates.2 c (by simp))
  obtain ⟨taken, left⟩ := takeWhile_of_stops parts stops
  rw [← List.append_assoc] at taken left
  refine ⟨taken, token, other, ?_⟩
  rw [afterWord, left, List.dropWhile_append_of_pos separates.2]

/-- A line that is a word has nothing behind it. -/
theorem afterWord_of_word {text : String} {line : List Char}
    (parts : ∀ c ∈ text.toList, Identifier.isPart c = true) (member : line ∈ word text) :
    firstWord line = text.toList ∧ afterWord line = [] := by
  rw [mem_word] at member
  subst member
  -- The line is the word alone, so nothing stops it but its end.
  have ends := takeWhile_of_stops parts (stops_nil Identifier.isPart)
  rw [List.append_nil] at ends
  exact ⟨ends.1, by rw [afterWord, ends.2]; rfl⟩

/-- The first word of an assignment is the name that is bound. -/
theorem firstWord_of_assignment {name : String} {others : Language Char} {line : List Char}
    (member : line ∈ identifier name * sign "=" * others) :
    Identifier.Spelled name ∧ firstWord line = name.toList := by
  obtain ⟨_, front, token, -, rfl⟩ := Language.mem_mul.mp member
  obtain ⟨_, ⟨rfl, spelled⟩, _, equals, rfl⟩ := Language.mem_mul.mp front
  -- The name ends where the sign or the spaces in front of it start.
  have stops : Stops Identifier.isPart (_ ++ token) :=
    (breaks_sign (by decide) fun _ => isPart_of_isSpace).stops equals token
  rw [firstWord, List.append_assoc]
  exact ⟨spelled, (takeWhile_of_stops spelled.isPart stops).1⟩

/-- Behind the name of an assignment stands an equals sign, and behind that the value. -/
theorem afterWord_of_assignment {name : String} {others : Language Char} {line : List Char}
    (member : line ∈ identifier name * sign "=" * others) (solid : Breaks isSpace others) :
    ∃ token ∈ others, ∃ rest, afterWord line = '=' :: rest ∧ rest.dropWhile isSpace = token := by
  obtain ⟨_, front, token, other, rfl⟩ := Language.mem_mul.mp member
  obtain ⟨_, ⟨rfl, spelled⟩, _, equals, rfl⟩ := Language.mem_mul.mp front
  -- The name ends where the sign or the spaces in front of it start.
  have stops : Stops Identifier.isPart (_ ++ token) :=
    (breaks_sign (by decide) fun _ => isPart_of_isSpace).stops equals token
  obtain ⟨_, toEquals, after, behind, rfl⟩ := Language.mem_mul.mp equals
  obtain ⟨before, ahead, _, rfl, rfl⟩ := Language.mem_mul.mp toEquals
  rw [mem_kstar_space] at ahead behind
  have left := (takeWhile_of_stops spelled.isPart stops).2
  refine ⟨token, other, after ++ token, ?_, ?_⟩
  · rw [afterWord, List.append_assoc, left]
    -- The spaces go, and the equals sign stays.
    rw [List.append_assoc, List.append_assoc, List.dropWhile_append_of_pos ahead]
    rfl
  · exact (takeWhile_of_stops behind (solid token other).2).2

/-- A line that is an assignment has an equals sign behind its first word. -/
theorem head?_afterWord_of_isAssignment {line : List Char} (assigned : IsAssignment line) :
    (afterWord line).head? = some '=' := by
  -- Plain or arithmetic, the equals sign stands behind the name.
  rcases assigned with ⟨name, value, plain⟩ | ⟨name, source, op, value, arithmetic⟩
  · obtain ⟨_, -, rest, split, -⟩ := afterWord_of_assignment plain (Number.breaks_isSpace value)
    rw [split]
    rfl
  · obtain ⟨_, -, rest, split, -⟩ := afterWord_of_assignment arithmetic
      (((Identifier.breaks_isSpace source).mul _).mul _)
    rw [split]
    rfl

/-- No line is a plain assignment and an arithmetic one. -/
theorem not_arithmetic_of_plain {line : List Char} {name target source : String}
    {value operand : Number} {op : ArithOp}
    (plain : line ∈ (Command.assign name value).spellings) :
    line ∉ (Command.compute target source op operand).spellings := by
  intro arithmetic
  obtain ⟨number, written, rest, split, same⟩ :=
    afterWord_of_assignment plain (Number.breaks_isSpace value)
  obtain ⟨token, taken, other, again, also⟩ := afterWord_of_assignment arithmetic
    (((Identifier.breaks_isSpace source).mul _).mul _)
  -- Behind the equals sign of the one stands no letter, and behind that of the other there is one.
  rw [split, List.cons.injEq] at again
  obtain rfl : number = token := by rw [← same, again.2, also]
  have noLetter := (Number.breaks_isStart value number written).2
  rw [mul_assoc] at taken
  obtain ⟨_, ⟨rfl, c, parts, spelled, letter, -⟩, _, -, rfl⟩ := Language.mem_mul.mp taken
  rw [spelled, List.cons_append, stops_cons] at noLetter
  rw [← Identifier.isStart_iff, noLetter] at letter
  exact nomatch letter

/-- Whether a character is the equals sign. -/
def isEquals (c : Char) : Bool :=
  -- Longer operators begin with it as well.
  c == '='

/-- No part of an identifier is the equals sign. -/
theorem isEquals_of_isPart {c : Char} (part : Identifier.isPart c = true) : isEquals c = false := by
  -- Letters, digits and the underscore are other characters.
  rw [isEquals, beq_eq_false_iff_ne]
  intro same
  rw [same] at part
  exact absurd part (by decide)

/--
A line with a keyword is the keyword alone, or the keyword with a gap and something else behind it.

Apart from a condition, that starts neither with a space nor with an equals sign.
-/
theorem exists_keyword {command : Command} {form : Form} {line : List Char}
    (formed : command.form? = some form) (other : form ∉ assignments)
    (spelled : line ∈ command.spellings) :
    line ∈ word form.name ∨ ∃ others : Language Char, line ∈ word form.name * gap * others ∧
      ((∀ kind, form ≠ opens kind) → Breaks isSpace others ∧ Breaks isEquals others) := by
  have operands : ∀ value, Breaks isEquals (operand value) := fun value =>
    Operand.breaks_operand (fun _ => isEquals_of_isPart) (by decide) (by decide) value
  have pairs : ∀ first second, Breaks isSpace (operand first * sign "," * operand second) ∧
      Breaks isEquals (operand first * sign "," * operand second) := fun first second =>
    ⟨breaks_pair (first, second), ((operands first).mul _).mul _⟩
  -- The keyword is followed by operands, by a switch, by a colour, or by nothing at all.
  cases command with
  | assign name value =>
    obtain rfl := Option.some.inj formed
    exact absurd other (by decide)
  | compute name source op value =>
    obtain rfl := Option.some.inj formed
    exact absurd other (by decide)
  | unrecognized text => exact nomatch formed
  | drawTo x y =>
    obtain rfl := Option.some.inj formed
    exact .inr ⟨_, spelled, fun _ => pairs x y⟩
  | moveBy dx dy =>
    obtain rfl := Option.some.inj formed
    exact .inr ⟨_, spelled, fun _ => pairs dx dy⟩
  | rect width height =>
    obtain rfl := Option.some.inj formed
    exact .inr ⟨_, spelled, fun _ => pairs width height⟩
  | triangle side =>
    obtain rfl := Option.some.inj formed
    exact .inr ⟨_, spelled, fun _ => ⟨Operand.breaks_isSpace side, operands side⟩⟩
  | circle radius =>
    obtain rfl := Option.some.inj formed
    exact .inr ⟨_, spelled, fun _ => ⟨Operand.breaks_isSpace radius, operands radius⟩⟩
  | clear =>
    obtain rfl := Option.some.inj formed
    exact .inl spelled
  | reset =>
    obtain rfl := Option.some.inj formed
    exact .inl spelled
  | run =>
    obtain rfl := Option.some.inj formed
    exact .inl spelled
  | fill enabled chosen =>
    obtain rfl := Option.some.inj formed
    rw [Command.spellings_fill] at spelled
    have switch : ∀ test : Char → Bool, test 'o' = false →
        Breaks test (word (Command.switchText enabled)) := by
      intro test fails
      refine breaks_word ?_
      cases enabled <;> simpa [Command.switchText] using fails
    exact .inr ⟨_, spelled, fun _ => ⟨(((switch _ rfl).mul _).mul _).mul _,
      (((switch _ rfl).mul _).mul _).mul _⟩⟩
  | pen chosen =>
    obtain rfl := Option.some.inj formed
    refine .inr ⟨_, spelled, fun _ => ⟨breaks_color chosen, ?_⟩⟩
    intro token named
    obtain ⟨rfl, -⟩ := named
    exact breaks_word (by cases chosen <;> decide) _ rfl
  | opens kind text =>
    obtain rfl := Option.some.inj formed
    rw [Command.spellings_opens] at spelled
    exact .inr ⟨_, spelled, fun none => (none kind rfl).elim⟩
  | closes kind =>
    obtain rfl := Option.some.inj formed
    rw [Command.spellings_closes] at spelled
    exact .inl spelled

/-- A keyword is a word of its own. -/
theorem isPart_of_mem_name {form : Form} (other : form ∉ assignments) :
    ∀ c ∈ form.name.toList, Identifier.isPart c = true := by
  -- The keywords are few enough to look at all of them.
  have all : ∀ form ∈ keyworded, form.name.toList.all Identifier.isPart = true := by decide
  exact List.all_eq_true.mp (all form (mem_keyworded other))

/-- The first word of a line with a keyword is the name of its form. -/
theorem firstWord_of_keyworded {command : Command} {form : Form} {line : List Char}
    (formed : command.form? = some form) (other : form ∉ assignments)
    (spelled : line ∈ command.spellings) : firstWord line = form.name.toList := by
  -- A keyword stands alone or with a gap behind it.
  rcases exists_keyword formed other spelled with alone | ⟨others, followed, -⟩
  · exact (afterWord_of_word (isPart_of_mem_name other) alone).1
  · exact (afterWord_of_keyword (isPart_of_mem_name other) followed).1

/-- A line with the keyword of a form that opens no block is not an assignment. -/
theorem not_isAssignment_of_keyworded {command : Command} {form : Form} {line : List Char}
    (formed : command.form? = some form) (other : form ∉ assignments)
    (closed : ∀ kind, form ≠ opens kind) (spelled : line ∈ command.spellings) :
    ¬ IsAssignment line := by
  intro assigned
  -- An assignment would have an equals sign behind the keyword.
  have equals := head?_afterWord_of_isAssignment assigned
  rcases exists_keyword formed other spelled with alone | ⟨others, followed, breaks⟩
  · rw [(afterWord_of_word (isPart_of_mem_name other) alone).2] at equals
    exact nomatch equals
  · obtain ⟨-, token, member, left⟩ := afterWord_of_keyword (isPart_of_mem_name other) followed
    obtain ⟨noSpace, noEquals⟩ := breaks closed
    -- Nothing is dropped in front of the token, which starts with something else.
    have kept : token.dropWhile isSpace = token := by
      have none := takeWhile_of_stops (List.forall_mem_nil _) (noSpace token member).2
      exact none.2
    rw [left, kept] at equals
    exact absurd ((noEquals token member).2 '=' equals) (by decide)

/-- A line has at most one of the forms with a keyword. -/
theorem keyworded_unique {line : List Char} {first second : Form} {one two : Command}
    (left : first ∈ keyworded) (right : second ∈ keyworded)
    (matches_ : first.command? line = some one) (also : second.command? line = some two) :
    first = second := by
  -- The table of forms has no name twice.
  have apart : ∀ form ∈ keyworded, form ∉ assignments := by decide
  have named : ∀ first ∈ keyworded, ∀ second ∈ keyworded,
      first.name.toList = second.name.toList → first = second := by decide
  obtain ⟨formed, spelled⟩ := (command?_eq_some_iff _ _ _).mp matches_
  obtain ⟨alsoFormed, alsoSpelled⟩ := (command?_eq_some_iff _ _ _).mp also
  -- Both of them are named by the first word of the line.
  have word := firstWord_of_keyworded formed (apart first left) spelled
  rw [firstWord_of_keyworded alsoFormed (apart second right) alsoSpelled] at word
  exact (named second right first left word).symm

/-- A line has at most one of the two forms of assignments. -/
theorem assignments_unique {line : List Char} {first second : Form} {one two : Command}
    (left : first ∈ assignments) (right : second ∈ assignments)
    (matches_ : first.command? line = some one) (also : second.command? line = some two) :
    first = second := by
  have apart : ∀ {one two : Command}, assign.command? line = some one →
      compute.command? line ≠ some two := by
    intro one two plain arithmetic
    obtain ⟨name, value, -, spelled⟩ := (assign_command?_eq_some_iff line one).mp plain
    obtain ⟨target, source, op, operand, -, other⟩ :=
      (compute_command?_eq_some_iff line two).mp arithmetic
    exact not_arithmetic_of_plain spelled other
  -- Of the four pairs of forms, two are of one form and two are apart.
  simp only [assignments, List.mem_cons, List.not_mem_nil, or_false] at left right
  rcases left with rfl | rfl <;> rcases right with rfl | rfl
  · rfl
  · exact (apart matches_ also).elim
  · exact (apart also matches_).elim
  · rfl

/-- Among forms of which a line has at most one, the order does not matter. -/
theorem firstMatch?_eq_some_iff {forms : List Form} {line : List Char}
    (unique : ∀ first ∈ forms, ∀ second ∈ forms, ∀ one two, first.command? line = some one →
      second.command? line = some two → first = second) (form : Form) (command : Command) :
    firstMatch? forms line = some (form, command) ↔
      form ∈ forms ∧ form.command? line = some command := by
  unfold firstMatch?
  constructor
  · intro found
    obtain ⟨other, listed, same⟩ := List.exists_of_findSome?_eq_some found
    obtain ⟨given, spelled, paired⟩ := Option.map_eq_some_iff.mp same
    obtain ⟨rfl, rfl⟩ := Prod.mk.inj paired
    exact ⟨listed, spelled⟩
  · intro known
    cases found : forms.findSome? fun form => (form.command? line).map (form, ·) with
    | none =>
      have none := List.findSome?_eq_none_iff.mp found form known.1
      simp [known.2] at none
    | some pair =>
      -- The form that is found first is the only one.
      obtain ⟨other, listed, same⟩ := List.exists_of_findSome?_eq_some found
      obtain ⟨given, spelled, rfl⟩ := Option.map_eq_some_iff.mp same
      obtain rfl := unique other listed form known.1 given command spelled known.2
      rw [spelled] at known
      rw [Option.some.inj known.2]

/-- A line is an assignment exactly if it has one of the two forms of assignments. -/
theorem firstMatch?_assignments_eq_none_iff (line : List Char) :
    firstMatch? assignments line = none ↔ ¬ IsAssignment line := by
  unfold firstMatch?
  rw [List.findSome?_eq_none_iff]
  -- There are two forms to go through, and each has been read above.
  constructor
  · intro none assigned
    rcases assigned with ⟨name, value, plain⟩ | ⟨name, source, op, value, arithmetic⟩
    · have found := (assign_command?_eq_some_iff line _).mpr ⟨name, value, rfl, plain⟩
      have missing := none assign (by decide)
      simp [found] at missing
    · have found := (compute_command?_eq_some_iff line _).mpr
        ⟨name, source, op, value, rfl, arithmetic⟩
      have missing := none compute (by decide)
      simp [found] at missing
  · intro free form listed
    rw [Option.map_eq_none_iff]
    refine Option.eq_none_iff_forall_ne_some.mpr fun command found => free ?_
    simp only [assignments, List.mem_cons, List.not_mem_nil, or_false] at listed
    rcases listed with rfl | rfl
    · obtain ⟨name, value, -, plain⟩ := (assign_command?_eq_some_iff line command).mp found
      exact .inl ⟨name, value, plain⟩
    · obtain ⟨name, source, op, value, -, arithmetic⟩ :=
        (compute_command?_eq_some_iff line command).mp found
      exact .inr ⟨name, source, op, value, arithmetic⟩

/-- A line reads as a command of a form if it spells it, and an opening one only if nothing else. -/
theorem readsFrom_iff {form : Form} {command : Command} (formed : command.form? = some form)
    (line : List Char) :
    command.ReadsFrom line ↔
      line ∈ command.spellings ∧ ((∃ kind, form = opens kind) → ¬ IsAssignment line) := by
  -- Only an opening line has to be none of the assignments.
  cases command with
  | unrecognized text => exact nomatch formed
  | opens kind text =>
    obtain rfl := Option.some.inj formed
    simp [Command.ReadsFrom]
  | _ =>
    obtain rfl := Option.some.inj formed
    simp [Command.ReadsFrom]

/--
A line is recognized as a command exactly if it reads as that command.

Assignments come first, and lines that open a block are the only ones that could be one of them too.
-/
theorem recognize?_eq_some_iff (line : List Char) (form : Form) (command : Command) :
    recognize? line = some (form, command) ↔
      command.form? = some form ∧ command.ReadsFrom line := by
  -- The table starts with the assignments, and the forms with a keyword follow.
  have ordered : recognize? line =
      (firstMatch? assignments line).or (firstMatch? keyworded line) := by
    unfold recognize? firstMatch?
    rw [← List.findSome?_append]
    rfl
  rw [ordered, Option.or_eq_some_iff, firstMatch?_assignments_eq_none_iff,
    firstMatch?_eq_some_iff fun _ left _ right _ _ => assignments_unique left right,
    firstMatch?_eq_some_iff fun _ left _ right _ _ => keyworded_unique left right,
    command?_eq_some_iff]
  constructor
  · intro found
    rcases found with ⟨listed, formed, spelled⟩ | ⟨free, listed, formed, spelled⟩
    · refine ⟨formed, (readsFrom_iff formed line).mpr ⟨spelled, fun opening => ?_⟩⟩
      -- No assignment opens a block.
      obtain ⟨kind, rfl⟩ := opening
      exact absurd listed (by cases kind <;> decide)
    · exact ⟨formed, (readsFrom_iff formed line).mpr ⟨spelled, fun _ => free⟩⟩
  · intro reads
    obtain ⟨formed, reads⟩ := reads
    obtain ⟨spelled, free⟩ := (readsFrom_iff formed line).mp reads
    by_cases assigned : form ∈ assignments
    · exact .inl ⟨assigned, formed, spelled⟩
    · refine .inr ⟨?_, mem_keyworded assigned, formed, spelled⟩
      by_cases opening : ∃ kind, form = opens kind
      · exact free opening
      · exact not_isAssignment_of_keyworded formed assigned (by simpa using opening) spelled

end Form

namespace Command

/-- A command that can be written has a form. -/
theorem exists_form_of_spelled {command : Command} {line : List Char}
    (spelled : line ∈ command.spellings) : ∃ form, command.form? = some form := by
  -- Only a line that is kept as it is has no form, and it is not written in any way.
  cases command with
  | unrecognized text => exact (Language.notMem_zero line spelled).elim
  | _ => exact ⟨_, rfl⟩

/-- A line without a form cannot be read as anything that has one. -/
theorem not_spelled_of_recognize? {line : List Char} (unknown : Form.recognize? line = none)
    (command : Command) : line ∉ command.spellings := by
  intro spelled
  obtain ⟨form, formed⟩ := exists_form_of_spelled spelled
  have found := (Form.command?_eq_some_iff form line command).mpr ⟨formed, spelled⟩
  have listed : form ∈ Form.all := by
    by_cases assigned : form ∈ Form.assignments
    · exact List.mem_append_left Form.keyworded assigned
    · exact List.mem_append_right Form.assignments (Form.mem_keyworded assigned)
  -- The form would have matched the line.
  have missing := List.findSome?_eq_none_iff.mp unknown form listed
  simp [found] at missing

/-- A line spells exactly the command that it reads as without the blanks around it. -/
theorem ofLine_eq_iff (line : String) (command : Command) :
    ofLine line = command ↔ command.ReadsFrom (Text.trimChars line.toList) := by
  unfold ofLine
  -- A line with a form gives the command of that form, and any other one is kept.
  cases found : Form.recognize? (Text.trimChars line.toList) with
  | some known =>
    obtain ⟨form, known⟩ := known
    obtain ⟨formed, reads⟩ := (Form.recognize?_eq_some_iff _ form known).mp found
    constructor
    · intro same
      exact same ▸ reads
    · intro other
      cases also : command.form? with
      | none =>
        -- A line that spells a command is not kept as it is.
        cases command with
        | unrecognized kept =>
          have spelled := ((Form.readsFrom_iff formed _).mp reads).1
          exact (other.2 known spelled).elim
        | _ => exact nomatch also
      | some second =>
        have again := (Form.recognize?_eq_some_iff _ second command).mpr ⟨also, other⟩
        rw [found] at again
        exact (Prod.mk.inj (Option.some.inj again)).2
  | none =>
    constructor
    · intro same
      obtain rfl := same
      exact ⟨by simp [Text.trim], not_spelled_of_recognize? found⟩
    · intro reads
      cases also : command.form? with
      | none =>
        cases command with
        | unrecognized kept =>
          obtain ⟨same, -⟩ := reads
          rw [Text.trim, ← same, String.ofList_toList]
        | _ => exact nomatch also
      | some form =>
        have again := (Form.recognize?_eq_some_iff _ form command).mpr ⟨also, reads⟩
        rw [found] at again
        exact nomatch again

/--
Lines are recognized by their grammar.

Without the blanks at its ends, a line spells a command exactly if it reads as that command in the
grammar. For each form a line can be written with the fields of one command alone.
-/
theorem ofLine_accepts_exactly_grammar (line : String) :
    let text := Text.trimChars line.toList
    Text.Trims line.toList text ∧
    (∀ command, ofLine line = command ↔ command.ReadsFrom text) ∧
    ∀ form,
      {command : Command | command.form? = some form ∧ text ∈ command.spellings}.Subsingleton := by
  intro text
  refine ⟨Text.trims_trimChars line.toList, ofLine_eq_iff line, ?_⟩
  -- A form that reads a line gives one command for it.
  intro form one first two second
  have left := (Form.command?_eq_some_iff form text one).mpr first
  have right := (Form.command?_eq_some_iff form text two).mpr second
  rw [left] at right
  exact Option.some.inj right

end Command

end Plotter
