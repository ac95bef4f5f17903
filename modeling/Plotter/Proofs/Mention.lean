import Plotter.Proofs.Effect
import Plotter.Proofs.RoundTrip

/-! The names that commands and conditions look up stand as words in the lines that spell them. -/

namespace Plotter

open Plotter.Grammar Plotter.Scan
open scoped Computability

/-- The text is empty or ends with a character that is no part of an identifier. -/
def Grammar.Ends (text : List Char) : Prop :=
  -- An empty text ends here too: nothing stands before what follows.
  ∀ c ∈ text.getLast?, Identifier.isPart c = false

/-- The name stands in the text as a word, and not as a part of a longer one. -/
def Mentions (text : List Char) (name : String) : Prop :=
  -- Both sides have to end the word, or a longer name would count as well.
  ∃ before after, text = before ++ name.toList ++ after ∧ Ends before ∧
    Stops Identifier.isPart after

namespace Grammar

/-- The empty text ends with no character at all. -/
@[simp] theorem ends_nil : Ends [] := by
  -- There is no last character to be part of a name.
  simp [Ends]

/-- A text that is not empty ends as it does whatever stands before it. -/
theorem ends_append_of_ne_nil {last : List Char} (filled : last ≠ []) (ends : Ends last)
    (front : List Char) : Ends (front ++ last) := by
  -- The last character is the one of the second text.
  intro c final
  rw [List.getLast?_append_of_ne_nil _ filled] at final
  exact ends c final

/-- A text without parts of identifiers does not end with one. -/
theorem ends_of_forall {text : List Char} (free : ∀ c ∈ text, Identifier.isPart c = false) :
    Ends text :=
  -- The last character is one of them all.
  fun c final => free c (List.mem_of_getLast? final)

/-- A text without parts of identifiers does not start with one. -/
theorem stops_of_forall {text : List Char} (free : ∀ c ∈ text, Identifier.isPart c = false) :
    Stops Identifier.isPart text :=
  -- The first character is one of them all.
  fun c first => free c (List.mem_of_head? first)

/-- A blank is no part of an identifier. -/
theorem isPart_of_isBlank {c : Char} (blank : Text.isBlank c = true) :
    Identifier.isPart c = false := by
  -- A part of a name is never blank, so a blank is no part of one.
  rw [Bool.eq_false_iff]
  intro part
  rw [isBlank_of_isPart part] at blank
  exact nomatch blank

/-- A keyword and the gap behind it end with a space. -/
theorem ends_of_mem_keyword {keyword : String} {text : List Char}
    (member : text ∈ word keyword * gap) : Ends text := by
  obtain ⟨front, -, spaces, separates, rfl⟩ := Language.mem_mul.mp member
  obtain ⟨filled, all⟩ := (mem_gap spaces).mp separates
  -- The gap has at least one space, so the end of the keyword does not matter.
  have ends : Ends spaces := ends_of_forall fun c listed => isPart_of_isSpace (all c listed)
  exact ends_append_of_ne_nil filled ends front

/-- A sign ends with a space or with its own last character. -/
theorem ends_of_mem_sign {symbol : String}
    (last : symbol.toList.getLast?.map Identifier.isPart = some false) {others : Language Char}
    {text : List Char} (member : text ∈ others * sign symbol) : Ends text := by
  obtain ⟨front, -, _, signed, rfl⟩ := Language.mem_mul.mp member
  obtain ⟨_, toSymbol, spaces, behind, rfl⟩ := Language.mem_mul.mp signed
  obtain ⟨before, -, _, rfl, rfl⟩ := Language.mem_mul.mp toSymbol
  obtain ⟨c, final, other⟩ := Option.map_eq_some_iff.mp last
  rw [← List.append_assoc]
  -- Either there are spaces behind the symbol, or the symbol comes last.
  cases spaces with
  | nil =>
    rw [List.append_nil, ← List.append_assoc]
    refine ends_append_of_ne_nil (fun empty => by simp [empty] at final) (fun d given => ?_) _
    rw [final, Option.mem_some_iff] at given
    exact given ▸ other
  | cons d rest =>
    refine ends_append_of_ne_nil (List.cons_ne_nil d rest) (ends_of_forall fun e listed => ?_) _
    exact isPart_of_isSpace ((mem_kstar_space _).mp behind e listed)

end Grammar

namespace Mentions

variable {name : String}

/-- A name is mentioned by itself. -/
theorem refl (name : String) : Mentions name.toList name :=
  -- Nothing stands on either side.
  ⟨[], [], by simp, ends_nil, stops_nil _⟩

/-- A name stays a word if what is put around the text does not make it longer. -/
theorem append {text : List Char} (mentions : Mentions text name) {front back : List Char}
    (ahead : Ends front) (behind : Stops Identifier.isPart back) :
    Mentions (front ++ text ++ back) name := by
  obtain ⟨before, after, rfl, first, last⟩ := mentions
  refine ⟨front ++ before, after ++ back, by simp, ?_, ?_⟩
  · -- What stands right before the name is new only if nothing stood there.
    cases before with
    | nil => simpa using ahead
    | cons c rest => exact ends_append_of_ne_nil (List.cons_ne_nil c rest) first front
  · -- The same holds of what stands right behind it.
    cases after with
    | nil => simpa using behind
    | cons c rest => exact last.append_of_ne_nil (List.cons_ne_nil c rest) back

/-- Blanks around a text take no name from it. -/
theorem of_trimChars {text : List Char} (mentions : Mentions (Text.trimChars text) name) :
    Mentions text name := by
  obtain ⟨before, after, whole, ahead, behind, -⟩ := Text.trims_trimChars text
  -- What trimming takes away is blank, so no name grows into it.
  rw [whole]
  exact mentions.append (ends_of_forall fun c listed => isPart_of_isBlank (ahead c listed))
    (stops_of_forall fun c listed => isPart_of_isBlank (behind c listed))

/-- A name is mentioned in the texts of a language with others in front of them. -/
theorem mul_left {fronts language : Language Char} (ahead : ∀ text ∈ fronts, Ends text)
    (each : ∀ text ∈ language, Mentions text name) {text : List Char}
    (member : text ∈ fronts * language) : Mentions text name := by
  obtain ⟨front, first, last, second, rfl⟩ := Language.mem_mul.mp member
  -- The front ends before the name can reach into it.
  have whole := (each last second).append (ahead front first) (stops_nil _)
  rwa [List.append_nil] at whole

/-- A name is mentioned in the texts of a language with others behind them. -/
theorem mul_right {language backs : Language Char} (each : ∀ text ∈ language, Mentions text name)
    (behind : ∀ text ∈ backs, Stops Identifier.isPart text) {text : List Char}
    (member : text ∈ language * backs) : Mentions text name := by
  obtain ⟨front, first, last, second, rfl⟩ := Language.mem_mul.mp member
  -- What follows does not go on as a name would.
  exact (each front first).append ends_nil (behind last second)

end Mentions

namespace Operand

/-- The name of an operand is what the operand is written as. -/
theorem mentions {value : Operand} {name : String} (used : name ∈ value.names) {token : List Char}
    (member : token ∈ operand value) : Mentions token name := by
  -- A literal uses no name, and a variable is spelled as its name.
  cases value with
  | lit number => exact nomatch used
  | var given =>
    obtain rfl := List.mem_singleton.mp used
    obtain ⟨rfl, -⟩ := member
    exact .refl name

/-- The name of a well-formed operand is an identifier. -/
theorem spelled_of_mem_names {value : Operand} (wellFormed : value.WellFormed) {name : String}
    (used : name ∈ value.names) : Identifier.Spelled name := by
  -- A literal uses no name, and a variable is well formed as a name.
  cases value with
  | lit number => exact nomatch used
  | var given =>
    obtain rfl := List.mem_singleton.mp used
    exact wellFormed

end Operand

namespace Grammar

/-- Both sides of a sign keep the names of their operands. -/
theorem mentions_of_mem_operands {left right : Operand} {symbol name : String}
    (used : name ∈ left.names ++ right.names)
    (first : symbol.toList.head?.map Identifier.isPart = some false)
    (last : symbol.toList.getLast?.map Identifier.isPart = some false) {text : List Char}
    (member : text ∈ operand left * sign symbol * operand right) : Mentions text name := by
  rcases List.mem_append.mp used with before | after
  · -- The sign ends the operand in front of it.
    rw [mul_assoc] at member
    have breaks : Breaks Identifier.isPart (sign symbol * operand right) :=
      (breaks_sign first fun _ => isPart_of_isSpace).mul _
    exact .mul_right (fun _ => left.mentions before) (fun text listed => (breaks text listed).2)
      member
  · exact .mul_left (fun _ => ends_of_mem_sign last) (fun _ => right.mentions after) member

/-- A keyword with two operands keeps their names. -/
theorem mentions_of_mem_pair {keyword : String} {left right : Operand} {name : String}
    (used : name ∈ left.names ++ right.names) {text : List Char}
    (member : text ∈ pair keyword left right) : Mentions text name := by
  -- The keyword and its gap end before the operands.
  refine .mul_left (fun _ => ends_of_mem_keyword) (fun _ => ?_) member
  exact mentions_of_mem_operands used (by decide) (by decide)

end Grammar

namespace Command

/-- The names that a command looks up stand as words in all the ways to write it. -/
theorem mentions_of_spelled {command : Command} {name : String} (used : name ∈ command.names)
    {line : List Char} (spelled : line ∈ command.spellings) : Mentions line name := by
  cases command with
  | drawTo x y => exact mentions_of_mem_pair used spelled
  | moveBy dx dy => exact mentions_of_mem_pair used spelled
  | rect width height => exact mentions_of_mem_pair used spelled
  | triangle side =>
    exact .mul_left (fun _ => ends_of_mem_keyword) (fun _ => side.mentions used) spelled
  | circle radius =>
    exact .mul_left (fun _ => ends_of_mem_keyword) (fun _ => radius.mentions used) spelled
  | compute target source op operand =>
    obtain rfl := List.mem_singleton.mp used
    refine .mul_left (fun _ => ends_of_mem_sign (by decide)) (fun _ => ?_) spelled
    -- The operator ends the name of the source.
    intro right
    rw [mul_assoc] at right
    have breaks : Breaks Identifier.isPart (sign op.symbol * digits operand.toInt) :=
      (breaks_sign (by cases op <;> decide) fun _ => isPart_of_isSpace).mul _
    refine .mul_right (fun text taken => ?_) (fun text listed => (breaks text listed).2) right
    obtain ⟨rfl, -⟩ := taken
    exact .refl name
  | _ => exact nomatch used

/-- The names that a well-formed command looks up are identifiers. -/
theorem spelled_of_mem_names {command : Command} (wellFormed : command.WellFormed) {name : String}
    (used : name ∈ command.names) : Identifier.Spelled name := by
  have both : ∀ {first second : Operand}, first.WellFormed ∧ second.WellFormed →
      name ∈ first.names ++ second.names → Identifier.Spelled name := by
    intro first second formed listed
    rcases List.mem_append.mp listed with before | after
    · exact first.spelled_of_mem_names formed.1 before
    · exact second.spelled_of_mem_names formed.2 after
  -- A command looks up the names of its operands, and a computation that of its source.
  cases command with
  | drawTo x y => exact both wellFormed used
  | moveBy dx dy => exact both wellFormed used
  | rect width height => exact both wellFormed used
  | triangle side => exact side.spelled_of_mem_names wellFormed used
  | circle radius => exact radius.spelled_of_mem_names wellFormed used
  | compute target source op operand =>
    obtain rfl := List.mem_singleton.mp used
    exact wellFormed.2.1
  | _ => exact nomatch used

/-- A line mentions every name that its command looks up, and all of these are identifiers. -/
theorem mentions_of_ofLine {line : String} {command : Command} (same : ofLine line = command)
    {name : String} (used : name ∈ command.names) :
    Identifier.Spelled name ∧ Mentions line.toList name := by
  -- Markers and lines that are kept look up nothing.
  have unmarked : command.marker? = none := by
    cases command with
    | opens kind condition => exact nomatch used
    | closes kind => exact nomatch used
    | _ => rfl
  have known : ∀ kept, command ≠ .unrecognized kept := by
    rintro kept rfl
    exact nomatch used
  refine ⟨spelled_of_mem_names (wellFormed_of_ofLine same unmarked known) used, ?_⟩
  exact .of_trimChars (mentions_of_spelled used (spelled_of_ofLine same known))

/-- The name that a line binds is an identifier. -/
theorem spelled_of_target? {line : String} {command : Command} (same : ofLine line = command)
    {name : String} (target : command.target? = some name) : Identifier.Spelled name := by
  -- The two commands with a target come from the grammar, which spells its name.
  cases command with
  | assign other value =>
    obtain rfl := Option.some.inj target
    exact wellFormed_of_ofLine same rfl nofun
  | compute other source op operand =>
    obtain rfl := Option.some.inj target
    exact (wellFormed_of_ofLine same rfl nofun).1
  | _ => cases target

/-- A line that opens a block mentions every name that its condition does. -/
theorem mentions_of_opens {line : String} {kind : BlockKind} {condition : String}
    (same : ofLine line = .opens kind condition) {name : String}
    (mentions : Mentions condition.toList name) : Mentions line.toList name := by
  have spelled := spelled_of_ofLine same nofun
  rw [spellings_opens] at spelled
  refine .of_trimChars (.mul_left (fun _ => ends_of_mem_keyword) (fun text kept => ?_) spelled)
  -- The condition is what is left of the text behind the keyword.
  refine .of_trimChars ?_
  rw [kept.1]
  exact mentions

end Command

namespace Grammar

/-- All the ways to write a comparison, with any spaces around its three parts. -/
def comparison (condition : Condition) : Language Char :=
  -- Blanks are allowed around the whole as well as around the operator.
  space∗ * (operand condition.left * sign condition.op.symbol * operand condition.right) * space∗

end Grammar

namespace Condition

/-- A text that is read as a condition is one of the ways to write it. -/
theorem mem_comparison_of_parse {text : String} {condition : Condition}
    (read : parse text = .ok condition) : text.toList ∈ comparison condition := by
  unfold parse at read
  split at read
  · rename_i found whole
    obtain rfl := Except.ok.inj read
    simp only [Condition.read, whole?_eq_some_iff, bind_eq_some_iff, pure_eq_some_iff] at whole
    obtain ⟨left, _, first, op, _, middle, right, _, last, rfl, rfl⟩ := whole
    -- Spaces, an operand and spaces again are read on both sides of the sign.
    obtain ⟨_, front, split⟩ := append_of_spaced Operand.takes_read first
    obtain ⟨_, back, rfl⟩ := append_of_spaced Operand.takes_read last
    have signed : op.symbol.toList ∈ word op.symbol := rfl
    rw [← split, ← append_of_oneOf middle, List.append_nil, ← List.append_assoc]
    have product := Language.append_mem_mul (Language.append_mem_mul front signed) back
    simpa only [comparison, sign, mul_assoc] using product
  · cases read

/-- The names that a condition looks up stand as words in all the ways to write it. -/
theorem mentions_of_mem_comparison {condition : Condition} {name : String}
    (used : name ∈ condition.names) {text : List Char} (member : text ∈ comparison condition) :
    Mentions text name := by
  have spaces : ∀ text ∈ space∗, ∀ c ∈ text, Identifier.isPart c = false := by
    intro text listed c inside
    exact isPart_of_isSpace ((mem_kstar_space text).mp listed c inside)
  -- No space around the operands goes on with a name.
  refine .mul_right (fun _ => ?_) (fun text listed => stops_of_forall (spaces text listed)) member
  refine .mul_left (fun text listed => ends_of_forall (spaces text listed)) fun _ => ?_
  exact mentions_of_mem_operands used (by cases condition.op <;> decide)
    (by cases condition.op <;> decide)

/-- The names that a condition looks up are identifiers if the condition can be written. -/
theorem spelled_of_mem_comparison {condition : Condition} {text : List Char}
    (member : text ∈ comparison condition) {name : String} (used : name ∈ condition.names) :
    Identifier.Spelled name := by
  -- The text is taken apart from its end, where the last spaces stand.
  obtain ⟨_, front, _, -, -⟩ := Language.mem_mul.mp member
  obtain ⟨_, -, _, operands, -⟩ := Language.mem_mul.mp front
  obtain ⟨_, toSign, _, right, -⟩ := Language.mem_mul.mp operands
  obtain ⟨_, left, _, -, -⟩ := Language.mem_mul.mp toSign
  rcases List.mem_append.mp used with before | after
  · exact Operand.spelled_of_mem_names (Operand.wellFormed_of_mem_operand left) before
  · exact Operand.spelled_of_mem_names (Operand.wellFormed_of_mem_operand right) after

/-- A line that opens a block mentions every name that its condition looks up. -/
theorem mentions_of_parse {line condition : String} {kind : BlockKind} {parsed : Condition}
    (same : Command.ofLine line = .opens kind condition) (read : parse condition = .ok parsed)
    {name : String} (used : name ∈ parsed.names) :
    Identifier.Spelled name ∧ Mentions line.toList name := by
  -- The condition is kept as it stands in the line, so a name in it is in the line.
  have written := mem_comparison_of_parse read
  exact ⟨spelled_of_mem_comparison written used,
    Command.mentions_of_opens same (mentions_of_mem_comparison used written)⟩

end Condition

end Plotter
