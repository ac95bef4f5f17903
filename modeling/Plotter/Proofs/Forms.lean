import Plotter.Proofs.Blank
import Plotter.Proofs.Tokens

/-! Each form takes exactly the lines that the grammar has for its commands. -/

namespace Plotter.Form

open Plotter.Grammar Plotter.Scan

variable {α : Type}

/-- Two operands are read with the comma between them. -/
theorem takes_readPair :
    Takes readPair (fun both => operand both.1 * sign "," * operand both.2)
      (fun both => both.2.goesOn) := by
  have comma : Takes (spaced (literal ",")) (fun _ => sign ",") (fun _ => isSpace) :=
    takes_spaced (takes_literal ",") fun _ => breaks_word (by decide)
  intro input both rest
  unfold readPair
  -- The parts are read one after the other: an operand, the comma, another operand.
  simp only [bind_eq_some_iff, pure_eq_some_iff, Operand.takes_read _ _ _, comma _ _ _]
  constructor
  · intro read
    obtain ⟨x, _, ⟨first, left, rfl, -⟩, _, _, ⟨middle, separates, rfl, -⟩, y, _,
      ⟨last, right, rfl, stops⟩, rfl, rfl⟩ := read
    have product := Language.append_mem_mul (Language.append_mem_mul left separates) right
    exact ⟨_, product, by simp, stops⟩
  · intro listed
    obtain ⟨_, product, rfl, stops⟩ := listed
    obtain ⟨_, front, last, right, rfl⟩ := Language.mem_mul.mp product
    obtain ⟨first, left, middle, separates, rfl⟩ := Language.mem_mul.mp front
    -- Neither a space nor a comma makes the first operand longer.
    have breaks : Breaks both.1.goesOn (sign ",") :=
      breaks_sign (by cases both.1 <;> rfl) fun _ => both.1.goesOn_of_isSpace
    have apart : Stops both.1.goesOn (middle ++ (last ++ rest)) := breaks.stops separates _
    have solid : Stops isSpace (last ++ rest) := (Operand.breaks_isSpace both.2).stops right rest
    exact ⟨both.1, _, ⟨first, left, by simp, apart⟩, (), _, ⟨middle, separates, rfl, solid⟩,
      both.2, rest, ⟨last, right, rfl, stops⟩, rfl, rfl⟩

/-- Two operands do not start with a space. -/
theorem breaks_pair (both : Operand × Operand) :
    Breaks isSpace (operand both.1 * sign "," * operand both.2) :=
  -- The pair begins as its first operand does.
  ((Operand.breaks_isSpace both.1).mul _).mul _

/-- A colour does not start with a space. -/
theorem breaks_color (chosen : Color) : Breaks isSpace (color chosen) := by
  -- A colour is a word, and no word of them begins with a space.
  intro token named
  obtain ⟨rfl, -⟩ := named
  exact breaks_word (by cases chosen <;> decide) _ rfl

/-- A keyword and the one thing that follows it are made into a command. -/
theorem whole?_keyword_eq_some_iff {reader : Scan α} {tokens : α → Language Char}
    {goesOn : α → Char → Bool} (takes : Takes reader tokens goesOn)
    (apart : ∀ value, Breaks isSpace (tokens value)) (text : String) (made : α → Command)
    (line : List Char) (command : Command) :
    (keyword text >>= fun _ => reader >>= fun value => pure (made value)).whole? line =
      some command ↔ ∃ value, made value = command ∧ line ∈ word text * gap * tokens value := by
  -- Nothing is left behind the last token, so the whole line is the two in a row.
  simp only [whole?_eq_some_iff, bind_eq_some_iff, pure_eq_some_iff, takes_keyword _ _ _ _,
    takes _ _ _]
  constructor
  · intro read
    obtain ⟨_, _, ⟨front, opening, rfl, -⟩, value, _, ⟨token, spelled, rfl, -⟩, same, rfl⟩ := read
    exact ⟨value, same, Language.append_mem_mul opening (by simpa using spelled)⟩
  · intro listed
    obtain ⟨value, same, product⟩ := listed
    obtain ⟨front, opening, token, spelled, rfl⟩ := Language.mem_mul.mp product
    -- The gap ends where the token starts.
    have solid : Stops isSpace token := (apart value token spelled).2
    exact ⟨(), token, ⟨front, opening, rfl, solid⟩,
      value, [], ⟨token, spelled, by simp, stops_nil _⟩, same, rfl⟩

/-- A form that is a single word takes that word. -/
theorem whole?_literal_eq_some_iff (text : String) (made command : Command) (line : List Char) :
    (literal text >>= fun _ => pure made).whole? line = some command ↔
      made = command ∧ line ∈ word text := by
  simp only [whole?_eq_some_iff, bind_eq_some_iff, pure_eq_some_iff, takes_literal _ _ _ _]
  -- The line has nothing behind the word, as the form reads it to its end.
  constructor
  · intro read
    obtain ⟨_, _, ⟨token, spelled, rfl, -⟩, same, rfl⟩ := read
    exact ⟨same, by simpa using spelled⟩
  · intro listed
    exact ⟨(), [], ⟨line, listed.2, by simp, stops_nil _⟩, listed.1, rfl⟩

/-- The form of plain assignments takes a name, an equals sign and a number. -/
theorem assign_command?_eq_some_iff (line : List Char) (command : Command) :
    assign.command? line = some command ↔ ∃ name value,
      Command.assign name value = command ∧ line ∈ (Command.assign name value).spellings := by
  unfold command? read
  -- A name, the equals sign and a number are read until nothing is left.
  simp only [whole?_eq_some_iff, bind_eq_some_iff, pure_eq_some_iff, Identifier.takes_read _ _ _,
    takes_readEquals _ _ _, Number.takes_read _ _ _, Command.spellings]
  constructor
  · intro found
    obtain ⟨name, _, ⟨first, named, rfl, -⟩, _, _, ⟨middle, equals, rfl, -⟩, value, _,
      ⟨last, written, rfl, -⟩, same, rfl⟩ := found
    have product := Language.append_mem_mul (Language.append_mem_mul named equals) written
    exact ⟨name, value, same, by simpa using product⟩
  · intro listed
    obtain ⟨name, value, same, product⟩ := listed
    obtain ⟨_, front, last, written, rfl⟩ := Language.mem_mul.mp product
    obtain ⟨first, named, middle, equals, rfl⟩ := Language.mem_mul.mp front
    -- The name ends before the equals sign, and the spaces before the number.
    have apart : Stops Identifier.isPart (middle ++ last) :=
      (breaks_sign (by decide) fun _ => isPart_of_isSpace).stops equals last
    have solid : Stops isSpace last := (Number.breaks_isSpace value last written).2
    exact ⟨name, _, ⟨first, named, by simp, apart⟩, (), _, ⟨middle, equals, rfl, solid⟩,
      value, [], ⟨last, written, by simp, stops_nil _⟩, same, rfl⟩

/-- The form of arithmetic takes a name, an equals sign, a source, an operator and digits. -/
theorem compute_command?_eq_some_iff (line : List Char) (command : Command) :
    compute.command? line = some command ↔ ∃ name source op value,
      Command.compute name source op value = command ∧
        line ∈ (Command.compute name source op value).spellings := by
  -- No symbol is the front of another one, so the one that is read is the one that is there.
  have operator : Takes (spaced (oneOf ArithOp.symbol ArithOp.all)) (fun op => sign op.symbol)
      (fun _ => isSpace) := by
    have listed : ∀ op : ArithOp, op ∈ ArithOp.all := by
      intro op
      cases op <;> decide
    have plain : Takes (oneOf ArithOp.symbol ArithOp.all) (fun op => word op.symbol) never := by
      intro input op rest
      rw [takes_oneOf ArithOp.symbol ArithOp.all (by decide)]
      exact ⟨fun ⟨token, spelled, more⟩ => ⟨token, spelled.2, more⟩,
        fun ⟨token, spelled, more⟩ => ⟨token, ⟨listed op, spelled⟩, more⟩⟩
    exact takes_spaced plain fun op => breaks_word (by cases op <;> decide)
  unfold command? read
  simp only [whole?_eq_some_iff, bind_eq_some_iff, pure_eq_some_iff, Identifier.takes_read _ _ _,
    takes_readEquals _ _ _, operator _ _ _, Number.takes_readUnsigned _ _ _, Command.spellings]
  constructor
  · intro found
    obtain ⟨name, _, ⟨first, named, rfl, -⟩, _, _, ⟨second, equals, rfl, -⟩, source, _,
      ⟨third, taken, rfl, -⟩, op, _, ⟨fourth, signed, rfl, -⟩, value, _,
      ⟨last, written, rfl, -⟩, same, rfl⟩ := found
    have right := Language.append_mem_mul (Language.append_mem_mul taken signed) written
    have product := Language.append_mem_mul (Language.append_mem_mul named equals) right
    exact ⟨name, source, op, value, same, by simpa using product⟩
  · intro listed
    obtain ⟨name, source, op, value, same, product⟩ := listed
    obtain ⟨_, toEquals, _, fromSource, rfl⟩ := Language.mem_mul.mp product
    obtain ⟨first, named, second, equals, rfl⟩ := Language.mem_mul.mp toEquals
    obtain ⟨_, toOperator, last, written, rfl⟩ := Language.mem_mul.mp fromSource
    obtain ⟨third, taken, fourth, signed, rfl⟩ := Language.mem_mul.mp toOperator
    -- Each part ends where the next one starts.
    have atEquals : Stops Identifier.isPart (second ++ (third ++ (fourth ++ last))) :=
      (breaks_sign (by decide) fun _ => isPart_of_isSpace).stops equals _
    have atSource : Stops isSpace (third ++ (fourth ++ last)) :=
      (Identifier.breaks_isSpace source).stops taken _
    have atOperator : Stops Identifier.isPart (fourth ++ last) :=
      (breaks_sign (by cases op <;> decide) fun _ => isPart_of_isSpace).stops signed last
    have atValue : Stops isSpace last := by
      refine (Number.breaks_digits (fun c digit => ?_) _ last written).2
      exact isSpace_of_isPart ((Identifier.isPart_iff c).mpr (.inr digit))
    exact ⟨name, _, ⟨first, named, by simp, atEquals⟩, (), _, ⟨second, equals, rfl, atSource⟩,
      source, _, ⟨third, taken, rfl, atOperator⟩, op, _, ⟨fourth, signed, rfl, atValue⟩,
      value, [], ⟨last, written, by simp, stops_nil _⟩, same, rfl⟩

/-- The form of fills takes its keyword, a switch, and a colour behind its own mark. -/
theorem fill_command?_eq_some_iff (line : List Char) (command : Command) :
    fill.command? line = some command ↔ ∃ enabled chosen,
      Command.fill enabled chosen = command ∧ line ∈ (Command.fill enabled chosen).spellings := by
  -- Neither word of a switch is the front of the other one.
  have switch : Takes readSwitch (fun enabled => word (Command.switchText enabled)) never := by
    intro input enabled rest
    unfold readSwitch
    rw [takes_oneOf Command.switchText [true, false] (by decide)]
    exact ⟨fun ⟨token, spelled, more⟩ => ⟨token, spelled.2, more⟩,
      fun ⟨token, spelled, more⟩ => ⟨token, ⟨by cases enabled <;> decide, spelled⟩, more⟩⟩
  unfold command? read
  simp only [whole?_eq_some_iff, bind_eq_some_iff, pure_eq_some_iff, takes_keyword _ _ _ _,
    switch _ _ _, takes_spaces1 _ _ _, takes_literal _ _ _ _, takes_readColor _ _ _,
    Command.spellings_fill]
  constructor
  · intro found
    obtain ⟨_, _, ⟨first, opening, rfl, -⟩, enabled, _, ⟨second, switched, rfl, -⟩, _, _,
      ⟨third, space, rfl, -⟩, _, _, ⟨fourth, marked, rfl, -⟩, chosen, _,
      ⟨last, named, rfl, -⟩, same, rfl⟩ := found
    have right := Language.append_mem_mul (Language.append_mem_mul
      (Language.append_mem_mul switched space) marked) named
    have product := Language.append_mem_mul opening right
    exact ⟨enabled, chosen, same, by simpa using product⟩
  · intro listed
    obtain ⟨enabled, chosen, same, product⟩ := listed
    obtain ⟨first, opening, _, fromSwitch, rfl⟩ := Language.mem_mul.mp product
    obtain ⟨_, toMark, last, named, rfl⟩ := Language.mem_mul.mp fromSwitch
    obtain ⟨_, toSpace, fourth, marked, rfl⟩ := Language.mem_mul.mp toMark
    obtain ⟨second, switched, third, space, rfl⟩ := Language.mem_mul.mp toSpace
    -- The two gaps end at the switch and at the mark of the colour.
    have atSwitch : Stops isSpace (second ++ (third ++ (fourth ++ last))) :=
      (breaks_word (by cases enabled <;> decide)).stops switched _
    have atMark : Stops isSpace (fourth ++ last) := (breaks_word (by decide)).stops marked last
    exact ⟨(), _, ⟨first, opening, by simp, atSwitch⟩, enabled, _,
      ⟨second, switched, rfl, stops_never _ _⟩, (), _, ⟨third, space, rfl, atMark⟩, (), _,
      ⟨fourth, marked, rfl, stops_never _ _⟩, chosen, [], ⟨last, named, by simp, stops_nil _⟩,
      same, rfl⟩

/-- A condition is all that is left of a line, if that is not blank. -/
theorem readCondition_eq_some_iff (input rest : List Char) (text : String) :
    readCondition input = some (text, rest) ↔ input ∈ condition text ∧ rest = [] := by
  -- The condition takes all of the text, and only then is the text found to be blank or not.
  have reads : readCondition input =
      (if (Text.trimChars input).isEmpty then failure
        else pure (String.ofList (Text.trimChars input)) : Scan String) [] := rfl
  rw [reads]
  split
  · rename_i blank
    -- A blank text is the text around no condition.
    constructor
    · intro read
      exact nomatch read
    · intro listed
      obtain ⟨⟨trimmed, filled⟩, -⟩ := listed
      rw [trimmed, List.isEmpty_iff, String.toList_eq_nil_iff] at blank
      exact (filled blank).elim
  · rename_i filled
    rw [pure_eq_some_iff]
    constructor
    · intro read
      obtain ⟨rfl, rfl⟩ := read
      refine ⟨⟨by simp, ?_⟩, rfl⟩
      simpa [← String.toList_eq_nil_iff] using filled
    · intro listed
      obtain ⟨⟨trimmed, -⟩, rfl⟩ := listed
      exact ⟨by rw [trimmed, String.ofList_toList], rfl⟩

/-- The spaces behind a keyword belong to the gap, and those in front of a condition to no part. -/
theorem opens_command?_eq_some_iff (kind : BlockKind) (line : List Char) (command : Command) :
    (opens kind).command? line = some command ↔ ∃ text,
      Command.opens kind text = command ∧ line ∈ (Command.opens kind text).spellings := by
  unfold command? read
  simp only [whole?_eq_some_iff, bind_eq_some_iff, pure_eq_some_iff, takes_keyword _ _ _ _,
    readCondition_eq_some_iff, Command.spellings_opens]
  constructor
  · intro found
    obtain ⟨_, _, ⟨front, opening, rfl, -⟩, text, _, ⟨kept, rfl⟩, same, -⟩ := found
    exact ⟨text, same, Language.append_mem_mul opening kept⟩
  · intro listed
    obtain ⟨text, same, product⟩ := listed
    obtain ⟨_, opening, last, kept, rfl⟩ := Language.mem_mul.mp product
    obtain ⟨first, spelled, space, separates, rfl⟩ := Language.mem_mul.mp opening
    -- All of the spaces go to the gap, which makes no difference to the condition.
    have blank : ∀ c ∈ last.takeWhile isSpace, isSpace c = true :=
      List.all_eq_true.mp List.all_takeWhile
    have split : last.takeWhile isSpace ++ last.dropWhile isSpace = last :=
      List.takeWhile_append_dropWhile
    have wider : space ++ last.takeWhile isSpace ∈ gap := by
      rw [mem_gap] at separates ⊢
      refine ⟨by simp [separates.1], fun c member => ?_⟩
      rcases List.mem_append.mp member with before | after
      · exact separates.2 c before
      · exact blank c after
    have trimmed : Text.trimChars (last.dropWhile isSpace) = Text.trimChars last := by
      conv_rhs => rw [← split]
      exact (Text.trimChars_append (fun c member => isBlank_of_isSpace (blank c member)) _).symm
    exact ⟨(), last.dropWhile isSpace, ⟨first ++ (space ++ last.takeWhile isSpace),
      Language.append_mem_mul spelled wider, by simp [split], stops_dropWhile isSpace last⟩,
      text, [], ⟨⟨trimmed.trans kept.1, kept.2⟩, rfl⟩, same, rfl⟩

/-- The forms of a keyword and two operands take the pairs of the grammar. -/
theorem pair_command?_eq_some_iff (text : String) (made : Operand → Operand → Command)
    (line : List Char) (command : Command) :
    (keyword text >>= fun _ => readPair >>= fun both => pure (made both.1 both.2)).whole? line =
      some command ↔
        ∃ first second, made first second = command ∧ line ∈ pair text first second := by
  -- Two operands are read as one value, which is taken apart again.
  rw [whole?_keyword_eq_some_iff takes_readPair breaks_pair text fun both => made both.1 both.2]
  exact Prod.exists

/-- A form takes exactly the lines in which its commands can be written. -/
theorem command?_eq_some_iff (form : Form) (line : List Char) (command : Command) :
    form.command? line = some command ↔
      command.form? = some form ∧ line ∈ command.spellings := by
  -- Each form has been read above; what is left is to say which commands it has.
  cases form with
  | assign =>
    rw [assign_command?_eq_some_iff]
    cases command <;> simp [Command.form?]
  | compute =>
    rw [compute_command?_eq_some_iff]
    cases command <;> simp [Command.form?]
  | drawTo =>
    refine (pair_command?_eq_some_iff "drawto" .drawTo line command).trans ?_
    cases command <;> simp [Command.form?, Command.spellings]
  | moveBy =>
    refine (pair_command?_eq_some_iff "moveto" .moveBy line command).trans ?_
    cases command <;> simp [Command.form?, Command.spellings]
  | rect =>
    refine (pair_command?_eq_some_iff "rect" .rect line command).trans ?_
    cases command <;> simp [Command.form?, Command.spellings]
  | triangle =>
    refine (whole?_keyword_eq_some_iff Operand.takes_read Operand.breaks_isSpace "trig" .triangle
      line command).trans ?_
    cases command <;> simp [Command.form?, Command.spellings]
  | circle =>
    refine (whole?_keyword_eq_some_iff Operand.takes_read Operand.breaks_isSpace "circle" .circle
      line command).trans ?_
    cases command <;> simp [Command.form?, Command.spellings]
  | clear =>
    refine (whole?_literal_eq_some_iff "clear" .clear command line).trans ?_
    cases command <;> simp [Command.form?, Command.spellings]
  | reset =>
    refine (whole?_literal_eq_some_iff "reset" .reset command line).trans ?_
    cases command <;> simp [Command.form?, Command.spellings]
  | run =>
    refine (whole?_literal_eq_some_iff "run" .run command line).trans ?_
    cases command <;> simp [Command.form?, Command.spellings]
  | fill =>
    rw [fill_command?_eq_some_iff]
    cases command <;> simp [Command.form?]
  | pen =>
    refine Iff.trans
      (whole?_keyword_eq_some_iff takes_readColor breaks_color "pen" .pen line command) ?_
    cases command <;> simp [Command.form?, Command.spellings]
  | opens kind =>
    rw [opens_command?_eq_some_iff]
    cases command with
    | opens other text =>
      constructor
      · intro listed
        obtain ⟨_, same, spelled⟩ := listed
        exact ⟨by rw [← same]; rfl, same ▸ spelled⟩
      · intro listed
        obtain ⟨formed, spelled⟩ := listed
        obtain rfl : other = kind := by simpa [Command.form?] using formed
        exact ⟨text, rfl, spelled⟩
    | _ => simp [Command.form?]
  | closes kind =>
    refine (whole?_literal_eq_some_iff kind.endKeyword (.closes kind) command line).trans ?_
    rw [← Command.spellings_closes]
    cases command with
    | closes other =>
      constructor
      · intro listed
        exact ⟨by rw [← listed.1]; rfl, listed.1 ▸ listed.2⟩
      · intro listed
        obtain ⟨formed, spelled⟩ := listed
        obtain rfl : other = kind := by simpa [Command.form?] using formed
        exact ⟨rfl, spelled⟩
    | _ => simp [Command.form?]

end Plotter.Form
