import Plotter.Proofs.Loop
import Plotter.Proofs.Mention
import Plotter.Proofs.Readers

/-! A condition is read from its spellings alone, in one way each, and compares integers. -/

namespace Plotter

open Plotter.Grammar Plotter.Scan
open scoped Computability

/-- A text starts with one token at most that can end where it does. -/
theorem Scan.Takes.unique {α : Type} {reader : Scan α} {tokens : α → Language Char}
    {goesOn : α → Char → Bool} (takes : Takes reader tokens goesOn) (one two : α)
    {first second rest left : List Char} (member : first ∈ tokens one)
    (other : second ∈ tokens two) (stops : Stops (goesOn one) rest)
    (halts : Stops (goesOn two) left) (whole : first ++ rest = second ++ left) :
    one = two ∧ first = second ∧ rest = left := by
  -- The reader finds both of them.
  have found := (takes (first ++ rest) one rest).mpr ⟨first, member, rfl, stops⟩
  have again := (takes (first ++ rest) two left).mpr ⟨second, other, whole.symm, halts⟩
  obtain ⟨rfl, rfl⟩ := Prod.mk.inj (Option.some.inj (found.symm.trans again))
  exact ⟨rfl, List.append_cancel_right whole, rfl⟩

/-- The option that is read is the first one whose spelling stands at the front. -/
theorem Scan.oneOf_append {α : Type} {spelling : α → String} (front : List α)
    (option : α) (back : List α) (rest : List Char)
    (passed : ∀ other ∈ front, ¬ (spelling other).toList <+: (spelling option).toList ++ rest) :
    oneOf spelling (front ++ option :: back) ((spelling option).toList ++ rest) =
      some (option, rest) := by
  -- The induction is on the options in front, each of which is tried and fails.
  induction front with
  | nil => exact (oneOf_cons_eq_some_iff ..).mpr (.inl ⟨rfl, rfl⟩)
  | cons other others ih =>
    rw [List.forall_mem_cons] at passed
    refine (oneOf_cons_eq_some_iff ..).mpr (.inr ⟨?_, ih passed.2⟩)
    refine Option.eq_none_iff_forall_ne_some.mpr fun ⟨found, left⟩ read => passed.1 ?_
    exact ⟨left, ((option_eq_some_iff ..).mp read).2⟩

namespace CmpOp

/-- The relation between integers that an operator stands for. -/
def Relates : CmpOp → Int → Int → Prop
  -- The relations are those of the integers, with no limit of the machine in them.
  | eq, lhs, rhs => lhs = rhs
  | ne, lhs, rhs => lhs ≠ rhs
  | le, lhs, rhs => lhs ≤ rhs
  | ge, lhs, rhs => lhs ≥ rhs
  | lt, lhs, rhs => lhs < rhs
  | gt, lhs, rhs => lhs > rhs

instance (lhs rhs : Int) : (op : CmpOp) → Decidable (op.Relates lhs rhs)
  -- Comparing two integers can always be decided.
  | eq => inferInstanceAs (Decidable (lhs = rhs))
  | ne => inferInstanceAs (Decidable (lhs ≠ rhs))
  | le => inferInstanceAs (Decidable (lhs ≤ rhs))
  | ge => inferInstanceAs (Decidable (lhs ≥ rhs))
  | lt => inferInstanceAs (Decidable (lhs < rhs))
  | gt => inferInstanceAs (Decidable (lhs > rhs))

/-- Numbers are compared as the integers that they are. -/
theorem holds_eq_decide (op : CmpOp) (lhs rhs : Number) :
    op.holds lhs rhs = decide (op.Relates lhs.toInt rhs.toInt) := by
  rw [Bool.eq_iff_iff, decide_eq_true_eq]
  -- Every machine comparison has its counterpart among the integers.
  cases op with
  | eq => exact beq_iff_eq.trans Int32.toInt_inj.symm
  | ne => exact bne_iff_ne.trans (not_congr Int32.toInt_inj.symm)
  | le => exact decide_eq_true_iff.trans Int32.le_iff_toInt_le
  | ge => exact decide_eq_true_iff.trans Int32.le_iff_toInt_le
  | lt => exact decide_eq_true_iff.trans Int32.lt_iff_toInt_lt
  | gt => exact decide_eq_true_iff.trans Int32.lt_iff_toInt_lt

/-- The characters that make the sign of an operator another one. -/
def goesOn : CmpOp → Char → Bool
  -- An equals sign behind these two would make another operator of them.
  | lt | gt => Form.isEquals
  | op => never op

/-- The sign of a comparison is read if it cannot be a longer one. -/
theorem read_symbol (op : CmpOp) {rest : List Char} (stops : Stops op.goesOn rest) :
    oneOf symbol all (op.symbol.toList ++ rest) = some (op, rest) := by
  -- Only a sign with an equals sign behind it is tried before one that it starts with.
  have alone : op = lt ∨ op = gt → ¬ ['='] <+: rest := by
    rintro (rfl | rfl) ⟨others, rfl⟩ <;> simp [goesOn, Form.isEquals] at stops
  cases op with
  | eq => exact oneOf_append [] eq [ne, le, ge, lt, gt] rest (List.forall_mem_nil _)
  | ne => exact oneOf_append [eq] ne [le, ge, lt, gt] rest (by simp [symbol])
  | le => exact oneOf_append [eq, ne] le [ge, lt, gt] rest (by simp [symbol])
  | ge => exact oneOf_append [eq, ne, le] ge [lt, gt] rest (by simp [symbol])
  | lt => exact oneOf_append [eq, ne, le, ge] lt [gt] rest (by simp [symbol, alone])
  | gt => exact oneOf_append [eq, ne, le, ge, lt] gt [] rest (by simp [symbol, alone])

/-- The longest sign of a comparison is read that stands at the front. -/
theorem takes_read : Takes (oneOf symbol all) (fun op => word op.symbol) goesOn := by
  intro input op rest
  constructor
  · intro read
    have whole := append_of_oneOf read
    refine ⟨_, rfl, whole, ?_⟩
    intro c first
    obtain ⟨tail, rfl⟩ := List.head?_eq_some_iff.mp first
    -- With an equals sign behind it, the longer sign would have been read.
    have only : ∀ other : CmpOp, other.symbol.toList ++ tail = input →
        Stops other.goesOn tail → op = other := by
      rintro other rfl stops
      exact (Prod.mk.inj (Option.some.inj (read.symm.trans (read_symbol other stops)))).1
    subst whole
    cases op with
    | lt =>
      refine beq_eq_false_iff_ne.mpr ?_
      rintro rfl
      exact nomatch only le rfl (stops_never le tail)
    | gt =>
      refine beq_eq_false_iff_ne.mpr ?_
      rintro rfl
      exact nomatch only ge rfl (stops_never ge tail)
    | _ => rfl
  · rintro ⟨_, rfl, rfl, stops⟩
    exact read_symbol op stops

/-- The sign of a comparison does not start with a space. -/
theorem breaks_isSpace (op : CmpOp) : Breaks isSpace (word op.symbol) :=
  -- There are six signs to look at.
  breaks_word (by cases op <;> decide)

/-- No space makes a sign longer. -/
theorem goesOn_of_isSpace (op : CmpOp) {c : Char} (blank : isSpace c = true) :
    op.goesOn c = false := by
  -- An operator only grows by an equals sign, which is no space.
  simp only [isSpace, Bool.or_eq_true, beq_iff_eq] at blank
  cases op <;> rcases blank with rfl | rfl <;> rfl

/-- No operand makes the sign in front of it longer, not even one with a sign of its own. -/
theorem breaks_operand (op : CmpOp) (value : Operand) : Breaks op.goesOn (operand value) := by
  -- An operand starts with a digit, a sign or a letter, and none of them continues an operator.
  have parts : ∀ c, Identifier.isPart c = true → op.goesOn c = false := by
    intro c part
    cases op with
    | lt => exact Form.isEquals_of_isPart part
    | gt => exact Form.isEquals_of_isPart part
    | _ => rfl
  exact Operand.breaks_operand parts (by cases op <;> rfl) (by cases op <;> rfl) value

end CmpOp

namespace Condition

/-- An operand as it is written, with the spaces on both sides of it. -/
@[ext]
structure Padded where
  /-- The operand. -/
  value : Operand
  /-- The spaces in front of it. -/
  before : List Char
  /-- The characters of the operand itself. -/
  token : List Char
  /-- The spaces behind it. -/
  after : List Char
  ahead : before ∈ space∗
  spelled : token ∈ operand value
  behind : after ∈ space∗

namespace Padded

/-- The characters of an operand and of the spaces around it. -/
def text (part : Padded) : List Char :=
  -- The blanks on both sides belong to the operand, and the operator has none.
  part.before ++ (part.token ++ part.after)

/-- What may follow an operand: something that makes neither it nor the spaces longer. -/
def EndsAt (part : Padded) (rest : List Char) : Prop :=
  -- Neither the blanks behind the operand nor the operand itself may reach into the rest.
  Stops isSpace rest ∧ Stops part.value.goesOn rest

variable {part : Padded} {rest : List Char}

/-- The spaces behind an operand, with what may follow them, do not make it longer. -/
theorem stops_after (ends : part.EndsAt rest) : Stops part.value.goesOn (part.after ++ rest) := by
  -- Without spaces behind the operand, it is what follows that has to stop it.
  cases blank : part.after with
  | nil => exact ends.2
  | cons c others =>
    have space := (mem_kstar_space _).mp part.behind c (by simp [blank])
    exact (stops_cons _ _ _).mpr (part.value.goesOn_of_isSpace space)

/-- An operand does not make the spaces in front of it longer. -/
theorem stops_token (part : Padded) (rest : List Char) :
    Stops isSpace (part.token ++ (part.after ++ rest)) :=
  -- A token never starts with a blank, so the blanks before it end there.
  (Operand.breaks_isSpace part.value).stops part.spelled _

/-- An operand is read with the spaces around it. -/
theorem read_text (ends : part.EndsAt rest) :
    spaced Operand.read (part.text ++ rest) = some (part.value, rest) := by
  simp only [spaced, bind_eq_some_iff, pure_eq_some_iff]
  -- The spaces in front are read up to the operand, and this up to the spaces behind it.
  refine ⟨(), part.token ++ (part.after ++ rest), ?_, part.value, part.after ++ rest, ?_, (), rest,
    ?_, rfl, rfl⟩
  · exact (takes_spaces ..).mpr ⟨_, part.ahead, by simp [text], part.stops_token rest⟩
  · exact (Operand.takes_read ..).mpr ⟨_, part.spelled, rfl, stops_after ends⟩
  · exact (takes_spaces ..).mpr ⟨_, part.behind, rfl, ends.1⟩

/-- A text starts with one operand and the spaces around it at most. -/
theorem unique {one two : Padded} {rest left : List Char} (ends : one.EndsAt rest)
    (halts : two.EndsAt left) (whole : one.text ++ rest = two.text ++ left) :
    one = two ∧ rest = left := by
  simp only [text, List.append_assoc] at whole
  -- The parts are told apart one after the other, from the left.
  obtain ⟨-, before, whole⟩ := takes_spaces.unique () () one.ahead two.ahead (one.stops_token rest)
    (two.stops_token left) whole
  obtain ⟨value, token, whole⟩ := Operand.takes_read.unique _ _ one.spelled two.spelled
    (stops_after ends) (stops_after halts) whole
  obtain ⟨-, after, whole⟩ := takes_spaces.unique () () one.behind two.behind ends.1 halts.1 whole
  exact ⟨Padded.ext value before token after, whole⟩

/-- Whatever an operand and the spaces around it start with does not make a sign longer. -/
theorem stops_goesOn (part : Padded) (op : CmpOp) : Stops op.goesOn part.text := by
  unfold text
  -- The part starts with a space, or else with the operand itself.
  cases blank : part.before with
  | nil => exact (op.breaks_operand part.value).stops part.spelled part.after
  | cons c others =>
    have space := (mem_kstar_space _).mp part.ahead c (by simp [blank])
    exact (stops_cons _ _ _).mpr (op.goesOn_of_isSpace space)

/-- An operand can stand at the end of a text. -/
theorem endsAt_nil (part : Padded) : part.EndsAt [] :=
  -- At the end of the text there is nothing to reach into.
  ⟨stops_nil _, stops_nil _⟩

/-- An operand can stand in front of the sign of a comparison. -/
theorem endsAt_symbol (part : Padded) (op : CmpOp) (rest : List Char) :
    part.EndsAt (op.symbol.toList ++ rest) := by
  refine ⟨op.breaks_isSpace.stops ((mem_word _ _).mpr rfl) rest, ?_⟩
  -- No sign starts with a digit, a letter or an underscore.
  have other : part.value.goesOn '=' = false ∧ part.value.goesOn '!' = false ∧
      part.value.goesOn '<' = false ∧ part.value.goesOn '>' = false := by
    cases part.value <;> exact ⟨rfl, rfl, rfl, rfl⟩
  cases op <;> simp [CmpOp.symbol, other]

end Padded

/-- A way to write a condition: its operands, with the spaces around them, and its sign. -/
@[ext]
structure Spelling where
  /-- The operand on the left. -/
  left : Padded
  /-- The comparison, which is written as its sign. -/
  op : CmpOp
  /-- The operand on the right. -/
  right : Padded

namespace Spelling

/-- The condition that is written. -/
def condition (spelling : Spelling) : Condition where
  -- The blanks are the only thing of a spelling that the condition forgets.
  left := spelling.left.value
  op := spelling.op
  right := spelling.right.value

/-- The characters of a way to write a condition. -/
def text (spelling : Spelling) : List Char :=
  -- The operator stands directly between the two padded operands.
  spelling.left.text ++ (spelling.op.symbol.toList ++ spelling.right.text)

/-- No text is two ways to write a condition. -/
theorem text_injective : Function.Injective text := by
  intro one two whole
  -- The left operand ends at the sign, the sign at the right operand, and that one at the end.
  obtain ⟨left, whole⟩ := Padded.unique (one.left.endsAt_symbol one.op one.right.text)
    (two.left.endsAt_symbol two.op two.right.text) whole
  obtain ⟨op, -, whole⟩ :=
    CmpOp.takes_read.unique _ _ ((mem_word _ _).mpr rfl) ((mem_word _ _).mpr rfl)
    (one.right.stops_goesOn one.op) (two.right.stops_goesOn two.op) whole
  rw [← List.append_nil one.right.text, ← List.append_nil two.right.text] at whole
  obtain ⟨right, -⟩ := Padded.unique one.right.endsAt_nil two.right.endsAt_nil whole
  exact Spelling.ext left op right

/-- A way to write a condition is read as that condition. -/
theorem read_text (spelling : Spelling) : read spelling.text = some (spelling.condition, []) := by
  simp only [read, bind_eq_some_iff, pure_eq_some_iff]
  -- The right operand is the last thing of the text, with nothing behind it.
  have last := Padded.read_text spelling.right.endsAt_nil
  rw [List.append_nil] at last
  exact ⟨_, _, Padded.read_text (spelling.left.endsAt_symbol spelling.op spelling.right.text), _, _,
    CmpOp.read_symbol _ (spelling.right.stops_goesOn spelling.op), _, _, last, rfl, rfl⟩

/-- Every text in the grammar of a condition is a way to write it. -/
theorem exists_of_mem_comparison {condition : Condition} {text : List Char}
    (member : text ∈ comparison condition) :
    ∃ spelling : Spelling, spelling.condition = condition ∧ spelling.text = text := by
  -- The grammar has its seven parts in nested products.
  obtain ⟨_, front, last, ending, rfl⟩ := Language.mem_mul.mp member
  obtain ⟨first, opening, _, operands, rfl⟩ := Language.mem_mul.mp front
  obtain ⟨_, toSign, right, after, rfl⟩ := Language.mem_mul.mp operands
  obtain ⟨left, before, _, sign, rfl⟩ := Language.mem_mul.mp toSign
  obtain ⟨_, spaced, behind, later, rfl⟩ := Language.mem_mul.mp sign
  obtain ⟨ahead, earlier, _, rfl, rfl⟩ := Language.mem_mul.mp spaced
  refine ⟨⟨⟨condition.left, first, left, ahead, opening, before, earlier⟩, condition.op,
    ⟨condition.right, behind, right, last, later, after, ending⟩⟩, rfl, ?_⟩
  simp [Spelling.text, Padded.text]

end Spelling

/-- A text is read as a condition exactly if it is a way to write it. -/
theorem parse_eq_ok_iff (text : String) (condition : Condition) :
    parse text = .ok condition ↔
      ∃ spelling : Spelling, spelling.condition = condition ∧ spelling.text = text.toList := by
  -- Reading gives a spelling by the grammar, and a spelling is read to its end.
  constructor
  · exact fun read => Spelling.exists_of_mem_comparison (mem_comparison_of_parse read)
  · rintro ⟨spelling, rfl, same⟩
    have whole := (whole?_eq_some_iff ..).mpr spelling.read_text
    rw [same] at whole
    rw [parse, whole]

/-- A text that is no way to write a condition is malformed, and the error shows it. -/
theorem parse_eq_error_iff (text : String) (error : Error) :
    parse text = .error error ↔
      error = .badCondition text ∧ ∀ spelling : Spelling, spelling.text ≠ text.toList := by
  constructor
  · intro malformed
    -- A spelling of the text would be a condition that can be read.
    refine ⟨parse_error malformed, fun spelling same => ?_⟩
    rw [(parse_eq_ok_iff ..).mpr ⟨spelling, rfl, same⟩] at malformed
    exact nomatch malformed
  · rintro ⟨rfl, none⟩
    cases read : parse text with
    | error error => rw [parse_error read]
    | ok condition =>
      obtain ⟨spelling, -, same⟩ := (parse_eq_ok_iff ..).mp read
      exact (none spelling same).elim

/-- A condition whose names are identifiers is read back from its text. -/
theorem parse_text {condition : Condition} (left : condition.left.WellFormed)
    (right : condition.right.WellFormed) : parse condition.text = .ok condition := by
  -- There is one space on both sides of the sign, and none at the ends.
  have none : [] ∈ space∗ := (mem_kstar_space _).mpr (List.forall_mem_nil _)
  have single : [' '] ∈ space∗ := (mem_kstar_space _).mpr (by simp [isSpace])
  refine (parse_eq_ok_iff ..).mpr ⟨⟨⟨_, [], _, [' '], none, Operand.text_mem_operand left, single⟩,
    condition.op, ⟨_, [' '], _, [], single, Operand.text_mem_operand right, none⟩⟩, rfl, ?_⟩
  simp [Spelling.text, Padded.text, text]

/-- The operands of a condition that is read are numbers and identifiers. -/
theorem wellFormed_of_parse {text : String} {condition : Condition}
    (read : parse text = .ok condition) :
    condition.left.WellFormed ∧ condition.right.WellFormed := by
  -- The operands of a spelling are spelled by the grammar, which has well-formed ones only.
  obtain ⟨spelling, rfl, -⟩ := (parse_eq_ok_iff ..).mp read
  exact ⟨Operand.wellFormed_of_mem_operand spelling.left.spelled,
    Operand.wellFormed_of_mem_operand spelling.right.spelled⟩

end Condition

/-- The error of an operand that stands for no number shows its text. -/
theorem Variables.resolve_error_of_wellFormed {store : Variables} {operand : Operand}
    {error : Error} (wellFormed : operand.WellFormed)
    (failed : store.resolve operand = .error error) :
    error = .unresolved operand.text := by
  obtain ⟨name, used, rfl, -⟩ := resolve_error failed
  -- An identifier is looked up as it is written, as it has no blanks around it.
  cases operand with
  | lit value => exact nomatch used
  | var other =>
    obtain rfl := List.mem_singleton.mp used
    rw [trim_of_spelled wellFormed, Operand.text]

namespace Condition

/-- What a text gives in a store that is read as a condition. -/
structure Compares (store : Variables) (text : String) (condition : Condition) : Prop where
  /-- Operands that stand for numbers are compared as integers. -/
  numbers : ∀ lhs rhs, store.resolve condition.left = .ok lhs →
    store.resolve condition.right = .ok rhs →
    evaluate text store = .ok (decide (condition.op.Relates lhs.toInt rhs.toInt))
  /-- A left operand without a number is reported, whatever stands on the right. -/
  left : ∀ error, store.resolve condition.left = .error error →
    error = .unresolved condition.left.text ∧ evaluate text store = .error error
  /-- A right operand without a number is reported if the left one has a number. -/
  right : ∀ lhs error, store.resolve condition.left = .ok lhs →
    store.resolve condition.right = .error error →
    error = .unresolved condition.right.text ∧ evaluate text store = .error error

/-- A condition that is read compares the integers that its operands stand for. -/
theorem compares_of_parse {text : String} {condition : Condition} (store : Variables)
    (read : parse text = .ok condition) : Compares store text condition := by
  obtain ⟨leftFormed, rightFormed⟩ := wellFormed_of_parse read
  have evaluated := evaluate_of_parse read store
  -- The left operand is resolved first, so the error of the right one needs a number on the left.
  constructor
  · intro lhs rhs left right
    rw [evaluated, ← CmpOp.holds_eq_decide]
    exact (bind_eq_ok_iff ..).mpr ⟨lhs, left, (bind_eq_ok_iff ..).mpr ⟨rhs, right, rfl⟩⟩
  · intro error left
    refine ⟨Variables.resolve_error_of_wellFormed leftFormed left, evaluated.trans ?_⟩
    exact (bind_eq_error_iff ..).mpr (.inl left)
  · intro lhs error left right
    refine ⟨Variables.resolve_error_of_wellFormed rightFormed right, evaluated.trans ?_⟩
    exact (bind_eq_error_iff ..).mpr (.inr ⟨lhs, left, (bind_eq_error_iff ..).mpr (.inl right)⟩)

/--
Conditions are the texts of the grammar, read in one way, and compare integers.

Every other text is malformed, and the text of a condition is read back as that condition.
-/
theorem conditions_compare_integers :
    (∀ text condition, parse text = .ok condition ↔
      ∃ spelling : Spelling, spelling.condition = condition ∧ spelling.text = text.toList) ∧
    (∀ one two : Spelling, one.text = two.text → one = two) ∧
    (∀ text error, parse text = .error error ↔
      error = .badCondition text ∧ ∀ spelling : Spelling, spelling.text ≠ text.toList) ∧
    (∀ condition : Condition, condition.left.WellFormed → condition.right.WellFormed →
      parse condition.text = .ok condition) ∧
    ∀ store text, (∀ condition, parse text = .ok condition → Compares store text condition) ∧
      ∀ error, parse text = .error error → evaluate text store = .error error := by
  -- Spellings settle what is parsed; what is evaluated goes by whether it was parsed.
  refine ⟨parse_eq_ok_iff, Spelling.text_injective, parse_eq_error_iff,
    fun _ left right => parse_text left right, fun store text => ⟨?_, ?_⟩⟩
  · exact fun condition read => compares_of_parse store read
  · exact fun error malformed => evaluate_of_parse_error malformed store

/-- The sign of a number stands next to that of a comparison, and the left operand comes first. -/
theorem comparison_next_to_sign :
    evaluate "x<-5" { entries := [("x", .int 3)] } = .ok false ∧
    evaluate "x<=+3" { entries := [("x", .int 3)] } = .ok true ∧
    evaluate "y == z" .empty = .error (.unresolved "y") ∧
    evaluate "3 == z" .empty = .error (.unresolved "z") ∧
    evaluate "x < = 3" .empty = .error (.badCondition "x < = 3") ∧
    parse (text ⟨.var "x", .le, .lit (-2147483648)⟩) = .ok ⟨.var "x", .le, .lit (-2147483648)⟩ := by
  obtain ⟨-, -, -, printed, evaluated⟩ := conditions_compare_integers
  -- One store for the conditions that are decided, the empty one for those that fail.
  have numbers := fun text condition read =>
    ((evaluated { entries := [("x", .int 3)] } text).1 condition read).numbers
  have empty := fun text condition read => (evaluated .empty text).1 condition read
  refine ⟨numbers "x<-5" ⟨.var "x", .lt, .lit (-5)⟩ (by decide +kernel) 3 (-5) (by decide) rfl,
    numbers "x<=+3" ⟨.var "x", .le, .lit 3⟩ (by decide +kernel) 3 3 (by decide) rfl,
    ((empty "y == z" ⟨.var "y", .eq, .var "z"⟩ (by decide +kernel)).left _ (by decide)).2,
    ((empty "3 == z" ⟨.lit 3, .eq, .var "z"⟩ (by decide +kernel)).right 3 _ rfl (by decide)).2,
    (evaluated .empty "x < = 3").2 _ (by decide +kernel), printed _ (by decide) (by decide)⟩

end Condition

end Plotter
