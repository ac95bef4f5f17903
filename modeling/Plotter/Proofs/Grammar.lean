import Mathlib.Computability.Language
import Plotter.Command.Form
import Plotter.Proofs.Identifier

/-! The grammar of lines: all the ways in which each command can be written. -/

namespace Plotter

namespace Grammar

open scoped Computability

/-- The given text and no other one. -/
def word (text : String) : Language Char :=
  -- One spelling only: nothing in a word is optional.
  {text.toList}

/-- A space or a tab. -/
def space : Language Char :=
  -- The other blanks of Unicode do not separate words.
  word " " + word "\t"

/-- At least one space or tab. -/
def gap : Language Char :=
  -- Where a gap is asked for, one blank is the least.
  space * space∗

/-- The name itself, if it is an identifier. -/
def identifier (name : String) : Language Char :=
  -- The name is its own spelling.
  {text | text = name.toList ∧ Identifier.Spelled name}

/-- The runs of decimal digits with the given value; zeros may stand in front. -/
def digits (value : Int) : Language Char :=
  -- Leading zeros are allowed, so a value has many spellings.
  {text | text ≠ [] ∧ (∀ c ∈ text, Identifier.Digit c) ∧
    (Nat.ofDigitChars 10 text 0 : Int) = value}

/-- The ways to write a number, with or without a sign. -/
def integer (value : Number) : Language Char :=
  -- A sign may stand before any digits, also before those of zero.
  digits value.toInt + word "+" * digits value.toInt + word "-" * digits (-value.toInt)

/-- The ways to write an operand. -/
def operand : Operand → Language Char
  -- A literal starts with a digit or a sign and a name does not, so the two never overlap.
  | .lit value => integer value
  | .var name => identifier name

/-- The name of a colour, if it is in the palette. -/
def color (color : Color) : Language Char :=
  -- A colour outside the palette has no spelling.
  {text | text = color.name.toList ∧ color ∈ Color.palette}

/-- The texts around a condition, which is what is left of them without the blanks at both ends. -/
def condition (condition : String) : Language Char :=
  -- The text of a condition is kept as it stands, and is not read before it is needed.
  {text | Text.trimChars text = condition.toList ∧ condition ≠ ""}

/-- A sign with any spaces around it. -/
def sign (text : String) : Language Char :=
  -- Around a sign, blanks may be left out.
  space∗ * word text * space∗

/-- A keyword and two operands with a comma between them. -/
def pair (keyword : String) (first second : Operand) : Language Char :=
  -- The operands are told apart by the comma, so no gap is needed between them.
  word keyword * gap * (operand first * sign "," * operand second)

end Grammar

open Grammar in
/-- All the ways to write a command, without blanks around it. -/
def Command.spellings : Command → Language Char
  | drawTo x y => pair "drawto" x y
  | moveBy dx dy => pair "moveto" dx dy
  | rect width height => pair "rect" width height
  | triangle side => word "trig" * gap * operand side
  | circle radius => word "circle" * gap * operand radius
  | clear => word "clear"
  | reset => word "reset"
  | run => word "run"
  | fill true chosen => word "fill" * gap * (word "on" * gap * word "color:" * color chosen)
  | fill false chosen => word "fill" * gap * (word "off" * gap * word "color:" * color chosen)
  | pen chosen => word "pen" * gap * color chosen
  | opens .loop text => word "while" * gap * condition text
  | opens .branch text => word "if" * gap * condition text
  | closes .loop => word "endwhile"
  | closes .branch => word "endif"
  | assign name value => identifier name * sign "=" * integer value
  | compute name source op value =>
    identifier name * sign "=" * (identifier source * sign op.symbol * digits value.toInt)
  -- A line without a form is not written in any way of its own.
  | unrecognized _ => 0

/-- A fill has the word of its switch. -/
theorem Command.spellings_fill (enabled : Bool) (chosen : Color) :
    (fill enabled chosen).spellings = Grammar.word "fill" * Grammar.gap *
      (Grammar.word (switchText enabled) * Grammar.gap * Grammar.word "color:" *
        Grammar.color chosen) := by
  -- Each switch is one of the two forms.
  cases enabled <;> rfl

/-- An opening line has the keyword of its block. -/
theorem Command.spellings_opens (kind : BlockKind) (text : String) :
    (opens kind text).spellings =
      Grammar.word kind.keyword * Grammar.gap * Grammar.condition text := by
  -- Branch and loop differ in their keyword alone.
  cases kind <;> rfl

/-- A closing line is the other keyword of its block. -/
theorem Command.spellings_closes (kind : BlockKind) :
    (closes kind).spellings = Grammar.word kind.endKeyword := by
  -- Each kind has one word that closes it.
  cases kind <;> rfl

/-- The text is a plain assignment or an arithmetic one. -/
def Grammar.IsAssignment (text : List Char) : Prop :=
  -- The left side may be a keyword, as every identifier can be assigned to.
  (∃ name value, text ∈ (Command.assign name value).spellings) ∨
    ∃ name source op operand, text ∈ (Command.compute name source op operand).spellings

/--
The text reads as the command.

An opening line gives way to an assignment to a variable that is called like its keyword. Only a
text that no command can be written as is kept as it is.
-/
def Command.ReadsFrom (text : List Char) : Command → Prop
  -- Assignments come first, so an opening has to give way to them.
  | opens kind condition =>
    text ∈ (opens kind condition).spellings ∧ ¬ Grammar.IsAssignment text
  | unrecognized kept => kept.toList = text ∧ ∀ command : Command, text ∉ command.spellings
  | command => text ∈ command.spellings

/-- The form of the lines that spell a command. -/
def Command.form? : Command → Option Form
  -- An unrecognized line has no form, as no grammar has matched it.
  | drawTo _ _ => some .drawTo
  | moveBy _ _ => some .moveBy
  | rect _ _ => some .rect
  | triangle _ => some .triangle
  | circle _ => some .circle
  | clear => some .clear
  | reset => some .reset
  | run => some .run
  | fill _ _ => some .fill
  | pen _ => some .pen
  | opens kind _ => some (.opens kind)
  | closes kind => some (.closes kind)
  | assign _ _ => some .assign
  | compute _ _ _ _ => some .compute
  | unrecognized _ => none

end Plotter
