import Plotter.Command
import Plotter.Text.Blank

/-! The forms that a line can have, and the command that each of them spells. -/

namespace Plotter

/-- A form that a line can have. -/
inductive Form where
  | assign
  | compute
  | drawTo
  | moveBy
  | rect
  | triangle
  | circle
  | clear
  | reset
  | run
  | fill
  | pen
  | opens (kind : BlockKind)
  | closes (kind : BlockKind)
  deriving DecidableEq, Repr

namespace Form

/-- What a form is called. -/
def name : Form → String
  -- The log names forms by the keyword that a line starts with, where there is one.
  | assign => "assign"
  | compute => "assign-arithmetic"
  | drawTo => "drawto"
  | moveBy => "moveto"
  | rect => "rect"
  | triangle => "trig"
  | circle => "circle"
  | clear => "clear"
  | reset => "reset"
  | run => "run"
  | fill => "fill"
  | pen => "pen"
  | opens kind => kind.keyword
  | closes kind => kind.endKeyword

/-- Every form, in the order of precedence; assignments come first, so that `if = 4` is one. -/
def all : List Form :=
  -- Apart from the assignments, no two forms take the same line.
  [assign, compute, drawTo, moveBy, rect, triangle, circle, clear, reset, run, fill, pen,
   opens .loop, closes .loop, opens .branch, closes .branch]

/-- Reads the equals sign of an assignment. -/
def readEquals : Scan Unit :=
  -- No space is needed on either side.
  Scan.spaced (Scan.literal "=")

/-- Reads two operands with a comma between them. -/
def readPair : Scan (Operand × Operand) := do
  -- The comma may have spaces around it, but a space alone does not part two operands.
  let first ← Operand.read
  Scan.spaced (Scan.literal ",")
  let second ← Operand.read
  return (first, second)

/-- Reads the name of a palette colour; a longer word does not match. -/
def readColor : Scan Color := do
  -- A colour that a script cannot choose does not match, and neither does any other word.
  let word ← Scan.many1 Char.isAlpha
  Color.ofPalette? (String.ofList word)

/-- Reads the word that turns filling on or off. -/
def readSwitch : Scan Bool :=
  -- Neither word is the start of the other one.
  Scan.oneOf Command.switchText [true, false]

/-- Reads a condition as text, which must not be blank. -/
def readCondition : Scan String := do
  -- What the text says is looked at when the block runs, and not before.
  let condition := Text.trimChars (← Scan.rest)
  if condition.isEmpty then failure else return String.ofList condition

/-- Reads a line of the form. -/
def read : Form → Scan Command
  | assign => do
    let name ← Identifier.read
    readEquals
    let value ← Number.read
    return .assign name value
  | compute => do
    let name ← Identifier.read
    readEquals
    let source ← Identifier.read
    let op ← Scan.spaced (Scan.oneOf ArithOp.symbol ArithOp.all)
    -- A sign would stand next to the operator, so the number has none.
    let operand ← Number.readUnsigned
    return .compute name source op operand
  | drawTo => do
    Scan.keyword "drawto"
    let (x, y) ← readPair
    return .drawTo x y
  | moveBy => do
    Scan.keyword "moveto"
    let (dx, dy) ← readPair
    return .moveBy dx dy
  | rect => do
    Scan.keyword "rect"
    let (width, height) ← readPair
    return .rect width height
  | triangle => do
    Scan.keyword "trig"
    let side ← Operand.read
    return .triangle side
  | circle => do
    Scan.keyword "circle"
    let radius ← Operand.read
    return .circle radius
  | clear => do
    Scan.literal "clear"
    return .clear
  | reset => do
    Scan.literal "reset"
    return .reset
  | run => do
    Scan.literal "run"
    return .run
  | fill => do
    Scan.keyword "fill"
    let enabled ← readSwitch
    Scan.spaces1
    Scan.literal "color:"
    let color ← readColor
    return .fill enabled color
  | pen => do
    Scan.keyword "pen"
    let color ← readColor
    return .pen color
  | opens kind => do
    Scan.keyword kind.keyword
    let condition ← readCondition
    return .opens kind condition
  | closes kind => do
    Scan.literal kind.endKeyword
    return .closes kind

/-- The command that a line spells in the form, if the form takes the whole line. -/
def command? (form : Form) (line : List Char) : Option Command :=
  -- A line with something behind its last word does not have the form.
  form.read.whole? line

/-- The first of the given forms that takes the whole line, with the command that it spells. -/
def firstMatch? (forms : List Form) (line : List Char) : Option (Form × Command) :=
  -- Forms behind the first match are not tried, so at most one is ever reported.
  forms.findSome? fun form => (form.command? line).map (form, ·)

/-- The form of a line, with the command that it spells. -/
def recognize? (line : List Char) : Option (Form × Command) :=
  -- The order of the forms is what settles a line that more than one of them takes.
  firstMatch? all line

end Form

namespace Command

/-- The command that a line spells; blanks around the line do not matter. -/
def ofLine (line : String) : Command :=
  -- A line without a form is kept as it is, without the blanks around it.
  match Form.recognize? (Text.trimChars line.toList) with
  | some (_, command) => command
  | none => .unrecognized (Text.trim line)

/-- The name and number of a line that is a plain assignment. -/
def assignment? (line : String) : Option (String × Number) :=
  -- An assignment of the result of an operation is not a plain one.
  match ofLine line with
  | assign name value => some (name, value)
  | _ => none

end Command

end Plotter
