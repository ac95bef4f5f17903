import Plotter.BlockKind
import Plotter.Drawing
import Plotter.Operand
import Plotter.Operator

/-! Commands, the meanings of single lines. -/

namespace Plotter

/-- What one line of a script asks for; operands are not looked up yet. -/
inductive Command where
  /-- Draws a line from the cursor to a point and moves the cursor there. -/
  | drawTo (x y : Operand)
  /-- Moves the cursor by a distance without drawing. -/
  | moveBy (dx dy : Operand)
  /-- Draws a rectangle at the cursor. -/
  | rect (width height : Operand)
  /-- Draws a triangle at the cursor. -/
  | triangle (side : Operand)
  /-- Draws a circle around the cursor. -/
  | circle (radius : Operand)
  /-- Removes everything drawn so far. -/
  | clear
  /-- Puts cursor, pen and fill back to their first state. -/
  | reset
  /-- Asks for the script to be run, which is up to whoever feeds it. -/
  | run
  /-- Turns filling on or off and chooses its colour. -/
  | fill (enabled : Bool) (color : Color)
  /-- Chooses the colour of the pen. -/
  | pen (color : Color)
  /-- Opens a block; the condition is kept as text. -/
  | opens (kind : BlockKind) (condition : String)
  /-- Closes a block. -/
  | closes (kind : BlockKind)
  /-- Binds a name to a number. -/
  | assign (name : String) (value : Number)
  /-- Binds a name to the result of an operation on a variable. -/
  | compute (name source : String) (op : ArithOp) (operand : Number)
  /-- A line that has none of the known forms. -/
  | unrecognized (line : String)
  deriving DecidableEq, Repr

namespace Command

/-- The marker that a command is, if it opens or closes a block. -/
def marker? : Command → Option Marker
  -- A marker has no meaning on its own, which is why it is told apart here.
  | opens kind _ => some (.opening kind)
  | closes kind => some (.closing kind)
  | _ => none

/-- What the kind of a command is called. -/
def name : Command → String
  -- Both assignments have a name of their own, as they are made differently.
  | drawTo _ _ => "drawto"
  | moveBy _ _ => "moveto"
  | rect _ _ => "rect"
  | triangle _ => "trig"
  | circle _ => "circle"
  | clear => "clear"
  | reset => "reset"
  | run => "run"
  | fill _ _ => "fill-toggle"
  | pen _ => "pen-color"
  | opens kind _ => (Marker.opening kind).name
  | closes kind => (Marker.closing kind).name
  | assign _ _ => "assign-literal"
  | compute _ _ _ _ => "assign-arithmetic"
  | unrecognized _ => "unrecognized"

/-- A keyword with two operands. -/
def pairText (keyword : String) (first second : Operand) : String :=
  -- There is one blank behind the comma and none in front of it.
  keyword ++ " " ++ first.text ++ ", " ++ second.text

/-- The word that turns filling on or off. -/
def switchText (enabled : Bool) : String :=
  -- These are the only two words that a line can have in this place.
  if enabled then "on" else "off"

/-- A command as a line of a script. -/
def text : Command → String
  -- Every number is written in decimal, however the line had spelled it.
  | drawTo x y => pairText "drawto" x y
  | moveBy dx dy => pairText "moveto" dx dy
  | rect width height => pairText "rect" width height
  | triangle side => "trig " ++ side.text
  | circle radius => "circle " ++ radius.text
  | clear => "clear"
  | reset => "reset"
  | run => "run"
  | fill enabled color => "fill " ++ switchText enabled ++ " color:" ++ color.name
  | pen color => "pen " ++ color.name
  | opens kind condition => kind.keyword ++ " " ++ condition
  | closes kind => kind.endKeyword
  | assign name value => name ++ " = " ++ value.text
  | compute name source op operand =>
    name ++ " = " ++ source ++ " " ++ op.symbol ++ " " ++ operand.text
  | unrecognized line => line

end Command

end Plotter
