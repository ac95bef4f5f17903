import Plotter.BlockKind
import Plotter.Drawing
import Plotter.Operator
import Plotter.Text.Quoted

/-! Everything that can stop a command or a script, by its cause, and the remarks that cannot. -/

namespace Plotter

/-- A size that must not be negative. -/
inductive Quantity where
  | width
  | height
  | side
  | radius
  | lineWidth
  deriving DecidableEq, Repr

/-- What a size is called in messages. -/
def Quantity.name : Quantity → String
  -- Only the side and the line width are named in two words.
  | width => "width"
  | height => "height"
  | side => "side length"
  | radius => "radius"
  | lineWidth => "line width"

/-- The cause that stopped a command or a script. -/
inductive Error where
  /-- A text that is not a comparison of two operands. -/
  | badCondition (text : String)
  /-- A text that is not an operator. -/
  | badOperator (text : String)
  /-- An end marker while no block is open. -/
  | unmatchedEnd (kind : BlockKind)
  /-- The end of the script while a block is open. -/
  | missingEnd (kind : BlockKind) (line : Nat)
  /-- A marker inside the block opened on the given line that does not close it. -/
  | nestedBlock (marker : Marker) (kind : BlockKind) (line : Nat)
  /-- A marker carried out as a command. -/
  | looseMarker (marker : Marker)
  /-- A name that is not an identifier. -/
  | badName (name : String)
  /-- An empty text given to a variable. -/
  | emptyText (name : String)
  /-- A number that is not positive given to a variable. -/
  | notPositive (name : String) (value : Number)
  /-- An operation whose exact result is no number. -/
  | overflow (lhs : Number) (op : ArithOp) (rhs : Number)
  /-- A move to a point that has no coordinates. -/
  | moveOverflow (cursor : Point) (dx dy : Number)
  /-- A size below zero. -/
  | negative (what : Quantity) (value : Number)
  /-- An operand that stands for no number. -/
  | unresolved (operand : String)
  /-- A division by zero. -/
  | divisionByZero
  /-- A loop that would go on after as many iterations as it may have. -/
  | loopLimit (limit : Nat)
  deriving DecidableEq, Repr

/-- The broad classes of errors. -/
inductive ErrorKind where
  /-- A text or a line that has no place where it stands. -/
  | malformed
  /-- A name or a value that cannot be used. -/
  | invalid
  /-- A number outside the range for its use. -/
  | outOfRange
  /-- An operand without a number. -/
  | unresolved
  /-- A division by zero. -/
  | divisionByZero
  /-- A loop that did not end in time. -/
  | loopLimit
  deriving DecidableEq, Repr

/-- The words that open the message of a class of errors. -/
def ErrorKind.opening : ErrorKind → String
  -- Where the detail says it all, there is no opening.
  | malformed => "syntax error: "
  | invalid => "invalid value: "
  | outOfRange => "out of range: "
  | unresolved | divisionByZero | loopLimit => ""

namespace Error

/-- The class of an error. -/
def kind : Error → ErrorKind
  -- A marker out of place is a matter of the text, whichever way it is wrong.
  | badCondition _ | badOperator _ | unmatchedEnd _ | missingEnd _ _ | nestedBlock _ _ _
  | looseMarker _ => .malformed
  | badName _ | emptyText _ => .invalid
  | notPositive _ _ | overflow _ _ _ | moveOverflow _ _ _ | negative _ _ => .outOfRange
  | unresolved _ => .unresolved
  | divisionByZero => .divisionByZero
  | loopLimit _ => .loopLimit

/-- What went wrong, without the class of the error. -/
def detail : Error → String
  -- The line of a block is named, as the error shows up on another line than that.
  | badCondition text => "invalid condition format: " ++ Text.quote text
  | badOperator text => "invalid operator " ++ Text.quote text
  | unmatchedEnd kind => kind.endKeyword ++ " without a matching " ++ kind.keyword
  | missingEnd kind line =>
    "missing " ++ kind.endKeyword ++ " for the " ++ kind.keyword ++ " on line " ++
      Number.decimal line
  | nestedBlock marker kind line =>
    "nested blocks are not supported (" ++ marker.name ++ " inside the " ++ kind.keyword ++
      " on line " ++ Number.decimal line ++ ")"
  | looseMarker marker => marker.name ++ " can only be used to delimit a block"
  | badName name => Text.quote name ++ " is not a valid variable name"
  | emptyText name => "value of " ++ name ++ " cannot be empty"
  | notPositive name value =>
    "value of " ++ name ++ " must be greater than 0 (got " ++ value.text ++ ")"
  | overflow lhs op rhs => lhs.text ++ " " ++ op.symbol ++ " " ++ rhs.text ++ " overflows"
  | moveOverflow cursor dx dy =>
    "moving " ++ cursor.text ++ " by " ++ dx.text ++ "," ++ dy.text ++ " overflows"
  | negative what value => what.name ++ " cannot be negative (got " ++ value.text ++ ")"
  | unresolved operand => operand ++ " is neither a number nor a variable holding a number"
  | divisionByZero => "division by zero"
  | loopLimit limit => "while loop still running after " ++ Number.decimal limit ++ " iterations"

/-- The message of an error. -/
def message (error : Error) : String :=
  -- The class comes first, so that it can be told from the first words.
  error.kind.opening ++ error.detail

end Error

/-- Something to tell the user that stops nothing. -/
inductive Notice where
  /-- A line inside a block, or a direct command, that has none of the known forms. -/
  | unrecognized (line : String)
  deriving DecidableEq, Repr

/-- The text of a notice. -/
def Notice.message : Notice → String
  -- The line stands at the end, as it may be anything.
  | unrecognized line => "Unrecognized command: " ++ line

end Plotter
