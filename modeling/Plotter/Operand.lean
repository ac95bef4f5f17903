import Plotter.Number

/-! Identifiers, the names of variables, and operands, the arguments of commands and conditions. -/

namespace Plotter

namespace Identifier

/-- Whether an identifier can start with the character. -/
def isStart (c : Char) : Bool :=
  -- Letters of other alphabets have no place in a name.
  c.isAlpha || c == '_'

/-- Whether an identifier can go on with the character. -/
def isPart (c : Char) : Bool :=
  -- From the second character on, digits are allowed as well.
  c.isAlphanum || c == '_'

/-- Whether a list of characters is an identifier. -/
def accepts : List Char → Bool
  -- There is no identifier without characters.
  | [] => false
  | c :: rest => isStart c && rest.all isPart

/-- Whether a text is an identifier: letters, digits and underscores of ASCII, no digit in front. -/
def isValid (text : String) : Bool :=
  -- Keywords are identifiers like any other.
  accepts text.toList

/-- Reads the longest identifier at the front. -/
def read : Scan String
  | [] => none
  | c :: rest =>
    -- The first character decides whether there is an identifier at all.
    if isStart c then
      some (String.ofList (c :: rest.takeWhile isPart), rest.dropWhile isPart)
    else none

end Identifier

/-- A number, or the name of a variable that holds one. -/
inductive Operand where
  /-- A number that stands for itself. -/
  | lit (value : Number)
  /-- A name that is looked up when the operand is used. -/
  | var (name : String)
  deriving DecidableEq, Repr

namespace Operand

/-- The text of an operand in a script. -/
def text : Operand → String
  -- A number is printed anew, a name as it is.
  | lit value => value.text
  | var name => name

/-- Reads an operand: a number if one stands at the front, else an identifier. -/
def read : Scan Operand :=
  -- No identifier starts like a number, so it does not matter which is tried first.
  lit <$> Number.read <|> var <$> Identifier.read

end Operand

end Plotter
