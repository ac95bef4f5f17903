import Plotter.Number

/-! The operators of arithmetic assignments and of conditions. -/

namespace Plotter

/-- An operator of an arithmetic assignment. -/
inductive ArithOp where
  | add
  | sub
  | mul
  | div
  deriving DecidableEq, Repr

namespace ArithOp

/-- The sign that an operator is written with. -/
def symbol : ArithOp → String
  -- Each sign is one character.
  | add => "+"
  | sub => "-"
  | mul => "*"
  | div => "/"

/-- Every arithmetic operator. -/
def all : List ArithOp :=
  -- No sign starts with another one, so the order does not matter.
  [add, sub, mul, div]

/-- The operator with the given sign. -/
def ofSymbol? (text : String) : Option ArithOp :=
  -- A sign with anything around it is none.
  all.find? (·.symbol == text)

end ArithOp

/-- An operator that compares two numbers. -/
inductive CmpOp where
  | eq
  | ne
  | le
  | ge
  | lt
  | gt
  deriving DecidableEq, Repr

namespace CmpOp

/-- The sign that an operator is written with. -/
def symbol : CmpOp → String
  -- Where two signs start alike, one of them goes on with an equals sign.
  | eq => "=="
  | ne => "!="
  | le => "<="
  | ge => ">="
  | lt => "<"
  | gt => ">"

/-- Every comparison, in an order in which no sign starts with an earlier one. -/
def all : List CmpOp :=
  -- The longer signs come first, or they would never be read in full.
  [eq, ne, le, ge, lt, gt]

/-- The operator with the given sign. -/
def ofSymbol? (text : String) : Option CmpOp :=
  -- A single equals sign is no comparison.
  all.find? (·.symbol == text)

/-- Whether the comparison holds between two numbers. -/
def holds (op : CmpOp) (lhs rhs : Number) : Bool :=
  -- Numbers are compared as the integers that they stand for.
  match op with
  | eq => lhs == rhs
  | ne => lhs != rhs
  | le => lhs ≤ rhs
  | ge => lhs ≥ rhs
  | lt => lhs < rhs
  | gt => lhs > rhs

end CmpOp

end Plotter
