import Plotter.Error

/-! Arithmetic and comparison with operators given as values or as texts. -/

namespace Plotter

namespace ArithOp

/-- The operation on exact integers; division rounds towards zero. -/
def exact : ArithOp → Int → Int → Int
  -- A quotient by zero is zero here, and is refused before it is asked for.
  | add, lhs, rhs => lhs + rhs
  | sub, lhs, rhs => lhs - rhs
  | mul, lhs, rhs => lhs * rhs
  | div, lhs, rhs => lhs.tdiv rhs

/-- The operation on numbers, which fails where the exact result is no number. -/
def apply (op : ArithOp) (lhs rhs : Number) : Except Error Number :=
  -- A zero divisor is told apart from a result that is too large.
  if op = div ∧ rhs = 0 then .error .divisionByZero
  else
    match Number.ofInt? (op.exact lhs.toInt rhs.toInt) with
    | some result => .ok result
    | none => .error (.overflow lhs op rhs)

/-- The operator that a text spells. -/
def parse (text : String) : Except Error ArithOp :=
  -- The text has to be the sign and nothing else.
  match ofSymbol? text with
  | some op => .ok op
  | none => .error (.badOperator text)

end ArithOp

namespace CmpOp

/-- The operator that a text spells. -/
def parse (text : String) : Except Error CmpOp :=
  -- Unlike the operator of a condition, this text has nothing around it.
  match ofSymbol? text with
  | some op => .ok op
  | none => .error (.badOperator text)

/-- Compares two numbers with an operator given as text. -/
def compare (lhs : Number) (text : String) (rhs : Number) : Except Error Bool := do
  -- The operator is read first, so a bad one fails whatever the numbers are.
  let op ← parse text
  return op.holds lhs rhs

end CmpOp

end Plotter
