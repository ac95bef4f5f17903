import Plotter.Arithmetic
import Plotter.Variables

/-! Conditions, the comparisons that decide whether a block runs. -/

namespace Plotter

/-- A comparison of two operands. -/
structure Condition where
  /-- The operand on the left. -/
  left : Operand
  /-- The comparison. -/
  op : CmpOp
  /-- The operand on the right. -/
  right : Operand
  deriving DecidableEq, Repr

namespace Condition

/-- The text of a condition. -/
def text (condition : Condition) : String :=
  -- A printed condition has single spaces, wherever the script had more or none.
  condition.left.text ++ " " ++ condition.op.symbol ++ " " ++ condition.right.text

/-- Reads a condition; spaces may stand anywhere around its three parts. -/
def read : Scan Condition := do
  -- The operator is read before any space behind it, so that no space splits its sign.
  let left ← Scan.spaced Operand.read
  let op ← Scan.oneOf CmpOp.symbol CmpOp.all
  let right ← Scan.spaced Operand.read
  return { left, op, right }

/-- The condition that a text spells. -/
def parse (text : String) : Except Error Condition :=
  -- The text is quoted back as a whole, without a hint of what is wrong in it.
  match read.whole? text.toList with
  | some condition => .ok condition
  | none => .error (.badCondition text)

/-- Whether a condition holds; the left operand is resolved first. -/
def holds (condition : Condition) (store : Variables) : Except Error Bool := do
  -- An unresolved operand on the left hides one on the right.
  let lhs ← store.resolve condition.left
  let rhs ← store.resolve condition.right
  return condition.op.holds lhs rhs

/-- Whether the condition that a text spells holds. -/
def evaluate (text : String) (store : Variables) : Except Error Bool := do
  -- A malformed text fails whatever the variables are.
  let condition ← parse text
  condition.holds store

end Condition

end Plotter
