import Plotter.Arithmetic
import Plotter.Command
import Plotter.Settings
import Plotter.Variables

/-! Effects: what a command does, decided in full before any of it is done. -/

namespace Plotter

/-- The one change that a command makes. -/
inductive Effect where
  /-- Carries out a drawing operation and leaves the cursor at a point. -/
  | draw (op : DrawOp) (cursor : Point)
  /-- Replaces the drawing context. -/
  | adjust (context : Context)
  /-- Binds a name to a value. -/
  | bind (name : String) (value : Value)
  /-- Gives a notice. -/
  | notify (notice : Notice)
  deriving DecidableEq, Repr

namespace Effect

/-- Refuses a size below zero. -/
def nonNegative (what : Quantity) (value : Number) : Except Error Unit :=
  -- Zero is allowed: such a shape is there, even if nothing shows.
  if value < 0 then .error (.negative what value) else .ok ()

/-- The size that an operand stands for. -/
def size (store : Variables) (what : Quantity) (operand : Operand) : Except Error Number := do
  -- The operand is resolved before its sign is looked at.
  let value ← store.resolve operand
  nonNegative what value
  return value

/-- A binding that passes the check of the variables. -/
def assignment (name : String) (value : Value) : Except Error Effect := do
  -- What does not pass the check is never even described as an effect.
  Variables.check name value
  return bind name value

/-- The point at a distance from another one, if both of its coordinates are numbers. -/
def moved (cursor : Point) (dx dy : Number) : Except Error Point :=
  -- The sums are exact, so that a move is made in full or not at all.
  match Number.ofInt? (cursor.x.toInt + dx.toInt), Number.ofInt? (cursor.y.toInt + dy.toInt) with
  | some x, some y => .ok ⟨x, y⟩
  | _, _ => .error (.moveOverflow cursor dx dy)

/-- The effect of a command, or the reason why it has none. -/
def ofCommand (settings : Settings) (store : Variables) (context : Context) :
    Command → Except Error Effect
  -- Operands are looked up from left to right, so the first that is wrong is reported.
  | .drawTo x y => do
    let target : Point := ⟨← store.resolve x, ← store.resolve y⟩
    return draw (.shape (.line context.cursor target context.pen)) target
  | .moveBy dx dy => do
    let dx ← store.resolve dx
    let dy ← store.resolve dy
    let cursor ← moved context.cursor dx dy
    return adjust { context with cursor }
  | .rect width height => do
    let width ← size store .width width
    let height ← size store .height height
    nonNegative .lineWidth context.pen.width
    return draw (.shape (.rect context.cursor width height context.style)) context.cursor
  | .triangle side => do
    let side ← size store .side side
    nonNegative .lineWidth context.pen.width
    return draw (.shape (.triangle context.cursor side context.style)) context.cursor
  | .circle radius => do
    let radius ← size store .radius radius
    nonNegative .lineWidth context.pen.width
    return draw (.shape (.circle context.cursor radius context.style)) context.cursor
  | .clear => .ok (draw (.clear settings.background) context.cursor)
  | .reset => .ok (adjust (.initial settings))
  -- The queue runs at the end of its script in any case.
  | .run => .ok (adjust context)
  | .fill enabled color => .ok (adjust { context with fill := { enabled, color } })
  | .pen color => .ok (adjust { context with pen := { context.pen with color } })
  -- Markers only have a meaning in a script, where they do not come here.
  | .opens kind _ => .error (.looseMarker (.opening kind))
  | .closes kind => .error (.looseMarker (.closing kind))
  | .assign name value => assignment name (.int value)
  | .compute name source op operand => do
    let lhs ← store.resolveToken source
    let result ← op.apply lhs operand
    assignment name (.int result)
  | .unrecognized line => .ok (notify (.unrecognized line))

end Effect

end Plotter
