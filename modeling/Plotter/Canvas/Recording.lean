import Plotter.Event

/-! Canvases, the surfaces that commands draw on, and the one that only remembers the operations. -/

namespace Plotter

/-- A surface that takes drawing operations. -/
class Canvas (κ : Type) where
  /-- The surface after an operation. -/
  draw : κ → DrawOp → κ
  /-- What the surface has to say about an operation before carrying it out. -/
  announce : κ → DrawOp → Option Event

/-- The operations on a canvas, oldest first. -/
structure Recording where
  /-- The operations so far. -/
  ops : Array DrawOp := #[]
  deriving DecidableEq, Repr

/-- A recording keeps every operation and has nothing to say about any. -/
instance : Canvas Recording where
  -- Even a clear is only one more operation, so nothing that was asked for is ever lost.
  draw recording op := { ops := recording.ops.push op }
  announce _ _ := none

end Plotter
