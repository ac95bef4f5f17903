import Plotter.Command

/-! Blocks of commands, and batches, what a pass over a script leaves to be done. -/

namespace Plotter

/-- The commands between two markers, with the condition of the first. -/
structure Block where
  /-- Whether the block is a loop or a branch. -/
  kind : BlockKind
  /-- The text of the condition. -/
  condition : String
  /-- The commands between the markers. -/
  body : Array Command := #[]
  /-- The number of the line that opened the block. -/
  line : Nat
  deriving DecidableEq, Repr

/-- A block with one more command at its end. -/
def Block.push (block : Block) (command : Command) : Block :=
  -- Kind, condition and line stay those of the marker that opened the block.
  { block with body := block.body.push command }

/-- The commands that a script has queued, and the lines that it cannot have. -/
structure Batch where
  /-- The queued commands, in the order of their lines. -/
  queued : Array Command := #[]
  /-- The rejected lines with their numbers, counted from one. -/
  rejected : Array (Nat × String) := #[]
  deriving DecidableEq, Repr

namespace Batch

/-- Whether no line was rejected. -/
def isValid (batch : Batch) : Bool :=
  -- The queue does not matter: a script that asks for nothing is in order.
  batch.rejected.isEmpty

/-- A batch with one more queued command. -/
def enqueue (batch : Batch) (command : Command) : Batch :=
  -- The order of the queue is the order of the lines.
  { batch with queued := batch.queued.push command }

/-- A batch with one more rejected line. -/
def reject (batch : Batch) (number : Nat) (text : String) : Batch :=
  -- A rejected line takes nothing out of the queue.
  { batch with rejected := batch.rejected.push (number, text) }

end Batch

/-- How far a pass over a script has come. -/
structure Pass where
  /-- What was queued and rejected so far. -/
  batch : Batch := {}
  /-- The block that is open, if there is one. -/
  opened : Option Block := none
  deriving DecidableEq, Repr

end Plotter
