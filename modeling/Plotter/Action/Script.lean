import Plotter.Action.Block
import Plotter.Batch

/-! The pass over the lines of a script, and the run of what it queues. -/

namespace Plotter.Action

variable {κ : Type}

/-- The command that a line spells. -/
def recognize (line : String) : Action κ Command := do
  match Form.recognize? (Text.trimChars line.toList) with
  -- A line without a form is no failure here; its place decides what becomes of it.
  | some (form, command) =>
    emit (.recognized (Text.trim line) form)
    return command
  | none => return .unrecognized (Text.trim line)

/-- Takes a command on a line outside of blocks: assignments are made now, the rest is kept. -/
def takeOutside (number : Nat) (batch : Batch) : Command → Action κ Pass
  | .assign name value => do
    -- The number is there for the blocks that follow, which do not wait either.
    assign name (.int value)
    return { batch }
  | .opens kind condition => return { batch, opened := some { kind, condition, line := number } }
  | .closes kind => fail (.unmatchedEnd kind)
  | .unrecognized text => do
    -- The line is no failure, so the others are still looked at.
    emit (.rejected number text)
    return { batch := batch.reject number text }
  | command => return { batch := batch.enqueue command }

/-- Takes a command on a line inside a block, which runs when its end is reached. -/
def takeInside [Canvas κ] (settings : Settings) (fuel : Nat) (batch : Batch) (block : Block)
    (command : Command) : Action κ Pass := do
  if command = .closes block.kind then
    emit (.blockClosed block.kind block.line block.body.size)
    runBlock settings fuel block
    return { batch }
  else
    match command.marker? with
    -- Blocks cannot be nested, and have to be closed by the keyword of their kind.
    | some marker => fail (.nestedBlock marker block.kind block.line)
    | none => return { batch, opened := some (block.push command) }

/-- Takes the next line of a script; blank lines change nothing. -/
def takeLine [Canvas κ] (settings : Settings) (fuel number : Nat) (line : String) (pass : Pass) :
    Action κ Pass := do
  -- A blank line is not even looked at, but its number has been counted.
  if (Text.trim line).isEmpty then return pass
  else
    let command ← recognize line
    match pass.opened with
    | none => takeOutside number pass.batch command
    | some block => takeInside settings fuel pass.batch block command

/-- Adds an event to the log if the action fails. -/
def onFailure {α : Type} (event : Error → Event) (action : Action κ α) : Action κ α :=
  tryCatch action fun
    | .failure error => do
      emit (event error)
      fail error
    -- A lack of fuel says nothing about the script.
    | .outOfFuel => throw .outOfFuel

/-- Takes lines in order, the first of which has the given number. -/
def takeLines [Canvas κ] (settings : Settings) (fuel : Nat) :
    Nat → List String → Pass → Action κ Pass
  -- The report of a failure names the line, as the error itself need not do so.
  | _, [], pass => return pass
  | number, line :: rest, pass => do
    let pass ← onFailure (.lineFailed number) (takeLine settings fuel number line pass)
    takeLines settings fuel (number + 1) rest pass

/-- The batch of a pass at the end of its script, where no block may be open. -/
def closePass (pass : Pass) : Action κ Batch :=
  -- The missing end has no line of its own to be reported with.
  match pass.opened with
  | none => return pass.batch
  | some block => onFailure .endFailed (fail (.missingEnd block.kind block.line))

/-- Makes one pass over the lines of a script. -/
def validate [Canvas κ] (settings : Settings) (fuel : Nat) (lines : List String) :
    Action κ Batch := do
  -- Lines are counted from one, and nothing is open in front of the first.
  let pass ← takeLines settings fuel 1 lines {}
  closePass pass

/-- Makes one pass over the lines of a script and, if none was rejected, runs what is queued. -/
def runScript [Canvas κ] (settings : Settings) (fuel : Nat) (lines : List String) :
    Action κ Batch := do
  let batch ← validate settings fuel lines
  if batch.isValid then executeAll settings batch.queued.toList
  -- A single rejected line keeps the whole queue from being executed.
  else emit (.queueSkipped batch.rejected.size)
  return batch

end Plotter.Action
