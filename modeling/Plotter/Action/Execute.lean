import Plotter.Action
import Plotter.Effect

/-! Carrying out commands, alone and in order. -/

namespace Plotter.Action

variable {κ : Type}

/-- Carries out a drawing operation, after what the canvas has to say about it. -/
def draw [Canvas κ] (op : DrawOp) : Action κ Unit := do
  -- The canvas speaks first, so that it can tell what is about to be lost.
  if let some event ← ask fun session => Canvas.announce session.canvas op then emit event
  update fun session => { session with canvas := Canvas.draw session.canvas op }

/-- Binds a name to a value that has passed the check. -/
def bindName (name : String) (value : Value) : Action κ Unit := do
  -- The event stands in the log before the variable has its value.
  emit (.assigned name value)
  update fun session => { session with store := session.store.insert name value }

/-- Binds a name to a value, if the two pass the check. -/
def assign (name : String) (value : Value) : Action κ Unit := do
  -- A binding that is refused leaves no trace in the log.
  ofExcept (Variables.check name value)
  bindName name value

/-- Makes the change that an effect describes. -/
def perform [Canvas κ] : Effect → Action κ Unit
  | .draw op cursor => do
    draw op
    update fun session => { session with context := { session.context with cursor } }
  | .adjust context => update fun session => { session with context }
  | .bind name value => bindName name value
  -- A notice is shown in the log, and kept for whoever asked for the command.
  | .notify notice => do
    emit (.noticed notice)
    update fun session => { session with notices := session.notices.push notice }

/-- Carries out a command: its effect is decided first, so that a failure changes nothing. -/
def execute [Canvas κ] (settings : Settings) (command : Command) : Action κ Unit := do
  -- The command is named in the log even if it fails.
  emit (.executing command)
  let effect ← ofExcept (← ask fun session =>
    Effect.ofCommand settings session.store session.context command)
  perform effect

/-- Carries out commands in order, up to the first failure. -/
def executeAll [Canvas κ] (settings : Settings) : List Command → Action κ Unit
  -- What was carried out before a failure stays done.
  | [] => pure ()
  | command :: rest => do
    execute settings command
    executeAll settings rest

end Plotter.Action
