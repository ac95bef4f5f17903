import Plotter.Session

/-! Actions on a session, which keep a log and may stop early. -/

namespace Plotter

/-- The reasons for which an action does not come to its end. -/
inductive Halt where
  /-- The action failed. -/
  | failure (error : Error)
  /-- A loop without a limit went on for longer than the caller was ready to follow it. -/
  | outOfFuel
  deriving DecidableEq, Repr

/-- An action on a session; one that stops early leaves the session as it was at that moment. -/
abbrev Action (κ : Type) :=
  -- The log is part of the state, so an early stop keeps what was written before it.
  EStateM Halt (Machine κ)

namespace Action

variable {κ α : Type}

/-- Adds an event to the log. -/
def emit (event : Event) : Action κ Unit :=
  -- No action looks at the log, so an event never changes what happens next.
  modify fun machine => { machine with log := machine.log.push event }

/-- Stops with an error. -/
def fail (error : Error) : Action κ α :=
  -- The session and the log stay as they are at this moment.
  throw (.failure error)

/-- Continues with the value of a computation, or stops with its error. -/
def ofExcept : Except Error α → Action κ α
  -- The computation has no part in the state, so it can only give or fail.
  | .ok value => pure value
  | .error error => fail error

/-- Asks something of the session without changing it. -/
def ask (question : Session κ → α) : Action κ α := do
  -- The log is kept out of sight of the question.
  return question (← get).session

/-- Changes the session. -/
def update (change : Session κ → Session κ) : Action κ Unit :=
  -- The log is kept out of reach of the change.
  modify fun machine => { machine with session := change machine.session }

/-- Takes away the notices given so far. -/
def takeNotices : Action κ (Array Notice) := do
  -- Whoever takes the notices has them, and the session starts to collect anew.
  let notices ← ask (·.notices)
  update fun session => { session with notices := #[] }
  return notices

end Action

end Plotter
