import Plotter.Action.Execute
import Plotter.Batch

/-! Running loops, branches and blocks. -/

namespace Plotter.Action

variable {κ : Type}

/-- Whether a condition holds at this moment. -/
def decideCondition (condition : Condition) : Action κ Bool := do
  -- The variables are looked up again at every decision.
  ofExcept (← ask fun session => condition.holds session.store)

/-- Stops a loop that has had all the iterations it may have. -/
def stopLoop (settings : Settings) : Action κ Nat :=
  -- Without a limit, this says nothing about the loop but that it went on.
  match settings.loopLimit with
  | some limit => fail (.loopLimit limit)
  | none => throw .outOfFuel

/-- Goes on with a loop that may have `allowed` more iterations and has had `done`. -/
def iterate [Canvas κ] (settings : Settings) (condition : Condition) (body : List Command) :
    (allowed done : Nat) → Action κ Nat
  | 0, done => do
    -- The limit only matters while the condition still holds.
    if ← decideCondition condition then stopLoop settings
    else
      emit (.loopFinished condition done)
      return done
  | allowed + 1, done => do
    if ← decideCondition condition then
      emit (.iteration condition (done + 1))
      executeAll settings body
      iterate settings condition body allowed (done + 1)
    else
      emit (.loopFinished condition done)
      return done

/-- Runs the body as long as the condition holds, and counts the iterations. -/
def runLoop [Canvas κ] (settings : Settings) (fuel : Nat) (condition : String)
    (body : List Command) : Action κ Nat := do
  let condition ← ofExcept (Condition.parse condition)
  -- The fuel bounds the iterations only if the settings do not.
  iterate settings condition body (settings.loopLimit.getD fuel) 0

/-- Runs the body once if the condition holds, and tells whether it did. -/
def runBranch [Canvas κ] (settings : Settings) (condition : String) (body : List Command) :
    Action κ Bool := do
  -- A condition that is no condition fails before anything is written to the log.
  let condition ← ofExcept (Condition.parse condition)
  let taken ← decideCondition condition
  emit (.branched condition taken)
  if taken then executeAll settings body
  return taken

/-- Runs a block as its kind says. -/
def runBlock [Canvas κ] (settings : Settings) (fuel : Nat) (block : Block) : Action κ Unit :=
  -- Nobody asks how often the body ran, or whether it did.
  match block.kind with
  | .loop => discard (runLoop settings fuel block.condition block.body.toList)
  | .branch => discard (runBranch settings block.condition block.body.toList)

end Plotter.Action
