import Plotter.Canvas.Recording
import Plotter.Proofs.Alike

/-! What was drawn and said earlier has no part in what a session does next. -/

namespace Plotter

open Plotter.Action

namespace Session

/-- The session as it is when earlier operations and notices come before its own. -/
def since (ops : Array DrawOp) (notices : Array Notice) (session : Session Recording) :
    Session Recording :=
  -- What was drawn and noticed earlier goes in front; everything else stays.
  { session with
    canvas := { ops := ops ++ session.canvas.ops }
    notices := notices ++ session.notices }

/-- An effect adds to what was drawn and said since, and leaves what came earlier. -/
theorem change_since (ops : Array DrawOp) (notices : Array Notice) (session : Session Recording)
    (effect : Effect) :
    effect.change (session.since ops notices) = (effect.change session).since ops notices := by
  cases effect with
  | draw op cursor =>
    -- The newest operation stands behind the earlier ones and those since.
    have newest : (ops ++ session.canvas.ops).push op = ops ++ session.canvas.ops.push op :=
      Array.append_push.symm
    simp only [Effect.change, since, Canvas.draw, newest]
  | adjust context => rfl
  | bind name value => rfl
  | notify notice =>
    have newest : (notices ++ session.notices).push notice =
        notices ++ session.notices.push notice := Array.append_push.symm
    simp only [Effect.change, since, newest]

/--
Two sessions take the steps in the same way.

They give the same results and end with the same variables and the same context. What the one has
drawn and said on the way the other one has, too, and both have added it to what they had before.
-/
structure ActsLike (settings : Settings) (steps : List Step)
    (first second : Session Recording) : Prop where
  /-- Every step has the same result. -/
  results : first.results settings steps = second.results settings steps
  /-- The variables are the same at the end. -/
  store : (first.after settings steps).store = (second.after settings steps).store
  /-- The drawing contexts are the same at the end. -/
  context : (first.after settings steps).context = (second.after settings steps).context
  /-- The same operations and the same notices were added. -/
  added : ∃ drawn given,
    (first.after settings steps).canvas.ops = first.canvas.ops ++ drawn ∧
    (second.after settings steps).canvas.ops = second.canvas.ops ++ drawn ∧
    (first.after settings steps).notices = first.notices ++ given ∧
    (second.after settings steps).notices = second.notices ++ given

end Session

/-- The sessions that only differ in what was drawn and said earlier. -/
def Likeness.sinceThen (ops others : Array DrawOp) (notices remarks : Array Notice) :
    Likeness Recording Recording where
  alike first second :=
    ∃ session : Session Recording,
      first = session.since ops notices ∧ second = session.since others remarks
  store := by
    intro first second ⟨session, one, two⟩
    rw [one, two]
    rfl
  context := by
    intro first second ⟨session, one, two⟩
    rw [one, two]
    rfl
  change := by
    intro first second ⟨session, one, two⟩ effect
    -- The effect is the same on what both have in common.
    refine ⟨effect.change session, ?_, ?_⟩
    · rw [one, Session.change_since]
    · rw [two, Session.change_since]

namespace Session

/-- Sessions with the same variables and the same context take all steps in the same way. -/
theorem actsLike_of_common (settings : Settings) (steps : List Step)
    {first second : Session Recording} (store : first.store = second.store)
    (context : first.context = second.context) : ActsLike settings steps first second := by
  -- Both sessions are one session without a history, behind the histories that they have.
  let fresh : Session Recording :=
    { canvas := {}, store := second.store, context := second.context, notices := #[] }
  have one : first = fresh.since first.canvas.ops first.notices := by
    simp [fresh, since, ← store, ← context]
  have two : second = fresh.since second.canvas.ops second.notices := by
    simp [fresh, since]
  let likeness := Likeness.sinceThen first.canvas.ops second.canvas.ops first.notices second.notices
  have alike : likeness.alike first second := ⟨fresh, one, two⟩
  obtain ⟨same, session, left, right⟩ := likeness.run settings alike steps
  refine ⟨same, ?_, ?_, session.canvas.ops, session.notices, ?_⟩
  · rw [left, right]
    rfl
  · rw [left, right]
    rfl
  · rw [left, right]
    exact ⟨rfl, rfl, rfl, rfl⟩

/--
What was drawn and said earlier never matters, so a handover does what a reset does.

Sessions with the same variables and the same context take any steps in the same way, whatever they
have drawn and whichever notices they have given before. A reset always succeeds, and a new session
that has the variables of another one handed over takes any steps as the other one does after it.
-/
theorem history_never_matters (settings : Settings) (steps : List Step) :
    (∀ (store : Variables) (context : Context) (ops others : Array DrawOp)
        (notices remarks : Array Notice),
      ActsLike settings steps { canvas := { ops }, store, context, notices }
        { canvas := { ops := others }, store, context, notices := remarks }) ∧
    ∀ (session : Session Recording) (canvas : Recording),
      (outcome (execute settings .reset) session).1 = .ok () ∧
        ActsLike settings steps (handOver settings canvas session)
          (outcome (execute settings .reset) session).2 := by
  refine ⟨?_, ?_⟩
  · intro store context ops others notices remarks
    exact actsLike_of_common settings steps rfl rfl
  · intro session canvas
    -- A reset leaves the variables and puts the context back to the one at the start.
    have reset : outcome (execute settings .reset) session =
        (.ok (), { session with context := .initial settings }) := outcome_execute ..
    rw [reset]
    exact ⟨rfl, actsLike_of_common settings steps rfl rfl⟩

end Session

end Plotter
