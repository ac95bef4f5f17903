import Plotter.Proofs.Request

/-! Sessions in which commands find the same go through everything in the same way. -/

namespace Plotter

open Plotter.Action

variable {κ ι α : Type}

/--
A way in which two sessions can be alike.

Commands find the same variables and the same context in both, and whatever they do to the one and
to the other leaves the two alike.
-/
structure Likeness (κ ι : Type) [Canvas κ] [Canvas ι] where
  /-- Whether two sessions are alike. -/
  alike : Session κ → Session ι → Prop
  /-- The variables are the same. -/
  store {first : Session κ} {second : Session ι} (same : alike first second) :
    first.store = second.store
  /-- The drawing contexts are the same. -/
  context {first : Session κ} {second : Session ι} (same : alike first second) :
    first.context = second.context
  /-- The same effect leaves the two alike. -/
  change {first : Session κ} {second : Session ι} (same : alike first second) (effect : Effect) :
    alike (effect.change first) (effect.change second)

/-- Two machines are coupled as long as their sessions are alike, whatever their logs hold. -/
def Likeness.coupling [Canvas κ] [Canvas ι] (likeness : Likeness κ ι) : Coupling κ ι where
  -- Machines that have stopped early are alike in the same way as running ones.
  running machine other := likeness.alike machine.session other.session
  stopped _ machine other := likeness.alike machine.session other.session

namespace Action

variable [Canvas κ] [Canvas ι] {likeness : Likeness κ ι}

/-- Two outcomes that end in the same way and leave sessions that are alike. -/
structure Agree (likeness : Likeness κ ι) (first : Except Halt α × Session κ)
    (second : Except Halt α × Session ι) : Prop where
  /-- The two give the same value or stop for the same reason. -/
  ending : first.1 = second.1
  /-- The sessions that are left are alike. -/
  left : likeness.alike first.2 second.2

/-- From sessions that are alike, the two actions have outcomes that agree. -/
def Mirrors (likeness : Likeness κ ι) (first : Action κ α) (second : Action ι α) : Prop :=
  -- Only what shows outside is compared: both logs are left out.
  ∀ before other, likeness.alike before other →
    Agree likeness (outcome first before) (outcome second other)

/-- Outcomes that agree are gone on from in the same way. -/
theorem Agree.follow {β : Type} {first : Except Halt α × Session κ}
    {second : Except Halt α × Session ι} (agree : Agree likeness first second)
    {next : α → Session κ → Except Halt β × Session κ}
    {also : α → Session ι → Except Halt β × Session ι}
    (rest : ∀ value after other, likeness.alike after other →
      Agree likeness (next value after) (also value other)) :
    Agree likeness (follow first next) (follow second also) := by
  obtain ⟨ending, after⟩ := first
  obtain ⟨same, other⟩ := second
  -- The two endings are one and the same.
  obtain ⟨rfl, alike⟩ : ending = same ∧ likeness.alike after other := ⟨agree.ending, agree.left⟩
  cases ending with
  -- After an early stop nothing else is done on either side.
  | error halt => exact ⟨rfl, alike⟩
  | ok value => exact rest value after other alike

/-- Actions that keep machines coupled by their sessions have outcomes that agree. -/
theorem mirrors_of_keeps {first : Action κ α} {second : Action ι α}
    (keeps : likeness.coupling.Keeps first second) : Mirrors likeness first second := by
  intro before other alike
  unfold outcome
  -- Fresh machines of sessions that are alike are coupled.
  obtain ⟨value, left, right, one, two, running⟩ | ⟨halt, left, right, one, two, stopped⟩ :=
    (keeps { session := before } { session := other } alike).ends
  · rw [one, two]
    exact ⟨rfl, running⟩
  · rw [one, two]
    exact ⟨rfl, stopped⟩

/-- Blind actions whose outcomes agree keep machines coupled by their sessions. -/
theorem keeps_of_mirrors {first : Action κ α} {second : Action ι α} (blind : LogBlind first)
    (also : LogBlind second) (mirrors : Mirrors likeness first second) :
    likeness.coupling.Keeps first second := by
  intro machine other alike
  have agree := mirrors machine.session other.session alike
  -- What the logs hold makes no difference to the outcomes.
  rw [← blind.seen_eq, ← also.seen_eq] at agree
  generalize first machine = one at agree ⊢
  generalize second other = two at agree ⊢
  obtain ⟨ending, alike⟩ := agree
  cases one with
  | ok value left =>
    cases two with
    | ok same right =>
      cases ending
      exact .ok alike
    | error halt right => exact nomatch ending
  | error halt left =>
    cases two with
    | ok value right => exact nomatch ending
    | error same right =>
      cases ending
      exact .error alike

variable (likeness)

/-- Assigning a value does the same to both sessions. -/
theorem mirrors_assign (name : String) (value : Value) :
    Mirrors likeness (assign name value) (assign name value) := by
  intro before other alike
  rw [outcome_assign, outcome_assign]
  -- Whether the name and the value are allowed does not depend on the session.
  cases Variables.check name value with
  | error error => exact ⟨rfl, alike⟩
  | ok _ => exact ⟨rfl, likeness.change alike (.bind name value)⟩

/-- A drawing operation does the same to both sessions. -/
theorem mirrors_draw (op : DrawOp) : Mirrors likeness (draw op) (draw op) := by
  intro before other alike
  rw [outcome_draw, outcome_draw]
  -- The operation is an effect that leaves the cursor, which both have in one place.
  have drawn := likeness.change alike (.draw op other.context.cursor)
  simp only [Effect.change, likeness.context alike] at drawn
  refine ⟨rfl, ?_⟩
  simp only [likeness.context alike]
  exact drawn

variable (settings : Settings)

/-- A command is decided by what both sessions have in common, so it has the same effect. -/
theorem mirrors_execute (command : Command) :
    Mirrors likeness (execute settings command) (execute settings command) := by
  intro before other alike
  rw [outcome_execute, outcome_execute, likeness.store alike, likeness.context alike]
  -- A command that fails leaves both sessions as they were.
  cases Effect.ofCommand settings other.store other.context command with
  | error error => exact ⟨rfl, alike⟩
  | ok effect => exact ⟨rfl, likeness.change alike effect⟩

end Action

/-- Sessions that are alike stay so through every script, whatever the logs have of it. -/
theorem Likeness.runsScripts [Canvas κ] [Canvas ι] (likeness : Likeness κ ι)
    (settings : Settings) (fuel : Nat) : likeness.coupling.RunsScripts settings fuel where
  -- A log is no part of a likeness, so every event joins freely; the commands carry the content.
  store := likeness.store
  stops alike := alike
  executes command := keeps_of_mirrors (execute_logBlind settings command)
    (execute_logBlind settings command) (mirrors_execute likeness settings command)
  binds name value _ _ alike := .ok (likeness.change alike (.bind name value))
  records _ _ _ _ alike := .ok alike
  scripts _ _ _ _ alike := .ok alike

namespace Action

variable [Canvas κ] [Canvas ι] (likeness : Likeness κ ι) (settings : Settings)

/-- Commands in a row do the same on both sides. -/
theorem mirrors_executeAll (commands : List Command) :
    Mirrors likeness (executeAll settings commands) (executeAll settings commands) :=
  -- There are no loops among commands, so any fuel will do.
  mirrors_of_keeps (Coupling.keeps_executeAll fun command _ =>
    (likeness.runsScripts settings 0).executes command)

variable {settings} {first second : List Command}

/-- A loop does the same on both sides, if its bodies do. -/
theorem mirrors_runLoop (fuel : Nat) (condition : String)
    (bodies : Mirrors likeness (executeAll settings first) (executeAll settings second)) :
    Mirrors likeness (runLoop settings fuel condition first)
      (runLoop settings fuel condition second) := by
  -- The bodies may differ, so it is for them to say that they do the same.
  have keeps := keeps_of_mirrors (executeAll_logBlind settings first)
    (executeAll_logBlind settings second) bodies
  exact mirrors_of_keeps (Coupling.keeps_runLoop (likeness.runsScripts settings fuel).toRunsBlocks
    (fun alike _ => alike) (fun alike => alike) keeps)

/-- A branch does the same on both sides, if its bodies do. -/
theorem mirrors_runBranch (condition : String)
    (bodies : Mirrors likeness (executeAll settings first) (executeAll settings second)) :
    Mirrors likeness (runBranch settings condition first)
      (runBranch settings condition second) := by
  -- There are no iterations to count in a branch, so any fuel will do.
  have keeps := keeps_of_mirrors (executeAll_logBlind settings first)
    (executeAll_logBlind settings second) bodies
  exact mirrors_of_keeps (Coupling.keeps_runBranch (likeness.runsScripts settings 0).toRunsBlocks
    (fun alike _ => alike) keeps)

variable (settings)

/-- Whatever two sessions that are alike are asked to do, they do it in the same way. -/
theorem mirrors_request (fuel : Nat) (request : Request) :
    Mirrors likeness (request.action settings fuel) (request.action settings fuel) := by
  -- The cases are the kinds of requests, each with the same commands on both sides.
  cases request with
  | command single => exact mirrors_execute likeness settings single
  | commands several => exact mirrors_executeAll likeness settings several
  | loop condition body =>
    exact mirrors_runLoop likeness fuel condition (mirrors_executeAll likeness settings body)
  | branch condition body =>
    exact mirrors_runBranch likeness condition (mirrors_executeAll likeness settings body)
  | block closed =>
    have runs := likeness.runsScripts settings fuel
    exact mirrors_of_keeps (Coupling.keeps_runBlock runs.toRunsBlocks (fun alike _ => alike)
      (fun alike => alike) (Coupling.keeps_executeAll fun command _ => runs.executes command))
  | pass lines =>
    exact mirrors_of_keeps (Coupling.keeps_validate (likeness.runsScripts settings fuel)
      (fun _ alike => alike) lines)
  | script lines =>
    exact mirrors_of_keeps (Coupling.keeps_runScript (likeness.runsScripts settings fuel)
      (fun _ alike => alike) lines)

end Action

/-- One thing that can be done with a session from outside. -/
inductive Step where
  /-- The session is asked to do something, with some fuel for loops without a limit. -/
  | request (fuel : Nat) (request : Request)
  /-- A variable is assigned. -/
  | assign (name : String) (value : Value)
  /-- An operation is carried out on the canvas itself. -/
  | draw (op : DrawOp)

namespace Step

/-- What a step is answered with, unless it fails. -/
def Answer : Step → Type
  -- A request has an answer of its own type, the direct changes only succeed or fail.
  | request _ asked => asked.Answer
  | assign _ _ => Unit
  | draw _ => Unit

/-- The action of a step. -/
def action {κ : Type} [Canvas κ] (settings : Settings) : (step : Step) → Action κ step.Answer
  -- The two direct steps stand for callers that reach past the commands.
  | .request fuel asked => asked.action settings fuel
  | .assign name value => Action.assign name value
  | .draw op => Action.draw op

end Step

namespace Session

variable [Canvas κ]

/-- The session after a step, whether the step succeeds or fails. -/
def next (settings : Settings) (session : Session κ) (step : Step) : Session κ :=
  -- The result is dropped here: a step that failed still leaves a session to go on from.
  (outcome (step.action settings) session).2

/-- The session after steps in order. -/
def after (settings : Settings) (session : Session κ) (steps : List Step) : Session κ :=
  -- A failed step does not end the row.
  steps.foldl (next settings) session

/-- The results of steps in order, each of them a value or the reason for which the step stopped. -/
def results (settings : Settings) (session : Session κ) :
    List Step → List ((step : Step) × Except Halt step.Answer)
  -- Each result stands beside the step that gave it, from the session that the steps before left.
  | [] => []
  | step :: rest =>
    ⟨step, (outcome (step.action settings) session).1⟩ ::
      results settings (next settings session step) rest

end Session

namespace Likeness

variable [Canvas κ] [Canvas ι]

/-- Every step does the same to sessions that are alike. -/
theorem mirrors_step (likeness : Likeness κ ι) (settings : Settings) (step : Step) :
    Mirrors likeness (step.action settings) (step.action settings) := by
  -- Each kind of step comes down to the action that it stands for.
  cases step with
  | request fuel asked => exact mirrors_request likeness settings fuel asked
  | assign name value => exact mirrors_assign likeness name value
  | draw op => exact mirrors_draw likeness op

/-- Steps in order have the same results in sessions that are alike, and leave them alike. -/
theorem run (likeness : Likeness κ ι) (settings : Settings) {first : Session κ}
    {second : Session ι} (alike : likeness.alike first second) (steps : List Step) :
    first.results settings steps = second.results settings steps ∧
      likeness.alike (first.after settings steps) (second.after settings steps) := by
  -- The induction is on the steps, and each of them starts from sessions that are alike.
  induction steps generalizing first second with
  | nil => exact ⟨rfl, alike⟩
  | cons step rest ih =>
    have once := likeness.mirrors_step settings step first second alike
    -- The others start where this step has left both sessions.
    obtain ⟨same, left⟩ := ih once.left
    refine ⟨?_, left⟩
    rw [Session.results, Session.results, once.ending]
    exact congrArg _ same

end Likeness

end Plotter
