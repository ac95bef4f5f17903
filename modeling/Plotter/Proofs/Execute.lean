import Plotter.Action.Execute
import Plotter.Proofs.Outcome

/-!
A command is decided in full before anything changes, so a failure leaves the session alone.

The single steps of a command, each operand resolved and checked in its turn, come to the same.
-/

namespace Plotter

variable {κ : Type}

/-- The session after an effect. -/
def Effect.change [Canvas κ] (effect : Effect) (session : Session κ) : Session κ :=
  -- Of the four, only the drawing effect reaches two parts of the session.
  match effect with
  | draw op cursor =>
    { session with
      canvas := Canvas.draw session.canvas op
      context := { session.context with cursor } }
  | adjust context => { session with context }
  | bind name value => { session with store := session.store.insert name value }
  | notify notice => { session with notices := session.notices.push notice }

namespace Action

/-- Binding a name only adds to the log. -/
@[simp] theorem bindName_logBlind (name : String) (value : Value) :
    LogBlind (bindName name value : Action κ Unit) :=
  -- It records the binding and then makes it, and looks at the log in neither.
  LogBlind.bind (LogBlind.emit _) fun _ => LogBlind.update _

/-- Assigning a value only adds to the log. -/
@[simp] theorem assign_logBlind (name : String) (value : Value) :
    LogBlind (assign name value : Action κ Unit) :=
  -- The check reads its arguments alone.
  LogBlind.bind (LogBlind.ofExcept _) fun _ => bindName_logBlind name value

/-- Binding a name changes its variable and nothing else. -/
@[simp] theorem outcome_bindName (name : String) (value : Value) (session : Session κ) :
    outcome (bindName name value) session =
      (.ok (), { session with store := session.store.insert name value }) := by
  -- The event that is recorded first leaves no trace in the outcome.
  simp [bindName]

/-- A value that passes the check is bound, any other one leaves the session alone. -/
theorem outcome_assign (name : String) (value : Value) (session : Session κ) :
    outcome (assign name value) session =
      match Variables.check name value with
      | .ok _ => (.ok (), { session with store := session.store.insert name value })
      | .error error => (.error (.failure error), session) := by
  rw [assign, outcome_bind (fun _ => bindName_logBlind name value)]
  -- A name or a value that is refused leaves the store as it was.
  cases Variables.check name value with
  | ok passed => simp
  | error error => simp

variable [Canvas κ]

/-- Drawing only adds to the log. -/
@[simp] theorem draw_logBlind (op : DrawOp) : LogBlind (draw op : Action κ Unit) := by
  refine LogBlind.bind (LogBlind.ask _) fun announced => ?_
  -- Announced or not, the canvas decides about it, not the log.
  cases announced <;> simp

/-- Making a change only adds to the log. -/
@[simp] theorem perform_logBlind (effect : Effect) :
    LogBlind (perform effect : Action κ Unit) := by
  -- Each of the four effects is made of parts that leave the log alone.
  cases effect <;> simp [perform]

/-- Making the change of an effect, if there is one, only adds to the log. -/
theorem performs_logBlind (decided : Except Error Effect) :
    LogBlind (ofExcept decided >>= perform : Action κ Unit) :=
  -- A refusal performs nothing, and an effect is performed without the log.
  LogBlind.bind (LogBlind.ofExcept decided) perform_logBlind

/-- Carrying out a command only adds to the log. -/
@[simp] theorem execute_logBlind (settings : Settings) (command : Command) :
    LogBlind (execute settings command : Action κ Unit) :=
  -- Recording a command, deciding on it and performing it are three blind steps.
  LogBlind.bind (LogBlind.emit _) fun _ => LogBlind.bind (LogBlind.ask _) performs_logBlind

/-- Events that stand in front of one of two logs are nothing to scripts. -/
theorem runsScripts_ahead (settings : Settings) (fuel : Nat) (log : Array Event) :
    (ahead log : Coupling κ κ).RunsScripts settings fuel where
  toRunsBlocks := runsBlocks_ahead log _
  stops same := same
  -- Commands, bindings and events have been seen to be blind, each for itself.
  executes command := logBlind_iff_keeps.mp (execute_logBlind settings command) log
  binds name value := logBlind_iff_keeps.mp (bindName_logBlind name value) log
  scripts event _ := logBlind_iff_keeps.mp (LogBlind.emit event) log

/-- Drawing changes the canvas and nothing else. -/
@[simp] theorem outcome_draw (op : DrawOp) (session : Session κ) :
    outcome (draw op) session =
      (.ok (), { session with canvas := Canvas.draw session.canvas op }) := by
  unfold draw
  rw [outcome_bind (fun announced => by cases announced <;> simp), outcome_ask, follow_ok]
  -- What the canvas has to say goes to the log.
  cases Canvas.announce session.canvas op <;> simp

/-- Making the change that an effect describes never fails. -/
@[simp] theorem outcome_perform (effect : Effect) (session : Session κ) :
    outcome (perform effect) session = (.ok (), effect.change session) := by
  -- An effect is never refused: whatever could fail has failed before it was decided.
  cases effect with
  | draw op cursor =>
    rw [perform, outcome_bind (fun _ => LogBlind.update _), outcome_draw, follow_ok, outcome_update]
    rfl
  | adjust context => rfl
  | bind name value => simp [perform, Effect.change]
  | notify notice => simp [perform, Effect.change]

/-- A command makes the change of its effect, or leaves the session alone if it has none. -/
theorem outcome_execute (settings : Settings) (command : Command) (session : Session κ) :
    outcome (execute settings command) session =
      match Effect.ofCommand settings session.store session.context command with
      | .ok effect => (.ok (), effect.change session)
      | .error error => (.error (.failure error), session) := by
  rw [execute, outcome_emit_bind _ (LogBlind.bind (LogBlind.ask _) performs_logBlind),
    outcome_bind performs_logBlind, outcome_ask, follow_ok, outcome_bind perform_logBlind]
  -- The decision is all that can fail, and it touches nothing.
  cases Effect.ofCommand settings session.store session.context command with
  | ok effect => simp
  | error error => simp

/-- An assignment does the same as a command and on its own. -/
theorem outcome_execute_assign (settings : Settings) (name : String) (value : Number)
    (session : Session κ) :
    outcome (execute settings (.assign name value)) session =
      outcome (assign name (.int value)) session := by
  rw [outcome_execute, outcome_assign]
  simp only [Effect.ofCommand, Effect.assignment]
  -- The command makes the same check before the same change.
  cases Variables.check name (.int value) <;> rfl

/-- A command that stops has failed, and leaves the session as it was. -/
theorem outcome_execute_error {settings : Settings} {command : Command} {session after : Session κ}
    {halt : Halt} (stopped : outcome (execute settings command) session = (.error halt, after)) :
    (∃ error, halt = .failure error) ∧ after = session := by
  rw [outcome_execute] at stopped
  -- The effect of a decided command always goes through.
  split at stopped
  · simp at stopped
  · simp only [Prod.mk.injEq, Except.error.injEq] at stopped
    exact ⟨⟨_, stopped.1.symm⟩, stopped.2.symm⟩

/-- Commands in order are carried out one after the other. -/
theorem executeAll_eq_forM (settings : Settings) (commands : List Command) :
    (executeAll settings commands : Action κ Unit) = commands.forM (execute settings) := by
  -- Both go through the list from the front.
  induction commands with
  | nil => rfl
  | cons command rest ih =>
    rw [executeAll, ih]
    rfl

/-- Carrying out commands only adds to the log. -/
@[simp] theorem executeAll_logBlind (settings : Settings) (commands : List Command) :
    LogBlind (executeAll settings commands : Action κ Unit) :=
  -- As a row of commands it is blind if each of them is.
  logBlind_iff_keeps.mpr fun log => Coupling.keeps_executeAll fun command _ =>
    logBlind_iff_keeps.mp (execute_logBlind settings command) log

/-- A list of commands starts with the first one of them. -/
theorem outcome_executeAll_cons (settings : Settings) (command : Command) (rest : List Command)
    (session : Session κ) :
    outcome (executeAll settings (command :: rest)) session =
      follow (outcome (execute settings command) session) fun _ after =>
        outcome (executeAll settings rest) after :=
  -- The first command hands its session to the others.
  outcome_bind (fun _ => executeAll_logBlind settings rest) session

/-- Commands in two lists are carried out one list after the other. -/
theorem outcome_executeAll_append (settings : Settings) (first second : List Command)
    (session : Session κ) :
    outcome (executeAll settings (first ++ second)) session =
      follow (outcome (executeAll settings first) session) fun _ after =>
        outcome (executeAll settings second) after := by
  -- Rows of commands join as rows of any steps do.
  simp only [executeAll_eq_forM]
  exact outcome_forM_append (execute_logBlind settings) first second session

/-- Commands stop exactly at one that fails, in the session that the commands before it left. -/
theorem outcome_executeAll_error_iff (settings : Settings) (commands : List Command)
    (session after : Session κ) (halt : Halt) :
    outcome (executeAll settings commands) session = (.error halt, after) ↔
      ∃ count, ∃ within : count < commands.length,
        outcome (executeAll settings (commands.take count)) session = (.ok (), after) ∧
          (outcome (execute settings commands[count]) after).1 = .error halt := by
  simp only [executeAll_eq_forM]
  rw [outcome_forM_error_iff (execute_logBlind settings)]
  constructor
  · rintro ⟨count, within, middle, ended, stops⟩
    -- The failing command leaves the session that it started in.
    obtain ⟨-, rfl⟩ := outcome_execute_error stops
    exact ⟨count, within, ended, by rw [stops]⟩
  · rintro ⟨count, within, ended, stops⟩
    rcases ran : outcome (execute settings commands[count]) after with ⟨ending, left⟩
    rw [ran] at stops
    subst stops
    obtain ⟨-, rfl⟩ := outcome_execute_error ran
    exact ⟨count, within, _, ended, ran⟩

end Action

/-! A command step by step, with each operand resolved and checked where it is used. -/

namespace Action

variable {α β : Type}

/-- Asks something of the session that may have no answer, and stops with the reason if so. -/
def consult (question : Session κ → Except Error α) : Action κ α := do
  -- The session is asked as it is at this moment, after all that was done before.
  ofExcept (← ask question)

/-- Changes the drawing context. -/
def adjust (change : Context → Context) : Action κ Unit :=
  -- The new context is made of the one that is there at this moment.
  update fun session => { session with context := change session.context }

/-- Draws a closed shape with the current style, after the check of the pen. -/
def drawClosed [Canvas κ] (made : Context → Shape) : Action κ Unit := do
  -- The pen is checked even where the shape is filled and the pen does not show.
  consult fun session => Effect.nonNegative .lineWidth session.context.pen.width
  let context ← ask (·.context)
  draw (.shape (made context))

/--
Carries out a command step by step.

Operands are resolved and checked one after the other, then something is drawn, and the variables
or the context change last.
-/
def executeStepwise [Canvas κ] (settings : Settings) (command : Command) : Action κ Unit := do
  emit (.executing command)
  match command with
  | .drawTo x y =>
    let target : Point := ⟨← consult (·.store.resolve x), ← consult (·.store.resolve y)⟩
    let context ← ask (·.context)
    draw (.shape (.line context.cursor target context.pen))
    -- The cursor follows the line.
    adjust fun context => { context with cursor := target }
  | .moveBy dx dy =>
    let dx ← consult (·.store.resolve dx)
    let dy ← consult (·.store.resolve dy)
    let cursor ← consult fun session => Effect.moved session.context.cursor dx dy
    adjust fun context => { context with cursor }
  | .rect width height =>
    -- A negative width is found before the height is looked at.
    let width ← consult (Effect.size ·.store .width width)
    let height ← consult (Effect.size ·.store .height height)
    drawClosed fun context => .rect context.cursor width height context.style
  | .triangle side =>
    let side ← consult (Effect.size ·.store .side side)
    drawClosed fun context => .triangle context.cursor side context.style
  | .circle radius =>
    let radius ← consult (Effect.size ·.store .radius radius)
    drawClosed fun context => .circle context.cursor radius context.style
  | .clear => draw (.clear settings.background)
  | .reset => adjust fun _ => .initial settings
  | .run => pure ()
  | .fill enabled color =>
    adjust fun context => { context with fill := { context.fill with enabled } }
    adjust fun context => { context with fill := { context.fill with color } }
  | .pen color => adjust fun context => { context with pen := { context.pen with color } }
  | .assign name value => assign name (.int value)
  | .compute name source op operand =>
    let lhs ← consult (·.store.resolveToken source)
    let result ← ofExcept (op.apply lhs operand)
    assign name (.int result)
  | .opens kind _ => fail (.looseMarker (.opening kind))
  | .closes kind => fail (.looseMarker (.closing kind))
  | .unrecognized line =>
    emit (.noticed (.unrecognized line))
    update fun session => { session with notices := session.notices.push (.unrecognized line) }

/-- Questions in a row, about a session that nothing changes in between, are one question. -/
theorem consult_bind (question : Session κ → Except Error α)
    (next : Session κ → α → Except Error β) :
    (consult fun session => question session >>= next session) =
      consult question >>= fun answer => consult fun session => next session answer := by
  funext machine
  show ofExcept (question machine.session >>= next machine.session) machine =
    (ofExcept (question machine.session) >>= fun answer => consult fun session =>
      next session answer) machine
  -- A question that has no answer keeps the one behind it from being asked.
  cases question machine.session <;> rfl

/-- Steps that ask first do what is decided in full first, if they do so with every answer. -/
theorem consult_bind_eq {γ : Type} {question : Session κ → Except Error α}
    {next : Session κ → α → Except Error β} {steps : α → Action κ γ} {change : β → Action κ γ}
    (each : ∀ answer, steps answer = (consult fun session => next session answer) >>= change) :
    consult question >>= steps =
      (consult fun session => question session >>= next session) >>= change := by
  -- The first answer is the same, and the others are asked for behind it.
  rw [consult_bind, bind_assoc]
  exact congrArg (consult question >>= ·) (funext each)

variable [Canvas κ]

/-- The effect of an operation that leaves the cursor where it is only draws. -/
theorem perform_draw_apply (op : DrawOp) (machine : Machine κ) :
    perform (.draw op machine.session.context.cursor) machine = draw op machine := by
  have drawn : ∃ log, draw op machine =
      .ok () { session := { machine.session with
        canvas := Canvas.draw machine.session.canvas op }, log } := by
    unfold draw
    rw [ask_bind_apply]
    cases Canvas.announce machine.session.canvas op <;> exact ⟨_, rfl⟩
  obtain ⟨log, drawn⟩ := drawn
  -- Drawing has not touched the context, so the cursor is put where it is.
  show EStateM.bind (draw op) _ machine = _
  unfold EStateM.bind
  rw [drawn]
  rfl

/-- A closed shape is drawn if the pen passes its check, and nothing else is done. -/
theorem drawClosed_eq (made : Context → Shape) :
    drawClosed made = (consult fun session : Session κ => do
      Effect.nonNegative .lineWidth session.context.pen.width
      return Effect.draw (.shape (made session.context)) session.context.cursor) >>= perform :=
  -- The effect has the cursor of the context that the shape was made from.
  consult_bind_eq fun _ => funext fun machine => (perform_draw_apply _ machine).symm

/-- Assigning a value makes the change of an assignment that has passed the check. -/
theorem assign_eq (name : String) (value : Value) :
    (assign name value : Action κ Unit) =
      (consult fun _ => Effect.assignment name value) >>= perform := by
  -- The check does not look at the session.
  show (consult fun _ => Variables.check name value) >>= (fun _ => bindName name value) = _
  exact consult_bind_eq fun _ => rfl

/-- Deciding a command in full before anything is done comes to the same as its single steps. -/
theorem executeStepwise_eq (settings : Settings) (command : Command) :
    (executeStepwise settings command : Action κ Unit) = execute settings command := by
  have whole : (execute settings command : Action κ Unit) = (do
      emit (.executing command)
      (consult fun session =>
        Effect.ofCommand settings session.store session.context command) >>= perform) := by
    rw [execute]
    simp only [consult, bind_assoc]
  rw [whole]
  refine congrArg (emit (.executing command) >>= ·) (funext fun _ => ?_)
  -- The questions that an effect is decided by are asked one by one, in the order of the steps.
  cases command with
  | drawTo x y => exact consult_bind_eq fun _ => consult_bind_eq fun _ => rfl
  | moveBy dx dy =>
    exact consult_bind_eq fun _ => consult_bind_eq fun _ => consult_bind_eq fun _ => rfl
  | rect width height => exact consult_bind_eq fun _ => consult_bind_eq fun _ => drawClosed_eq _
  | triangle side => exact consult_bind_eq fun _ => drawClosed_eq _
  | circle radius => exact consult_bind_eq fun _ => drawClosed_eq _
  | clear => exact funext fun machine => (perform_draw_apply _ machine).symm
  | assign name value => exact assign_eq name (.int value)
  | compute name source op operand =>
    refine consult_bind_eq fun lhs => ?_
    show (consult fun _ => op.apply lhs operand) >>= _ = _
    exact consult_bind_eq fun result => assign_eq name (.int result)
  -- Every other command does one thing, and asks for nothing.
  | _ => rfl

/-- A command that stops on the way leaves the session as it was, whichever step stops it. -/
theorem outcome_executeStepwise_error {settings : Settings} {command : Command}
    {session after : Session κ} {halt : Halt}
    (stopped : outcome (executeStepwise settings command) session = (.error halt, after)) :
    after = session := by
  -- No step that changes something comes before one that can stop the command.
  rw [executeStepwise_eq] at stopped
  exact (outcome_execute_error stopped).2

end Action

end Plotter
