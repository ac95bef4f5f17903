import Mathlib.Control.Monad.Basic
import Plotter.Action.Script

/-!
Two machines side by side, and what stays true of them while the same is done to both.

The functions that run blocks and scripts are gone through once, for every relation that the steps
they are made of preserve. A property of one machine and its log is the case of a machine beside
itself.
-/

namespace Plotter

open Plotter.Action

variable {κ ι α β : Type}

namespace Condition

/-- A text that spells a condition is evaluated as that condition. -/
theorem evaluate_of_parse {text : String} {condition : Condition}
    (read : parse text = .ok condition) (store : Variables) :
    evaluate text store = condition.holds store := by
  -- The text has been read, so what is left is to look at the variables.
  simp [evaluate, read, Bind.bind, Except.bind]

/-- A text that spells no condition cannot be evaluated. -/
theorem evaluate_of_parse_error {text : String} {error : Error}
    (read : parse text = .error error) (store : Variables) :
    evaluate text store = .error error := by
  -- No variable is looked at for a text that is malformed.
  simp [evaluate, read, Bind.bind, Except.bind]

end Condition

/-- The reason for which a loop stops after all the iterations it may have. -/
def Action.exhausted (settings : Settings) : Halt :=
  -- Without a limit, it is only the caller who does not follow the loop any further.
  match settings.loopLimit with
  | some limit => .failure (.loopLimit limit)
  | none => .outOfFuel

/-- A machine with one more event at the end of its log. -/
def Machine.record (machine : Machine κ) (event : Event) : Machine κ :=
  -- The session does not know about its log.
  { machine with log := machine.log.push event }

/-- What is to stay true of two machines while the same is done to both of them. -/
structure Coupling (κ ι : Type) where
  /-- What is true of the two as long as both are running. -/
  running : Machine κ → Machine ι → Prop
  /-- What is true of the two once both have stopped early, for the same reason. -/
  stopped : Halt → Machine κ → Machine ι → Prop

namespace Coupling

/-- Two runs that come to the same end and leave machines that are still coupled. -/
inductive Joins (coupling : Coupling κ ι) :
    EStateM.Result Halt (Machine κ) α → EStateM.Result Halt (Machine ι) α → Prop
  /-- Both give the same value, and go on from machines that are coupled. -/
  | ok {value : α} {machine : Machine κ} {other : Machine ι}
      (running : coupling.running machine other) :
      Joins coupling (.ok value machine) (.ok value other)
  /-- Both have stopped for the same reason. -/
  | error {halt : Halt} {machine : Machine κ} {other : Machine ι}
      (stopped : coupling.stopped halt machine other) :
      Joins coupling (.error halt machine) (.error halt other)

/-- Two runs that join give the same value, or both stop for the same reason. -/
theorem Joins.ends {coupling : Coupling κ ι} {one : EStateM.Result Halt (Machine κ) α}
    {two : EStateM.Result Halt (Machine ι) α} (joined : coupling.Joins one two) :
    (∃ value left right, one = .ok value left ∧ two = .ok value right ∧
      coupling.running left right) ∨
      ∃ halt left right, one = .error halt left ∧ two = .error halt right ∧
        coupling.stopped halt left right := by
  -- The runs are named, so that the two actions need not be taken apart for it.
  cases joined with
  | ok running => exact .inl ⟨_, _, _, rfl, rfl, running⟩
  | error stopped => exact .inr ⟨_, _, _, rfl, rfl, stopped⟩

/-- From machines that are coupled, the two actions come to the same end and keep them coupled. -/
def Keeps (coupling : Coupling κ ι) (first : Action κ α) (second : Action ι α) : Prop :=
  -- The two may write different logs, as long as the coupling allows for that.
  ∀ machine other, coupling.running machine other → coupling.Joins (first machine) (second other)

variable {coupling : Coupling κ ι}

namespace Keeps

/-- Giving a value keeps every coupling. -/
protected theorem pure (value : α) :
    coupling.Keeps (pure value : Action κ α) (pure value : Action ι α) :=
  -- Neither machine is touched.
  fun _ _ coupled => .ok coupled

/-- Stopping early keeps a coupling that may be left in that way. -/
protected theorem throw {halt : Halt}
    (stops : ∀ {machine other}, coupling.running machine other →
      coupling.stopped halt machine other) :
    coupling.Keeps (throw halt : Action κ α) (throw halt : Action ι α) :=
  -- The machines stay as they are, but they are not running any more.
  fun _ _ coupled => .error (stops coupled)

/-- Two actions in a row keep a coupling if each of them does. -/
protected theorem bind {first : Action κ α} {second : Action ι α} {next : α → Action κ β}
    {also : α → Action ι β} (both : coupling.Keeps first second)
    (rest : ∀ value, coupling.Keeps (next value) (also value)) :
    coupling.Keeps (first >>= next) (second >>= also) := by
  intro machine other coupled
  show coupling.Joins (EStateM.bind first next machine) (EStateM.bind second also other)
  unfold EStateM.bind
  -- The first actions come to the same end, so the second ones run on both sides or on neither.
  obtain ⟨value, left, right, one, two, running⟩ | ⟨halt, left, right, one, two, stopped⟩ :=
    (both machine other coupled).ends
  · rw [one, two]
    exact rest value left right running
  · rw [one, two]
    exact .error stopped

/-- Changing the two values in the same way keeps every coupling. -/
protected theorem map {first : Action κ α} {second : Action ι α} (change : α → β)
    (both : coupling.Keeps first second) :
    coupling.Keeps (change <$> first) (change <$> second) := by
  -- A changed value is a value that is given after the action.
  rw [← bind_pure_comp, ← bind_pure_comp]
  exact both.bind fun _ => Keeps.pure _

/-- Taking over a computation keeps a coupling that may be left with its error. -/
protected theorem ofExcept {result : Except Error α}
    (stops : ∀ {error machine other}, result = .error error → coupling.running machine other →
      coupling.stopped (.failure error) machine other) :
    coupling.Keeps (ofExcept result : Action κ α) (ofExcept result : Action ι α) := by
  -- The computation is over before either of the machines is touched.
  cases result with
  | ok value => exact Keeps.pure value
  | error error => exact Keeps.throw fun coupled => stops rfl coupled

/-- Reporting failures keeps a coupling if reports of failures leave stopped machines coupled. -/
protected theorem onFailure {first : Action κ α} {second : Action ι α} (event : Error → Event)
    (both : coupling.Keeps first second)
    (reported : ∀ {error machine other}, coupling.stopped (.failure error) machine other →
      coupling.stopped (.failure error) (machine.record (event error))
        (other.record (event error))) :
    coupling.Keeps (onFailure event first) (onFailure event second) := by
  intro machine other coupled
  simp only [onFailure, tryCatch, tryCatchThe, MonadExceptOf.tryCatch, EStateM.tryCatch]
  -- Only the report of a failure is new; all other ends are passed on.
  obtain ⟨value, left, right, one, two, running⟩ | ⟨halt, left, right, one, two, stopped⟩ :=
    (both machine other coupled).ends
  · rw [one, two]
    exact .ok running
  · rw [one, two]
    cases halt with
    | failure error => exact .error (reported stopped)
    | outOfFuel => exact .error stopped

end Keeps

/-- A condition that cannot be evaluated may stop both machines. -/
def Decides (coupling : Coupling κ ι) (condition : String) : Prop :=
  -- The two have the same variables wherever this is used, so one of them is enough.
  ∀ {machine other error}, coupling.running machine other →
    Condition.evaluate condition machine.session.store = .error error →
      coupling.stopped (.failure error) machine other

end Coupling

/-- The events that blocks record, apart from those of their commands. -/
inductive Event.OfBlock (bound : Nat) : Event → Prop
  /-- An iteration starts, and it is one of those that a loop may have. -/
  | iteration {condition : Condition} {count : Nat} (within : count ≤ bound) :
      OfBlock bound (.iteration condition count)
  /-- A loop has come to its end. -/
  | finished {condition : Condition} {count : Nat} : OfBlock bound (.loopFinished condition count)
  /-- The condition of a branch was decided. -/
  | branched {condition : Condition} {taken : Bool} : OfBlock bound (.branched condition taken)

/-- The events that a script records, apart from those of its commands, blocks and failures. -/
inductive Event.OfScript : Event → Prop
  /-- A line has a form. -/
  | recognized {line : String} {form : Form} : OfScript (.recognized line form)
  /-- A block was closed and is about to run. -/
  | closed {kind : BlockKind} {line size : Nat} : OfScript (.blockClosed kind line size)
  /-- A line outside of blocks was rejected. -/
  | rejected {line : Nat} {text : String} : OfScript (.rejected line text)
  /-- The queue was not carried out. -/
  | skipped {rejected : Nat} : OfScript (.queueSkipped rejected)

/-- The reports of an error at the end of a pass that it stops. -/
inductive Event.Reports (error : Error) : Event → Prop
  /-- A line stopped the pass. -/
  | line {number : Nat} : Reports error (.lineFailed number error)
  /-- The end of the script was wrong. -/
  | ending : Reports error (.endFailed error)

namespace Coupling

/-- What a coupling has to allow for, so that running blocks keeps it. -/
structure RunsBlocks (coupling : Coupling κ ι) (bound : Nat) : Prop where
  /-- The two machines have the same variables, so that the same conditions hold. -/
  store {machine : Machine κ} {other : Machine ι} (coupled : coupling.running machine other) :
    machine.session.store = other.session.store
  /-- Both record what blocks record in iterations up to the bound. -/
  records (event : Event) (made : event.OfBlock bound) :
    coupling.Keeps (emit event : Action κ Unit) (emit event : Action ι Unit)

/-- What stops a pass may be reported by both machines. -/
def Reports (coupling : Coupling κ ι) : Prop :=
  -- The machines have stopped for the error that is reported.
  ∀ {error event machine other}, Event.Reports error event →
    coupling.stopped (.failure error) machine other →
      coupling.stopped (.failure error) (machine.record event) (other.record event)

variable {coupling : Coupling κ ι} {settings : Settings} {fuel bound : Nat}

/-- Both machines may stop a loop that has had all the iterations it may have. -/
theorem keeps_stopLoop (limit : ∀ {machine other}, coupling.running machine other →
    coupling.stopped (exhausted settings) machine other) :
    coupling.Keeps (stopLoop settings : Action κ Nat) (stopLoop settings) := by
  unfold exhausted at limit
  unfold stopLoop
  -- Whether there is a limit decides on both sides for which reason the loop is stopped.
  cases bound : settings.loopLimit <;> simp only [bound] at limit <;> exact Keeps.throw limit

/-- A condition is decided alike by two machines that have the same variables. -/
theorem keeps_decideCondition {condition : Condition}
    (store : ∀ {machine other}, coupling.running machine other →
      machine.session.store = other.session.store)
    (unclear : ∀ {machine other error}, coupling.running machine other →
      condition.holds machine.session.store = .error error →
        coupling.stopped (.failure error) machine other) :
    coupling.Keeps (decideCondition condition : Action κ Bool) (decideCondition condition) := by
  intro machine other coupled
  show coupling.Joins (ofExcept (condition.holds machine.session.store) machine)
    (ofExcept (condition.holds other.session.store) other)
  rw [← store coupled]
  -- If one of them cannot decide the condition, neither can the other.
  cases decided : condition.holds machine.session.store with
  | ok holds => exact .ok coupled
  | error error => exact .error (unclear coupled decided)

variable [Canvas κ] [Canvas ι]

/-- What a coupling has to allow for, so that running scripts keeps it. -/
structure RunsScripts (coupling : Coupling κ ι) (settings : Settings) (fuel : Nat) : Prop
    extends coupling.RunsBlocks (settings.loopLimit.getD fuel) where
  /-- Both may stop for whatever reason. -/
  stops {halt : Halt} {machine : Machine κ} {other : Machine ι}
    (coupled : coupling.running machine other) : coupling.stopped halt machine other
  /-- Both carry out every command. -/
  executes (command : Command) :
    coupling.Keeps (execute settings command) (execute settings command)
  /-- Both bind every name to every value. -/
  binds (name : String) (value : Value) :
    coupling.Keeps (bindName name value : Action κ Unit) (bindName name value : Action ι Unit)
  /-- Both record what scripts record. -/
  scripts (event : Event) (made : event.OfScript) :
    coupling.Keeps (emit event : Action κ Unit) (emit event : Action ι Unit)

/-- Commands in a row keep what each of them keeps. -/
theorem keeps_executeAll {commands : List Command}
    (each : ∀ command ∈ commands,
      coupling.Keeps (execute settings command) (execute settings command)) :
    coupling.Keeps (executeAll settings commands) (executeAll settings commands) := by
  -- The induction is on the commands, the first of which leaves the machines coupled.
  induction commands with
  | nil => exact Keeps.pure _
  | cons command rest ih =>
    exact (each command List.mem_cons_self).bind fun _ =>
      ih fun other member => each other (List.mem_cons_of_mem _ member)

/-- A loop keeps what its bodies keep, one of which is run by each machine. -/
theorem keeps_iterate (runs : coupling.RunsBlocks bound) {condition : Condition}
    (unclear : ∀ {machine other error}, coupling.running machine other →
      condition.holds machine.session.store = .error error →
        coupling.stopped (.failure error) machine other)
    (limit : ∀ {machine other}, coupling.running machine other →
      coupling.stopped (exhausted settings) machine other) {first second : List Command}
    (bodies : coupling.Keeps (executeAll settings first) (executeAll settings second))
    (allowed done : Nat) (within : done + allowed ≤ bound) :
    coupling.Keeps (iterate settings condition first allowed done)
      (iterate settings condition second allowed done) := by
  have decided := keeps_decideCondition runs.store unclear
  have finish : ∀ count, coupling.Keeps
      (emit (.loopFinished condition count) >>= fun _ => pure count : Action κ Nat)
      (emit (.loopFinished condition count) >>= fun _ => pure count) := fun count =>
    (runs.records _ .finished).bind fun _ => Keeps.pure _
  -- The induction is on the iterations that are left; no iteration is beyond the bound.
  induction allowed generalizing done with
  | zero =>
    refine decided.bind fun holds => ?_
    cases holds with
    | false => exact finish done
    | true => exact keeps_stopLoop limit
  | succ allowed ih =>
    refine decided.bind fun holds => ?_
    cases holds with
    | false => exact finish done
    | true =>
      exact (runs.records _ (.iteration (by omega))).bind fun _ => bodies.bind fun _ =>
        ih (done + 1) (by omega)

/-- A loop keeps what its bodies keep, if its condition may stop it. -/
theorem keeps_runLoop (runs : coupling.RunsBlocks (settings.loopLimit.getD fuel))
    {condition : String} (decides : coupling.Decides condition)
    (limit : ∀ {machine other}, coupling.running machine other →
      coupling.stopped (exhausted settings) machine other) {first second : List Command}
    (bodies : coupling.Keeps (executeAll settings first) (executeAll settings second)) :
    coupling.Keeps (runLoop settings fuel condition first)
      (runLoop settings fuel condition second) := by
  unfold runLoop
  -- A malformed condition stops both loops before they start.
  cases read : Condition.parse condition with
  | error malformed =>
    exact Keeps.throw fun coupled =>
      decides coupled (Condition.evaluate_of_parse_error read _)
  | ok parsed =>
    refine keeps_iterate runs (fun coupled unclear => decides coupled ?_) limit bodies _ 0
      (by omega)
    rw [Condition.evaluate_of_parse read, unclear]

/-- A branch keeps what its bodies keep, if its condition may stop it. -/
theorem keeps_runBranch (runs : coupling.RunsBlocks bound) {condition : String}
    (decides : coupling.Decides condition) {first second : List Command}
    (bodies : coupling.Keeps (executeAll settings first) (executeAll settings second)) :
    coupling.Keeps (runBranch settings condition first)
      (runBranch settings condition second) := by
  unfold runBranch
  cases read : Condition.parse condition with
  | error malformed =>
    exact Keeps.throw fun coupled =>
      decides coupled (Condition.evaluate_of_parse_error read _)
  | ok parsed =>
    have decided := keeps_decideCondition runs.store fun coupled unclear =>
      decides coupled ((Condition.evaluate_of_parse read _).trans unclear)
    refine decided.bind fun taken => (runs.records _ .branched).bind fun _ => ?_
    -- Both machines take the branch, or neither does.
    cases taken with
    | true => exact bodies.bind fun _ => Keeps.pure _
    | false => exact Keeps.pure _

/-- A block keeps what its commands keep, if its condition may stop it. -/
theorem keeps_runBlock (runs : coupling.RunsBlocks (settings.loopLimit.getD fuel)) {block : Block}
    (decides : coupling.Decides block.condition)
    (limit : ∀ {machine other}, coupling.running machine other →
      coupling.stopped (exhausted settings) machine other)
    (bodies : coupling.Keeps (executeAll settings block.body.toList)
      (executeAll settings block.body.toList)) :
    coupling.Keeps (runBlock settings fuel block) (runBlock settings fuel block) := by
  unfold runBlock
  -- The count of a loop and the answer of a branch are dropped.
  cases block.kind with
  | loop => exact (keeps_runLoop runs decides limit bodies).map _
  | branch => exact (keeps_runBranch runs decides bodies).map _

section Scripts

variable (runs : coupling.RunsScripts settings fuel)

include runs

/-- Recognizing a line keeps the coupling, as both machines record the same form. -/
theorem keeps_recognize (line : String) :
    coupling.Keeps (recognize line : Action κ Command) (recognize line) := by
  unfold recognize
  -- Which form a line has is decided by the line alone.
  cases Form.recognize? (Text.trimChars line.toList) with
  | none => exact Keeps.pure _
  | some found => exact (runs.scripts _ .recognized).bind fun _ => Keeps.pure _

/-- A line outside of blocks keeps the coupling, whatever becomes of it. -/
theorem keeps_takeOutside (number : Nat) (batch : Batch) (command : Command) :
    coupling.Keeps (takeOutside number batch command : Action κ Pass)
      (takeOutside number batch command) := by
  -- Only an assignment and a rejected line do something before the end.
  cases command with
  | assign name value =>
    have assigned : coupling.Keeps (assign name (.int value) : Action κ Unit)
        (assign name (.int value)) :=
      (Keeps.ofExcept fun _ coupled => runs.stops coupled).bind fun _ => runs.binds name _
    exact assigned.bind fun _ => Keeps.pure _
  | closes kind => exact Keeps.throw runs.stops
  | unrecognized text => exact (runs.scripts _ .rejected).bind fun _ => Keeps.pure _
  | _ => exact Keeps.pure _

/-- A line inside a block keeps the coupling, whether the block goes on or is closed and runs. -/
theorem keeps_takeInside (batch : Batch) (block : Block) (command : Command) :
    coupling.Keeps (takeInside settings fuel batch block command)
      (takeInside settings fuel batch block command) := by
  unfold takeInside
  split
  · have closed : coupling.Keeps (runBlock settings fuel block) (runBlock settings fuel block) :=
      keeps_runBlock runs.toRunsBlocks (fun coupled _ => runs.stops coupled) runs.stops
        (keeps_executeAll fun command _ => runs.executes command)
    exact (runs.scripts _ .closed).bind fun _ => closed.bind fun _ => Keeps.pure _
  · -- Any other marker stops both machines, and any other command is kept by both.
    cases command.marker? with
    | none => exact Keeps.pure _
    | some marker => exact Keeps.throw runs.stops

/-- Taking a line keeps the coupling, whether the line stops the pass or not. -/
theorem keeps_takeLine (number : Nat) (line : String) (pass : Pass) :
    coupling.Keeps (takeLine settings fuel number line pass)
      (takeLine settings fuel number line pass) := by
  unfold takeLine
  split
  · exact Keeps.pure pass
  · refine (keeps_recognize runs line).bind fun command => ?_
    -- The command is taken outside of blocks, or inside the one that is open.
    cases pass.opened with
    | none => exact keeps_takeOutside runs number pass.batch command
    | some block => exact keeps_takeInside runs pass.batch block command

variable (reports : coupling.Reports)

include reports

/-- Taking lines keeps the coupling, and so does the report of the one that stops the pass. -/
theorem keeps_takeLines (number : Nat) (lines : List String) (pass : Pass) :
    coupling.Keeps (takeLines settings fuel number lines pass)
      (takeLines settings fuel number lines pass) := by
  -- The induction is on the lines, with any number and any block in front of them.
  induction lines generalizing number pass with
  | nil => exact Keeps.pure pass
  | cons line rest ih =>
    refine Keeps.bind ?_ fun next => ih (number + 1) next
    exact (keeps_takeLine runs number line pass).onFailure _ fun stopped => reports .line stopped

/-- A pass over a script keeps the coupling, and so does the report of what stops it. -/
theorem keeps_validate (lines : List String) :
    coupling.Keeps (validate settings fuel lines) (validate settings fuel lines) := by
  refine (keeps_takeLines runs reports 1 lines {}).bind fun pass => ?_
  -- A block that is open at the end is reported as well.
  unfold closePass
  cases pass.opened with
  | none => exact Keeps.pure _
  | some block => exact (Keeps.throw runs.stops).onFailure .endFailed (reports .ending)

/-- A run of a script keeps the coupling, whether its queue is carried out or skipped. -/
theorem keeps_runScript (lines : List String) :
    coupling.Keeps (runScript settings fuel lines) (runScript settings fuel lines) := by
  refine (keeps_validate runs reports lines).bind fun batch => ?_
  -- Both passes gave the same batch, so the two machines do the same with it.
  split
  · exact (keeps_executeAll fun command _ => runs.executes command).bind fun _ => Keeps.pure _
  · exact (runs.scripts _ .skipped).bind fun _ => Keeps.pure _

end Scripts

end Coupling

end Plotter
