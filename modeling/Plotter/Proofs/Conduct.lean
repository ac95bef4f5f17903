import Plotter.Proofs.Pass

/-! What every single command keeps to, a whole run of commands, blocks or scripts keeps to. -/

namespace Plotter

open Plotter.Action

variable {κ α β : Type}

/-- What actions may do: how they may change a session, and how they may stop. -/
structure Conduct (κ : Type) where
  /-- Whether a session may become another one. -/
  moves : Session κ → Session κ → Prop
  /-- Whether an action may stop for a reason, and leave a session. -/
  stops : Halt → Session κ → Prop
  /-- A session may stay as it is. -/
  refl (session : Session κ) : moves session session
  /-- Two changes in a row are a change. -/
  trans {before middle after : Session κ} (first : moves before middle)
    (second : moves middle after) : moves before after

/-- The action keeps to the conduct from every session. -/
def Conduct.Allows (conduct : Conduct κ) (action : Action κ α) : Prop :=
  -- The log is left out on purpose: a conduct is about what shows of the session.
  ∀ session, conduct.moves session (outcome action session).2 ∧
    ∀ halt, (outcome action session).1 = .error halt →
      conduct.stops halt (outcome action session).2

/-- A condition that cannot be evaluated stops an action in a way that is part of the conduct. -/
def Conduct.Decides (conduct : Conduct κ) (condition : String) : Prop :=
  -- Only a condition that fails to be decided can stop a script here.
  ∀ session error, Condition.evaluate condition session.store = .error error →
    conduct.stops (.failure error) session

namespace Conduct

variable {conduct : Conduct κ}

/-- Actions with the same outcomes keep to the same conduct. -/
theorem Allows.congr {action other : Action κ α} (allowed : conduct.Allows other)
    (same : ∀ session, outcome action session = outcome other session) :
    conduct.Allows action := by
  -- A conduct looks at outcomes alone, so equal outcomes are as good.
  intro session
  rw [same session]
  exact allowed session

/-- Giving a value keeps to every conduct. -/
protected theorem Allows.pure (value : α) : conduct.Allows (pure value : Action κ α) :=
  -- The session stays, and there is no stop to justify.
  fun session => ⟨conduct.refl session, fun _ stopped => nomatch stopped⟩

/-- An event keeps to every conduct. -/
protected theorem Allows.emit (event : Event) : conduct.Allows (emit event) :=
  -- An event goes to the log, which a conduct does not look at.
  fun session => ⟨conduct.refl session, fun _ stopped => nomatch stopped⟩

/-- Failing keeps to a conduct that has the error. -/
protected theorem Allows.fail {error : Error}
    (stop : ∀ session, conduct.stops (.failure error) session) :
    conduct.Allows (fail error : Action κ α) := by
  intro session
  refine ⟨conduct.refl session, ?_⟩
  -- There is one stop, and it is the one that the conduct was asked about.
  rintro halt ⟨⟩
  exact stop session

/-- Two actions in a row keep to a conduct if the second does with all that the first can give. -/
theorem Allows.bind_given {action : Action κ α} {next : α → Action κ β}
    (blind : ∀ value, LogBlind (next value)) (first : conduct.Allows action)
    (rest : ∀ session value after, outcome action session = (.ok value, after) →
      conduct.Allows (next value)) : conduct.Allows (action >>= next) := by
  intro session
  have before := first session
  -- The second action needs allowing only for the values that the first one gives.
  rw [outcome_bind blind]
  rcases ran : outcome action session with ⟨halt | value, after⟩
  · -- The first action stops, and the second one is not reached.
    rw [ran] at before
    exact ⟨before.1, by rintro halt ⟨⟩; exact before.2 _ rfl⟩
  · -- The second action goes on from where the first one has led.
    have behind := rest session value after ran after
    rw [ran] at before
    rw [follow_ok]
    exact ⟨conduct.trans before.1 behind.1, behind.2⟩

/-- Two actions in a row keep to what each of them keeps to. -/
protected theorem Allows.bind {action : Action κ α} {next : α → Action κ β}
    (blind : ∀ value, LogBlind (next value)) (first : conduct.Allows action)
    (rest : ∀ value, conduct.Allows (next value)) : conduct.Allows (action >>= next) :=
  -- Without a condition on the value, the sharper rule applies to every one of them.
  first.bind_given blind fun _ value _ _ => rest value

/-- Items in a row keep to what each of them keeps to. -/
protected theorem Allows.forM {step : α → Action κ Unit} (blind : ∀ item, LogBlind (step item))
    {items : List α} (each : ∀ item ∈ items, conduct.Allows (step item)) :
    conduct.Allows (items.forM step) := by
  -- Each item goes on from where the items before it have led.
  induction items with
  | nil => exact Allows.pure _
  | cons item rest ih =>
    exact Allows.bind (fun _ => LogBlind.forM blind rest) (each item List.mem_cons_self)
      fun _ => ih fun other member => each other (List.mem_cons_of_mem _ member)

/-- How a machine has come from a session, as a coupling of the machine with itself. -/
def coupling (conduct : Conduct κ) (start : Session κ) : Coupling κ κ where
  -- A conduct is about one run, so the second machine adds nothing.
  running machine other := machine = other ∧ conduct.moves start machine.session
  stopped halt machine other :=
    machine = other ∧ conduct.moves start machine.session ∧ conduct.stops halt machine.session

/-- An action keeps to a conduct if it does wherever the session may have come from. -/
theorem allows_of_keeps {action : Action κ α}
    (keeps : ∀ start, (conduct.coupling start).Keeps action action) : conduct.Allows action := by
  intro session
  unfold outcome
  -- A run that ends has nothing to say about stopping.
  obtain ⟨value, left, -, ran, -, -, moved⟩ | ⟨halt, left, -, ran, -, -, moved, stops⟩ :=
    (keeps session { session } { session } ⟨rfl, conduct.refl session⟩).ends
  · rw [ran]
    exact ⟨moved, fun _ stopped => nomatch stopped⟩
  · rw [ran]
    refine ⟨moved, ?_⟩
    rintro _ ⟨⟩
    exact stops

/-- A blind action that keeps to a conduct does so wherever its session has come from. -/
theorem Allows.keeps {action : Action κ α} (blind : LogBlind action)
    (allowed : conduct.Allows action) (start : Session κ) :
    (conduct.coupling start).Keeps action action := by
  rintro machine _ ⟨rfl, before⟩
  obtain ⟨moved, stops⟩ := allowed machine.session
  rw [← blind.seen_eq machine] at moved stops
  -- The way from the start is gone on with the change that the action makes.
  cases ran : action machine with
  | ok value left =>
    rw [ran] at moved
    exact .ok ⟨rfl, conduct.trans before moved⟩
  | error halt left =>
    rw [ran] at moved stops
    exact .error ⟨rfl, conduct.trans before moved, stops halt rfl⟩

/-- What blocks record is nothing that a conduct is about. -/
theorem runsBlocks (conduct : Conduct κ) (start : Session κ) (bound : Nat) :
    (conduct.coupling start).RunsBlocks bound where
  -- There is one machine only, so it agrees with itself and records each event once.
  store coupled := congrArg (·.session.store) coupled.1
  records _ _ _ _ coupled := .ok ⟨congrArg (Machine.record · _) coupled.1, coupled.2⟩

/-- A condition stops a machine as its conduct has it. -/
theorem Decides.coupled {condition : String} (decides : conduct.Decides condition)
    (start : Session κ) : (conduct.coupling start).Decides condition :=
  -- Which variables there are does not depend on the way that led to them.
  fun coupled unclear => ⟨coupled.1, coupled.2, decides _ _ unclear⟩

variable [Canvas κ] {settings : Settings}

/-- Commands in a row keep to what each of them keeps to. -/
theorem allows_executeAll {commands : List Command}
    (each : ∀ command ∈ commands, conduct.Allows (execute settings command)) :
    conduct.Allows (executeAll settings commands) :=
  -- Each command goes on from a session that the commands before it have led to.
  allows_of_keeps fun start => Coupling.keeps_executeAll fun command member =>
    (each command member).keeps (execute_logBlind settings command) start

/-- A loop keeps to what its condition, its limit and the commands of its body keep to. -/
theorem allows_runLoop {fuel : Nat} {condition : String} {body : List Command}
    (decides : conduct.Decides condition)
    (limit : ∀ session, conduct.stops (exhausted settings) session)
    (each : ∀ command ∈ body, conduct.Allows (execute settings command)) :
    conduct.Allows (runLoop settings fuel condition body) :=
  -- The body is carried out with the way from the start to the session kept in mind.
  allows_of_keeps fun start => Coupling.keeps_runLoop (conduct.runsBlocks start _)
    (decides.coupled start) (fun coupled => ⟨coupled.1, coupled.2, limit _⟩)
    ((allows_executeAll each).keeps (executeAll_logBlind settings _) start)

/-- A branch keeps to what its condition and the commands of its body keep to. -/
theorem allows_runBranch {condition : String} {body : List Command}
    (decides : conduct.Decides condition)
    (each : ∀ command ∈ body, conduct.Allows (execute settings command)) :
    conduct.Allows (runBranch settings condition body) :=
  -- A branch has no limit, so a conduct need not have the end of loops for it.
  allows_of_keeps fun start => Coupling.keeps_runBranch (conduct.runsBlocks start 0)
    (decides.coupled start) ((allows_executeAll each).keeps (executeAll_logBlind settings _) start)

/-- A block keeps to what its condition, its limit and the commands of its body keep to. -/
theorem allows_runBlock {fuel : Nat} {block : Block} (decides : conduct.Decides block.condition)
    (limit : ∀ session, conduct.stops (exhausted settings) session)
    (each : ∀ command ∈ block.body, conduct.Allows (execute settings command)) :
    conduct.Allows (runBlock settings fuel block) := by
  have listed : ∀ command ∈ block.body.toList, conduct.Allows (execute settings command) :=
    fun command member => each command (by simpa using member)
  -- Whether the block is a loop or a branch, its body is the same.
  exact allows_of_keeps fun start =>
    Coupling.keeps_runBlock (conduct.runsBlocks start _) (decides.coupled start)
      (fun coupled => ⟨coupled.1, coupled.2, limit _⟩)
      ((allows_executeAll listed).keeps (executeAll_logBlind settings _) start)

/-- The lines of a script keep to a conduct, each on its own. -/
structure Covers (conduct : Conduct κ) (settings : Settings) (lines : List String) : Prop where
  /-- Every line that is not a marker keeps to the conduct as a command. -/
  each : ∀ number command, (number, command) ∈ Script.entries 1 lines →
    command.marker? = none → conduct.Allows (execute settings command)
  /-- So does every condition. -/
  decides : ∀ number kind condition, (number, .opens kind condition) ∈ Script.entries 1 lines →
    conduct.Decides condition
  /-- A loop may stop after all the iterations it may have. -/
  limit : ∀ session, conduct.stops (exhausted settings) session
  /-- The script may stop at a marker that is missing or out of place. -/
  faults : ∀ error, .fault error ∈ Script.items (Script.entries 1 lines) →
    ∀ session, conduct.stops (.failure error) session

/-- What an item does at once keeps to what the lines of its script keep to. -/
theorem Covers.allows_atOnce {lines : List String} (covers : conduct.Covers settings lines)
    (fuel : Nat) {item : Item} (member : item ∈ Script.items (Script.entries 1 lines)) :
    conduct.Allows (item.atOnce settings fuel) := by
  have made := Script.from_of_mem_items item member
  -- The lines that the item is made of are lines of the script, and the script covers these.
  cases item with
  | assignment name value =>
    obtain ⟨number, listed⟩ := made
    exact Allows.congr (covers.each number _ listed rfl) fun session =>
      (outcome_execute_assign settings name value session).symm
  | block closed =>
    refine allows_runBlock (covers.decides _ _ _ made.1) covers.limit fun command inside => ?_
    obtain ⟨plain, number, listed⟩ := made.2 command inside
    exact covers.each number command listed plain
  | _ => exact Allows.pure _

/-- A pass over a script keeps to what its lines keep to. -/
theorem Covers.allows_validate {lines : List String} (covers : conduct.Covers settings lines)
    (fuel : Nat) : conduct.Allows (validate settings fuel lines) := by
  -- The pass is its immediate items, and after them the first fault that is found.
  refine Allows.congr ?_ (outcome_validate settings fuel lines)
  refine Allows.bind (fun _ => ?_) (Allows.forM (atOnce_logBlind settings fuel) ?_) fun _ => ?_
  · split <;> simp
  · intro item member
    exact covers.allows_atOnce fuel member
  · split
    · -- The fault that stops the pass is one of the items.
      rename_i error found
      obtain ⟨item, member, same⟩ := List.exists_of_findSome?_eq_some found
      cases item with
      | fault reason =>
        obtain rfl := Option.some.inj same
        exact Allows.fail (covers.faults reason member)
      | _ => cases same
    · exact Allows.pure _

/-- A run of a script keeps to what its lines keep to. -/
theorem Covers.allows_runScript {lines : List String} (covers : conduct.Covers settings lines)
    (fuel : Nat) : conduct.Allows (runScript settings fuel lines) := by
  refine Allows.bind_given (runBatch_logBlind settings) (covers.allows_validate fuel) ?_
  intro session batch after passed
  split
  · refine Allows.bind (fun _ => LogBlind.pure _) (allows_executeAll fun command queued => ?_)
      fun _ => Allows.pure _
    -- What is queued comes from lines of the script.
    rw [batch_of_validate passed] at queued
    simp only [Batch.extend, Array.empty_append, List.toList_toArray, List.mem_filterMap] at queued
    obtain ⟨item, member, same⟩ := queued
    have made := Script.from_of_mem_items item member
    cases item with
    | queued waiting =>
      obtain rfl := Option.some.inj same
      obtain ⟨plain, number, listed⟩ := made
      exact covers.each number waiting listed plain
    | _ => cases same
  · exact Allows.bind (fun _ => LogBlind.pure _) (Allows.emit _) fun _ => Allows.pure _

end Conduct

end Plotter
