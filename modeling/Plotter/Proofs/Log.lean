import Plotter.Proofs.Loop

/-! The events that actions add to the log, and how far a loop counts in them. -/

namespace Plotter

open Plotter.Action

variable {κ α β : Type}

namespace Action

/-- The events that an action adds to the log when it starts in a session. -/
def written (action : Action κ α) (session : Session κ) : Array Event :=
  -- Before a fresh start, the log is empty.
  (final (action { session })).log

/-- Every event that the action adds to the log has the property. -/
def Writes (property : Event → Prop) (action : Action κ α) : Prop :=
  -- The events count even if the action stops early behind them.
  ∀ session, ∀ event ∈ written action session, property event

end Action

namespace Coupling

/-- A property of one machine, as a coupling of the machine with itself. -/
def ofInvariant (good : Machine κ → Prop) : Coupling κ κ where
  -- Two runs of the same action never part, so the second machine adds nothing.
  running machine other := machine = other ∧ good machine
  stopped _ machine other := machine = other ∧ good machine

/-- An action keeps the coupling of a property if it leads from good machines to good machines. -/
theorem keeps_ofInvariant_iff {good : Machine κ → Prop} {action : Action κ α} :
    (ofInvariant good).Keeps action action ↔
      ∀ machine, good machine → good (final (action machine)) := by
  constructor
  · intro keeps machine holds
    obtain ⟨value, left, -, ran, -, -, after⟩ | ⟨halt, left, -, ran, -, -, after⟩ :=
      (keeps machine machine ⟨rfl, holds⟩).ends
    · rwa [ran]
    · rwa [ran]
  · rintro leads machine _ ⟨rfl, holds⟩
    -- Both runs are one and the same, so only the property is left to show.
    have after := leads machine holds
    cases ran : action machine with
    | ok value left =>
      rw [ran] at after
      exact .ok ⟨rfl, after⟩
    | error halt left =>
      rw [ran] at after
      exact .error ⟨rfl, after⟩

/-- Drawing keeps a property that what the canvas says and what is drawn on it leave alone. -/
theorem keeps_draw_ofInvariant [Canvas κ] {good : Machine κ → Prop} {op : DrawOp}
    (announced : ∀ {machine event}, Canvas.announce machine.session.canvas op = some event →
      good machine → good (machine.record event))
    (drawn : ∀ {machine}, good machine → good { machine with
      session := { machine.session with
        canvas := Canvas.draw machine.session.canvas op } }) :
    (ofInvariant good).Keeps (draw op) (draw op) := by
  refine keeps_ofInvariant_iff.mpr fun machine holds => ?_
  unfold draw
  rw [ask_bind_apply]
  -- The canvas is asked before it is drawn on.
  cases said : Canvas.announce machine.session.canvas op with
  | none => exact drawn holds
  | some event => exact drawn (announced said holds)

/-- The property is one of all events in the log. -/
def logged (κ : Type) (property : Event → Prop) : Coupling κ κ :=
  -- What the session is does not matter.
  ofInvariant fun machine => ∀ event ∈ machine.log, property event

variable {property : Event → Prop}

/-- An action adds only events that have a property if it keeps the property of the log. -/
theorem Keeps.writes {action : Action κ α} (keeps : (logged κ property).Keeps action action) :
    Writes property action := by
  intro session
  -- Every event has the property as long as there is none.
  exact keeps_ofInvariant_iff.mp keeps { session } fun event member =>
    (Array.not_mem_empty event member).elim

/-- A log whose events have the property still has it with one more event of the kind. -/
theorem forall_mem_record {machine : Machine κ} (earlier : ∀ event ∈ machine.log, property event)
    {event : Event} (holds : property event) : ∀ added ∈ (machine.record event).log,
      property added := by
  intro added member
  -- The event that is looked at was there before, or it is the new one.
  rcases Array.mem_push.mp member with before | rfl
  · exact earlier added before
  · exact holds

/-- An event that has the property may be added to the log. -/
theorem keeps_emit {event : Event} (holds : property event) :
    (logged κ property).Keeps (emit event) (emit event) :=
  -- Adding an event is all that happens.
  keeps_ofInvariant_iff.mpr fun _ earlier => forall_mem_record earlier holds

/-- A change of the session does not show in the log. -/
theorem keeps_update (change : Session κ → Session κ) :
    (logged κ property).Keeps (update change) (update change) :=
  -- The log is the same before and after.
  keeps_ofInvariant_iff.mpr fun _ earlier => earlier

end Coupling

variable [Canvas κ]

/-- The property is one of everything that commands add to the log. -/
structure Action.OfCommands (κ : Type) [Canvas κ] (property : Event → Prop) : Prop where
  /-- A canvas may say something before it is drawn on. -/
  announced : ∀ (canvas : κ) op event, Canvas.announce canvas op = some event → property event
  /-- Every command is named before it is carried out. -/
  executing : ∀ command, property (.executing command)
  /-- So is every binding. -/
  assigned : ∀ name value, property (.assigned name value)
  /-- And so is every notice. -/
  noticed : ∀ notice, property (.noticed notice)

namespace Coupling

variable {property : Event → Prop}

/-- Binding a name adds the binding. -/
theorem keeps_bindName (commands : OfCommands κ property) (name : String) (value : Value) :
    (logged κ property).Keeps (bindName name value) (bindName name value) :=
  -- The event comes first, and the variables after it.
  (keeps_emit (commands.assigned name value)).bind fun _ => keeps_update _

/-- Drawing adds only what the canvas says. -/
theorem keeps_draw (commands : OfCommands κ property) (op : DrawOp) :
    (logged κ property).Keeps (draw op) (draw op) :=
  -- The event, if there is one, is what the canvas says when it is asked.
  keeps_draw_ofInvariant (fun said earlier => forall_mem_record earlier
    (commands.announced _ op _ said)) id

/-- A command adds its own name to the log, and then what is drawn, bound or noticed with it. -/
theorem keeps_execute (commands : OfCommands κ property) (settings : Settings)
    (command : Command) :
    (logged κ property).Keeps (execute settings command) (execute settings command) := by
  have performs : ∀ effect : Effect,
      (logged κ property).Keeps (perform effect : Action κ Unit) (perform effect) := by
    intro effect
    cases effect with
    | draw op cursor => exact (keeps_draw commands op).bind fun _ => keeps_update _
    | adjust context => exact keeps_update fun session => { session with context }
    | bind name value => exact keeps_bindName commands name value
    | notify notice => exact (keeps_emit (commands.noticed notice)).bind fun _ => keeps_update _
  refine (keeps_emit (commands.executing command)).bind fun _ => ?_
  -- Whether there is an effect is decided without a trace in the log.
  rintro machine _ ⟨rfl, earlier⟩
  exact ((Keeps.ofExcept fun _ coupled => coupled).bind performs) machine machine ⟨rfl, earlier⟩

omit [Canvas κ] in
/-- Blocks keep the property of a log if all the events that they record have it. -/
theorem runsBlocks_logged {bound : Nat}
    (records : ∀ event : Event, event.OfBlock bound → property event) :
    (logged κ property).RunsBlocks bound where
  -- Coupled machines are equal, so their stores are.
  store coupled := congrArg (·.session.store) coupled.1
  records event made := keeps_emit (records event made)

end Coupling

namespace Action

/-- The event starts no iteration beyond the bound, unless a canvas itself says that it does. -/
def CountsUpTo (κ : Type) [Canvas κ] (bound : Nat) (event : Event) : Prop :=
  -- Nothing keeps a canvas from announcing an event of another kind.
  ∀ condition count, event = .iteration condition count →
    count ≤ bound ∨ ∃ (canvas : κ) (op : DrawOp), Canvas.announce canvas op = some event

/-- Commands start no iterations. -/
theorem countsUpTo_ofCommands (bound : Nat) : OfCommands κ (CountsUpTo κ bound) where
  -- None of these events is an iteration, unless it is the canvas that says so.
  announced canvas op _ said _ _ _ := .inr ⟨canvas, op, said⟩
  executing _ _ _ := nofun
  assigned _ _ _ _ := nofun
  noticed _ _ _ := nofun

/-- A loop counts no further than to the iterations that it may have. -/
theorem countsUpTo_runLoop (settings : Settings) (fuel : Nat) (condition : String)
    (body : List Command) :
    Writes (CountsUpTo κ (settings.loopLimit.getD fuel))
      (runLoop settings fuel condition body : Action κ Nat) := by
  have commands : OfCommands κ (CountsUpTo κ (settings.loopLimit.getD fuel)) :=
    countsUpTo_ofCommands _
  refine (Coupling.keeps_runLoop (Coupling.runsBlocks_logged ?_)
    (fun coupled _ => coupled) (fun coupled => coupled) (Coupling.keeps_executeAll fun command _ =>
      Coupling.keeps_execute commands settings command)).writes
  -- Of the events of blocks, only the start of an iteration counts.
  intro event made
  cases made with
  | iteration within =>
    rintro _ _ ⟨⟩
    exact .inl within
  | finished => exact fun _ _ => nofun
  | branched => exact fun _ _ => nofun

end Action

end Plotter
