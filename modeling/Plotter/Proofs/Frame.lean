import Plotter.Proofs.Request

/-! The frame of a script: what none of its lines can change stays as it was. -/

namespace Plotter

open Plotter.Action

/-- A part of a session. -/
inductive Part where
  /-- The current position. -/
  | cursor
  /-- The current stroke. -/
  | pen
  /-- The current fill. -/
  | fill
  /-- The surface that is drawn on. -/
  | canvas
  /-- The notices given so far. -/
  | notices
  /-- What a name is bound to, if it is bound. -/
  | binding (name : String)

/-- The part is the same in two sessions. -/
def Part.Same {κ : Type} (part : Part) (before after : Session κ) : Prop :=
  -- A binding is compared by what a look at its name answers, so its place in the store is free.
  match part with
  | cursor => after.context.cursor = before.context.cursor
  | pen => after.context.pen = before.context.pen
  | fill => after.context.fill = before.context.fill
  | canvas => after.canvas = before.canvas
  | notices => after.notices = before.notices
  | binding name => after.store.get? name = before.store.get? name

/-- The command is of a kind that can change the part. -/
def Command.Reaches (command : Command) : Part → Prop
  | .cursor => command.name ∈ ["drawto", "moveto", "reset"]
  | .pen => command.name ∈ ["pen-color", "reset"]
  | .fill => command.name ∈ ["fill-toggle", "reset"]
  | .canvas => command.name ∈ ["drawto", "rect", "trig", "circle", "clear"]
  | .notices => command.name = "unrecognized"
  -- Assignments are the only commands with a name to bind.
  | .binding name => command.target? = some name

/-- The name is bound as it was before, or it is bound to a number. -/
def Session.Numbered {κ : Type} (name : String) (before after : Session κ) : Prop :=
  -- A name that is not bound at all may stay so.
  after.store.get? name = before.store.get? name ∨
    ∃ number, after.store.get? name = some (.int number)

namespace Part

variable {κ : Type}

/-- Every part of a session is the same in the session itself. -/
theorem same_refl (part : Part) (session : Session κ) : part.Same session session := by
  -- Whichever part it is, both sides are read off one session.
  cases part <;> rfl

/-- A part that is the same after each of two changes is the same after both. -/
theorem Same.trans {part : Part} {before middle after : Session κ}
    (first : part.Same before middle) (second : part.Same middle after) :
    part.Same before after := by
  -- Each part is an equation, and equations compose.
  cases part with
  | cursor | pen | fill | canvas | notices | binding name => exact Eq.trans second first

variable [Canvas κ] {settings : Settings} {session : Session κ} {command : Command}
  {effect : Effect}

/-- An effect of a command changes the parts that the command can change, and no others. -/
theorem same_or_reaches_of_has
    (has : Effect.Has settings session.context command effect) (part : Part) :
    part.Same session (effect.change session) ∨ command.Reaches part := by
  -- The cases are those of the effect: most parts are not touched by it at all.
  cases has with
  | line kind target =>
    cases part with
    | cursor | canvas => exact .inr (by simp [Command.Reaches, kind])
    | _ => exact .inl rfl
  | closed kind style sizes width =>
    cases part with
    | canvas => exact .inr (List.mem_cons_of_mem _ (List.mem_append_left ["clear"] kind))
    | _ => exact .inl rfl
  | clear chosen =>
    cases part with
    | canvas => exact .inr (by simp [Command.Reaches, chosen, Command.name])
    | _ => exact .inl rfl
  | move kind cursor =>
    cases part with
    | cursor => exact .inr (by simp [Command.Reaches, kind])
    | _ => exact .inl rfl
  | reset chosen =>
    cases part with
    | cursor | pen | fill => exact .inr (by simp [Command.Reaches, chosen, Command.name])
    | _ => exact .inl rfl
  | stay chosen => cases part <;> exact .inl rfl
  | fill chosen =>
    cases part with
    | fill => exact .inr (by simp [Command.Reaches, chosen, Command.name])
    | _ => exact .inl rfl
  | pen chosen =>
    cases part with
    | pen => exact .inr (by simp [Command.Reaches, chosen, Command.name])
    | _ => exact .inl rfl
  | @bind bound number target passed =>
    cases part with
    | binding name =>
      -- A binding changes its own name, and leaves all others as they are.
      by_cases same : name = bound
      · exact .inr (same ▸ target)
      · refine .inl ?_
        show (session.store.insert bound (.int number)).get? name = session.store.get? name
        rw [Variables.get?_insert, if_neg same]
    | _ => exact .inl rfl
  | notify chosen =>
    cases part with
    | notices => exact .inr (by simp [Command.Reaches, chosen, Command.name])
    | _ => exact .inl rfl

end Part

namespace Request

variable {κ : Type} [Canvas κ] {settings : Settings}

/-- A request changes a part only if it brings a command that can change the part. -/
theorem same_or_reaches (request : Request) (fuel : Nat) (session : Session κ) (part : Part) :
    part.Same session (outcome (request.action settings fuel) session).2 ∨
      ∃ command, request.Brings command ∧ command.Reaches part := by
  -- With a command that reaches the part there is nothing more to show.
  by_cases reached : ∃ command, request.Brings command ∧ command.Reaches part
  · exact .inr reached
  · -- As no command reaches the part, each single effect leaves it as it was at the start.
    have kept : (Conduct.keeping (part.Same session)).Allows (request.action settings fuel) := by
      refine Conduct.keeping_allows_request ?_ fuel
      intro command brought middle effect before decided
      rcases Part.same_or_reaches_of_has (Effect.has_of_ofCommand decided) part with same | reaches
      · exact before.trans same
      · exact (reached ⟨command, brought, reaches⟩).elim
    exact .inl ((kept session).1 (part.same_refl session))

/-- A request changes no variable but to a number. -/
theorem numbered (request : Request) (fuel : Nat) (session : Session κ) (name : String) :
    Session.Numbered name session (outcome (request.action settings fuel) session).2 := by
  have kept : (Conduct.keeping (Session.Numbered name session)).Allows
      (request.action settings fuel) := by
    refine Conduct.keeping_allows_request ?_ fuel
    intro command _ middle effect before decided
    -- Only a binding reaches the variables, and commands bind names to numbers alone.
    cases effect with
    | bind bound value =>
      obtain ⟨⟨number, rfl⟩, -⟩ := Effect.bound_of_ofCommand decided
      rw [Session.Numbered, Effect.change, Variables.get?_insert]
      by_cases same : name = bound
      · exact .inr ⟨number, if_pos same⟩
      · rw [if_neg same]
        exact before
    | draw op cursor | adjust context | notify notice => exact before
  exact (kept session).1 (.inl rfl)

end Request

namespace Script

/-- All that can have become of a session that was given the lines of a script. -/
structure Frames {κ : Type} (lines : List String) (before after : Session κ) : Prop where
  /-- Each part is the same, unless a line spells a command that can change it. -/
  parts : ∀ part : Part, part.Same before after ∨
    ∃ line ∈ lines, (Command.ofLine line).Reaches part
  /-- A variable that is not as it was holds a number. -/
  numbers : ∀ name, Session.Numbered name before after

end Script

namespace Action

/--
A script changes only what its lines can change.

However a pass over the lines or a run of them ends, and however often its loops go round, each part
of the session is the same as before, unless one of the lines spells a command of a kind that can
change this part. So a name to which no line assigns is bound as it was before, or is not bound as
before. Every variable that has changed holds a number. The settings are no part of a session, and
nothing can change them.
-/
theorem script_frame {κ : Type} [Canvas κ] (settings : Settings) (fuel : Nat)
    (lines : List String) (session : Session κ) :
    Script.Frames lines session (outcome (validate settings fuel lines) session).2 ∧
      Script.Frames lines session (outcome (runScript settings fuel lines) session).2 := by
  have framed : ∀ request : Request,
      (∀ command, request.Brings command → ∃ line ∈ lines, Command.ofLine line = command) →
        Script.Frames lines session (outcome (request.action settings fuel) session).2 := by
    intro request spelled
    refine ⟨fun part => ?_, request.numbered fuel session⟩
    -- A command that reaches the part has been spelled by a line.
    refine (request.same_or_reaches fuel session part).imp_right ?_
    rintro ⟨command, brought, reaches⟩
    obtain ⟨line, member, rfl⟩ := spelled command brought
    exact ⟨line, member, reaches⟩
  exact ⟨framed (.pass lines) fun _ => id, framed (.script lines) fun _ => id⟩

end Action

end Plotter
