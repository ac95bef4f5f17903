import Plotter.Proofs.Conduct
import Plotter.Proofs.Effect
import Plotter.Proofs.Store

/-! Everything that a session can be asked to do, and the bindings that it makes on the way. -/

namespace Plotter

open Plotter.Action

/-- What a session can be asked to do. -/
inductive Request where
  /-- To carry out a command. -/
  | command (command : Command)
  /-- To carry out commands in order. -/
  | commands (commands : List Command)
  /-- To run commands as long as a condition holds. -/
  | loop (condition : String) (body : List Command)
  /-- To run commands if a condition holds. -/
  | branch (condition : String) (body : List Command)
  /-- To run a block. -/
  | block (block : Block)
  /-- To make one pass over the lines of a script. -/
  | pass (lines : List String)
  /-- To run the lines of a script. -/
  | script (lines : List String)

namespace Request

/-- What a request is answered with, unless it fails. -/
def Answer : Request → Type
  -- A loop counts its rounds, a branch says whether it was taken, and the passes give their batch.
  | command _ => Unit
  | commands _ => Unit
  | loop _ _ => Nat
  | branch _ _ => Bool
  | block _ => Unit
  | pass _ => Batch
  | script _ => Batch

/-- The action that a request asks for. -/
def action {κ : Type} [Canvas κ] (settings : Settings) (fuel : Nat) :
    (request : Request) → Action κ request.Answer
  -- Each request is one entry point of the interpreter.
  | .command single => execute settings single
  | .commands several => executeAll settings several
  | .loop condition body => runLoop settings fuel condition body
  | .branch condition body => runBranch settings condition body
  | .block closed => runBlock settings fuel closed
  | .pass lines => validate settings fuel lines
  | .script lines => runScript settings fuel lines

/-- The command is one of those that the request hands over, or that its lines spell. -/
def Brings : Request → Command → Prop
  -- A script brings the commands of its lines, whether they are reached or not.
  | command single, given => given = single
  | commands several, given => given ∈ several
  | loop _ body, given | branch _ body, given => given ∈ body
  | block closed, given => given ∈ closed.body
  | pass lines, given | script lines, given => ∃ line ∈ lines, Command.ofLine line = given

end Request

/-- The session after requests in order, each with its fuel, whether they succeed or fail. -/
def Session.afterRequests {κ : Type} [Canvas κ] (settings : Settings) (session : Session κ)
    (requests : List (Nat × Request)) : Session κ :=
  -- A request that fails leaves a session too, and the next one goes on from it.
  requests.foldl (fun session (fuel, request) =>
    (outcome (request.action settings fuel) session).2) session

namespace Conduct

variable {κ : Type} {allowed : String → Value → Prop}

/-- The variables change by bindings of the allowed kind alone. -/
def binding (κ : Type) (allowed : String → Value → Prop) : Conduct κ where
  -- How a request ends is left open: the conduct is about the store alone.
  moves before after := Variables.Updates allowed before.store after.store
  stops _ _ := True
  refl _ := .refl
  trans first second := first.trans second

/-- An assignment is a checked binding, or does nothing. -/
theorem binding_allows_assign (name : String) (value : Value) :
    (binding κ (Variables.check · · = .ok ())).Allows (assign name value) := by
  intro session
  refine ⟨?_, fun _ _ => trivial⟩
  rw [outcome_assign]
  -- Either the store stays, or it gains one checked binding.
  cases passed : Variables.check name value with
  | error error => exact .refl
  | ok _ => exact .single ⟨name, value, passed, rfl⟩

variable [Canvas κ] {settings : Settings}

/-- A command makes the bindings that its effects are. -/
theorem binding_allows_execute {command : Command}
    (each : ∀ store context name value,
      Effect.ofCommand settings store context command = .ok (.bind name value) →
        allowed name value) :
    (binding κ allowed).Allows (execute settings command) := by
  intro session
  refine ⟨?_, fun _ _ => trivial⟩
  rw [outcome_execute]
  cases decided : Effect.ofCommand settings session.store session.context command with
  | error error => exact .refl
  | ok effect =>
    -- Of the four effects only a binding reaches the store.
    cases effect with
    | bind name value => exact .single ⟨name, value, each _ _ name value decided, rfl⟩
    | draw op cursor => exact .refl
    | adjust context => exact .refl
    | notify notice => exact .refl

/-- A request keeps to what its commands keep to, if it may stop for any reason. -/
theorem allows_request {conduct : Conduct κ} {request : Request}
    (each : ∀ command, request.Brings command → conduct.Allows (execute settings command))
    (free : ∀ halt session, conduct.stops halt session) (fuel : Nat) :
    conduct.Allows (request.action settings fuel) := by
  -- Whatever stops the request is allowed, so all that counts is what its commands do.
  have decides : ∀ condition, conduct.Decides condition := fun _ session error _ =>
    free (.failure error) session
  have covers : ∀ lines : List String,
      (∀ line ∈ lines, conduct.Allows (execute settings (.ofLine line))) →
        conduct.Covers settings lines := by
    intro lines spelled
    refine ⟨fun number command listed _ => ?_, fun _ _ condition _ => decides condition, free _,
      fun error _ => free (.failure error)⟩
    obtain ⟨line, member, rfl⟩ := Script.exists_line_of_mem_entries listed
    exact spelled line member
  cases request with
  | command single => exact each single rfl
  | commands several => exact allows_executeAll each
  | loop condition body => exact allows_runLoop (decides condition) (free _) each
  | branch condition body => exact allows_runBranch (decides condition) each
  | block closed => exact allows_runBlock (decides closed.condition) (free _) each
  | pass lines =>
    exact (covers lines fun line member => each _ ⟨line, member, rfl⟩).allows_validate fuel
  | script lines =>
    exact (covers lines fun line member => each _ ⟨line, member, rfl⟩).allows_runScript fuel

/-- Requests in order change a session as each of them may change it. -/
theorem moves_of_requests {conduct : Conduct κ} {requests : List (Nat × Request)}
    (each : ∀ fuel request, (fuel, request) ∈ requests →
      conduct.Allows (request.action settings fuel)) (session : Session κ) :
    conduct.moves session (session.afterRequests settings requests) := by
  -- The induction is on the requests, and each starts from what the ones before it have left.
  induction requests generalizing session with
  | nil => exact conduct.refl session
  | cons asked rest ih =>
    obtain ⟨fuel, request⟩ := asked
    have once := (each fuel request List.mem_cons_self session).1
    exact conduct.trans once (ih (fun fuel request member =>
      each fuel request (List.mem_cons_of_mem _ member)) _)

/-- What is true of a session stays true. -/
def keeping (invariant : Session κ → Prop) : Conduct κ where
  -- The invariant is carried along, however a request ends.
  moves before after := invariant before → invariant after
  stops _ _ := True
  refl _ := id
  trans first second := second ∘ first

/-- A command keeps what each of its effects keeps. -/
theorem keeping_allows_execute {invariant : Session κ → Prop} {command : Command}
    (step : ∀ session effect, invariant session →
      Effect.ofCommand settings session.store session.context command = .ok effect →
        invariant (effect.change session)) :
    (keeping invariant).Allows (execute settings command) := by
  intro session
  refine ⟨fun holds => ?_, fun _ _ => trivial⟩
  rw [outcome_execute]
  -- A refused command leaves the session as it was.
  cases decided : Effect.ofCommand settings session.store session.context command with
  | error error => exact holds
  | ok effect => exact step session effect holds decided

/-- A request keeps what each effect of its commands keeps. -/
theorem keeping_allows_request {invariant : Session κ → Prop} {request : Request}
    (step : ∀ command, request.Brings command → ∀ session effect, invariant session →
      Effect.ofCommand settings session.store session.context command = .ok effect →
        invariant (effect.change session)) (fuel : Nat) :
    (keeping invariant).Allows (request.action settings fuel) := by
  -- A request does nothing to the session that its commands do not do.
  refine allows_request (fun command brought => ?_) (fun _ _ => trivial) fuel
  exact keeping_allows_execute (step command brought)

/-- Whatever a session is asked to do, its variables change by checked bindings alone. -/
theorem binding_allows_request (fuel : Nat) (request : Request) :
    (binding κ (Variables.check · · = .ok ())).Allows (request.action settings fuel) := by
  -- What a command binds has passed the check.
  refine allows_request (fun command _ => ?_) (fun _ _ => trivial) fuel
  exact binding_allows_execute fun _ _ _ _ decided => (Effect.bound_of_ofCommand decided).2

end Conduct

/-- Requests keep what each effect of their commands keeps. -/
theorem Session.invariant_afterRequests {κ : Type} [Canvas κ] {settings : Settings}
    {invariant : Session κ → Prop} {requests : List (Nat × Request)}
    (step : ∀ fuel request command, (fuel, request) ∈ requests → request.Brings command →
      ∀ session effect, invariant session →
        Effect.ofCommand settings session.store session.context command = .ok effect →
          invariant (effect.change session))
    {session : Session κ} (start : invariant session) :
    invariant (session.afterRequests settings requests) := by
  -- Each request carries the invariant on to the next one.
  have kept : (Conduct.keeping invariant).moves session
      (session.afterRequests settings requests) := by
    refine Conduct.moves_of_requests (fun fuel request member => ?_) session
    exact Conduct.keeping_allows_request (fun command brought => step fuel request command member
      brought) fuel
  exact kept start

end Plotter
