import Plotter.Canvas.Picture
import Plotter.Canvas.Recording
import Plotter.Proofs.Request

/-! Sessions that can come about, and what is true of the variables of every one of them. -/

namespace Plotter

open Plotter.Action

/--
The sessions that can come about with their settings.

A session starts without variables. It may be asked to do anything, any number of times, and each
request may succeed, fail or be given up for lack of fuel. Variables may be assigned from outside,
and the store of one session may take the place of another's, whatever the two of them draw on.
-/
inductive Reachable : {κ : Type} → [Canvas κ] → Settings → Session κ → Prop
  /-- A new session has no variables. -/
  | start {κ : Type} [Canvas κ] (settings : Settings) (canvas : κ) :
      Reachable settings (.start settings canvas)
  /-- A session answers a request, or fails to. -/
  | request {κ : Type} [Canvas κ] {settings : Settings} {session : Session κ}
      (reached : Reachable settings session) (fuel : Nat) (request : Request) :
      Reachable settings (outcome (request.action settings fuel) session).2
  /-- A variable is assigned, or the assignment is refused. -/
  | assign {κ : Type} [Canvas κ] {settings : Settings} {session : Session κ}
      (reached : Reachable settings session) (name : String) (value : Value) :
      Reachable settings (outcome (assign name value) session).2
  /-- The store of another session takes the place of the session's own. -/
  | handOver {κ ι : Type} [Canvas κ] [Canvas ι] {settings others : Settings}
      {session : Session κ} {other : Session ι} (reached : Reachable settings session)
      (taken : Reachable others other) :
      Reachable settings { session with store := other.store }

namespace Reachable

variable {κ : Type} [Canvas κ] {settings : Settings}

/-- A request changes the variables by checked bindings alone. -/
theorem request_updates (settings : Settings) (session : Session κ) (fuel : Nat)
    (request : Request) :
    Variables.Updates (Variables.check · · = .ok ()) session.store
      (outcome (request.action settings fuel) session).2.store :=
  -- How the request ends does not matter for that.
  (Conduct.binding_allows_request fuel request session).1

omit [Canvas κ] in
/-- An assignment changes the variables by checked bindings alone. -/
theorem assign_updates (session : Session κ) (name : String) (value : Value) :
    Variables.Updates (Variables.check · · = .ok ()) session.store
      (outcome (Action.assign name value) session).2.store :=
  -- A direct assignment makes the same check.
  (Conduct.binding_allows_assign name value session).1

/-- Every session that can come about has a sound store. -/
theorem sound {session : Session κ} (reached : Reachable settings session) :
    session.store.Sound := by
  -- The induction is on how the session came about; a handover brings a store that is sound.
  induction reached with
  | start settings canvas => exact Variables.sound_empty
  | request _ fuel request ih => exact (request_updates _ _ fuel request).sound ih
  | assign _ name value ih => exact (assign_updates _ name value).sound ih
  | handOver _ _ _ ih => exact ih

/--
The store of every session that can come about has identifiers for names, each of them once, and
only numbers above zero and texts that are not empty. Whatever the session is asked to do next and
whatever is assigned to it, every name that is bound stays bound.
-/
theorem store_invariant {session : Session κ} (reached : Reachable settings session) :
    session.store.names.Nodup ∧
    (∀ name value, (name, value) ∈ session.store.entries →
      Identifier.Spelled name ∧ value.Storable) ∧
    ∀ name, (session.store.get? name).isSome →
      (∀ fuel request,
        ((outcome (Request.action settings fuel request) session).2.store.get? name).isSome) ∧
      ∀ other value, ((outcome (Action.assign other value) session).2.store.get? name).isSome := by
  -- How the session was reached has been folded into what is sound about its store.
  have whole := reached.sound
  refine ⟨whole.nodup, ?_, ?_⟩
  · intro name value member
    exact (Variables.check_eq_ok_iff name value).mp (whole.checked name value member)
  · intro name bound
    refine ⟨fun fuel request => ?_, fun other value => ?_⟩
    · exact (request_updates settings session fuel request).bound bound
    · exact (assign_updates session other value).bound bound

/-- A loop fails on the way to zero, and its variable lives on in a session on another canvas. -/
theorem store_invariant_handed_over :
    ∃ (first : Session Recording) (second : Session Picture),
      Reachable {} first ∧ first.store = { entries := [("x", .int 1)] } ∧
      Reachable {} second ∧ second.store = first.store ∧ second.store.names.Nodup ∧
      ((outcome (Action.assign "x" (.int 0)) second).2.store.get? "x").isSome := by
  -- A script with a loop that fails leaves one variable, which the second session takes over.
  obtain ⟨first, reached, left⟩ : ∃ first : Session Recording, Reachable {} first ∧
      first.store = { entries := [("x", .int 1)] } :=
    ⟨_, .request (.start {} {}) 9 (.script ["x = 2", "while x > 0", "x = x - 1", "endwhile"]),
      by decide +kernel⟩
  let fresh : Session Picture := Session.start {} { size := ⟨8, 8⟩, background := .slategray }
  have taken : Reachable {} { fresh with store := first.store } := .handOver (.start {} _) reached
  obtain ⟨once, -, stays⟩ := store_invariant taken
  have bound : (first.store.get? "x").isSome := by
    rw [left]
    rfl
  exact ⟨first, _, reached, left, taken, rfl, once, (stays "x" bound).2 "x" (.int 0)⟩

end Reachable

end Plotter
