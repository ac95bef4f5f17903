import Plotter.Canvas.Recording
import Plotter.Proofs.Failure
import Plotter.Proofs.Request

/-! An operand that stands for a number goes on standing for one, whatever a session is asked. -/

namespace Plotter

open Plotter.Action

namespace Variables

/-- The operand stands for a number. -/
def Resolves (store : Variables) (operand : Operand) : Prop :=
  -- Which number it is may change, as long as there is one.
  ∃ number, store.resolve operand = .ok number

/-- A name stands for a number that it spells, or for one that it is bound to. -/
theorem resolves_var_iff (store : Variables) (name : String) :
    store.Resolves (.var name) ↔
      ((Number.parse? (Text.trim name)).or (store.int? (Text.trim name))).isSome := by
  rw [Resolves, resolve, resolveToken_eq]
  -- A number is found in one of the two places, or in neither.
  cases (Number.parse? (Text.trim name)).or (store.int? (Text.trim name)) <;> simp

/-- The value is a number. -/
def IsNumber (_ : String) (value : Value) : Prop :=
  -- The name has no say in it.
  ∃ number, value = .int number

/-- Bindings to numbers leave no name without the number that it had, unless it has another one. -/
theorem Updates.int?_isSome {before after : Variables} (updates : Updates IsNumber before after)
    {name : String} (held : (before.int? name).isSome) : (after.int? name).isSome := by
  -- The induction is on the bindings, each of which is to one name.
  induction updates with
  | refl => exact held
  | tail _ last ih =>
    obtain ⟨other, _, ⟨number, rfl⟩, rfl⟩ := last
    rw [int?, get?_insert]
    by_cases same : name = other
    · -- The name itself is bound, and to a number.
      rw [if_pos same]
      rfl
    · rw [if_neg same]
      exact ih

/-- Bindings to numbers leave every operand resolved that was so before. -/
theorem Updates.resolves {before after : Variables} (updates : Updates IsNumber before after)
    {operand : Operand} (known : before.Resolves operand) : after.Resolves operand := by
  cases operand with
  | lit value => exact ⟨value, rfl⟩
  | var name =>
    rw [resolves_var_iff, Option.isSome_or, Bool.or_eq_true] at known ⊢
    -- What a name spells does not depend on the store.
    exact known.imp_right updates.int?_isSome

end Variables

/-- A condition can be decided exactly if both of its operands stand for numbers. -/
theorem Condition.exists_holds_iff (condition : Condition) (store : Variables) :
    (∃ holds, condition.holds store = .ok holds) ↔
      store.Resolves condition.left ∧ store.Resolves condition.right := by
  simp only [holds, bind_eq_ok_iff]
  -- Comparing never fails: only the operands have to be there.
  constructor
  · rintro ⟨_, lhs, left, rhs, right, -⟩
    exact ⟨⟨lhs, left⟩, ⟨rhs, right⟩⟩
  · rintro ⟨⟨lhs, left⟩, ⟨rhs, right⟩⟩
    exact ⟨_, lhs, left, rhs, right, rfl⟩

namespace Conduct

variable {κ : Type} [Canvas κ] {settings : Settings}

/-- A command binds names to numbers alone. -/
theorem numbers_allow_execute (command : Command) :
    (binding κ Variables.IsNumber).Allows (execute settings command) :=
  -- A command binds numbers and nothing else.
  binding_allows_execute fun _ _ _ _ decided => (Effect.bound_of_ofCommand decided).1

end Conduct

variable {κ : Type} [Canvas κ] {settings : Settings}

/-- Requests leave every operand resolved that was so before. -/
theorem Session.resolves_afterRequests {session : Session κ} {operand : Operand}
    (known : session.store.Resolves operand) (requests : List (Nat × Request)) :
    (session.afterRequests settings requests).store.Resolves operand := by
  -- Requests bind only numbers, and a name bound to one stays so.
  have numbers : (Conduct.binding κ Variables.IsNumber).moves session
      (session.afterRequests settings requests) := by
    refine Conduct.moves_of_requests (fun fuel request _ => ?_) session
    exact Conduct.allows_request (fun command _ => Conduct.numbers_allow_execute command)
      (fun _ _ => trivial) fuel
  exact numbers.resolves known

namespace Action

/-- Commands in order leave every condition decided that was so before. -/
theorem holds_after_executeAll {condition : Condition} {commands : List Command}
    {session after : Session κ} {first : Bool} (decided : condition.holds session.store = .ok first)
    (ran : (outcome (executeAll settings commands) session).2 = after) :
    ∃ later, condition.holds after.store = .ok later := by
  have numbers : (Conduct.binding κ Variables.IsNumber).Allows (executeAll settings commands) :=
    Conduct.allows_executeAll fun command _ => Conduct.numbers_allow_execute command
  have updates := (numbers session).1
  rw [ran] at updates
  -- Both operands go on standing for numbers.
  obtain ⟨left, right⟩ := (condition.exists_holds_iff _).mp ⟨first, decided⟩
  exact (condition.exists_holds_iff _).mpr ⟨updates.resolves left, updates.resolves right⟩

/--
A loop whose condition can be decided once fails for a command of its body or for its limit.

The command fails in a session that whole executions of the body and a part of one have led to.
-/
theorem runLoop_failure_of_decided {fuel : Nat} {condition : String} {body : List Command}
    {session after : Session κ} {first : Bool} {error : Error}
    (decided : Condition.evaluate condition session.store = .ok first)
    (failed : outcome (runLoop settings fuel condition body) session =
      (.error (.failure error), after)) :
    (∃ limit, settings.loopLimit = some limit ∧ error = .loopLimit limit) ∨
      ∃ rounds count, ∃ within : count < body.length,
        outcome (executeAll settings ((List.replicate rounds body).flatten ++ body.take count))
            session = (.ok (), after) ∧
          (outcome (execute settings body[count]) after).1 = .error (.failure error) := by
  obtain ⟨rounds, count, ran, cause, -⟩ := runLoop_failure failed
  rcases cause with ⟨within, stops⟩ | ⟨-, limited | unclear⟩
  · exact .inr ⟨rounds, count, within, ran, stops⟩
  · exact .inl limited
  · -- A condition that can be decided at first can be decided after any commands.
    cases read : Condition.parse condition with
    | error malformed =>
      rw [Condition.evaluate_of_parse_error read] at decided
      exact nomatch decided
    | ok parsed =>
      rw [Condition.evaluate_of_parse read] at decided unclear
      obtain ⟨later, again⟩ := holds_after_executeAll decided (congrArg Prod.snd ran)
      rw [again] at unclear
      exact nomatch unclear

/--
An operand that stands for a number is never lost.

Whatever a session is asked to do and however often, and whether that succeeds or fails, the operand
goes on standing for a number. So a loop whose condition can be decided at first can decide it after
any number of iterations, and has no other errors than its limit and those of the commands of its
body.
-/
theorem resolvability_never_lost (settings : Settings) (session : Session κ) :
    (∀ operand number, session.store.resolve operand = .ok number → ∀ requests,
      ∃ later, (session.afterRequests settings requests).store.resolve operand = .ok later) ∧
    ∀ condition first, Condition.evaluate condition session.store = .ok first → ∀ body,
      (∀ parsed, Condition.parse condition = .ok parsed → ∀ count middle,
        Rounds settings parsed body count session middle →
          ∃ later, parsed.holds middle.store = .ok later) ∧
      ∀ fuel error after,
        outcome (runLoop settings fuel condition body) session = (.error (.failure error), after) →
          (∃ limit, settings.loopLimit = some limit ∧ error = .loopLimit limit) ∨
            ∃ rounds count, ∃ within : count < body.length,
              outcome (executeAll settings ((List.replicate rounds body).flatten ++
                  body.take count)) session = (.ok (), after) ∧
                (outcome (execute settings body[count]) after).1 = .error (.failure error) := by
  refine ⟨?_, ?_⟩
  · intro operand number resolved requests
    exact Session.resolves_afterRequests ⟨number, resolved⟩ requests
  · intro condition first decided body
    refine ⟨?_, fun fuel error after failed => runLoop_failure_of_decided decided failed⟩
    intro parsed read count middle rounds
    rw [Condition.evaluate_of_parse read] at decided
    -- Iterations are executions of the body, one after the other.
    exact holds_after_executeAll decided (congrArg Prod.snd rounds.outcome_replicate)

/-- A countdown fails in its second iteration, and its variable still stands for a number. -/
theorem resolvability_survives_countdown :
    ∃ (session after : Session Recording) (body : List Command),
      session.store.resolve (.var "x") = .ok 2 ∧
      (session.afterRequests {} [(9, .script ["x = 0"]), (9, .loop "x > 0" body)]).store.Resolves
        (.var "x") ∧
      outcome (runLoop {} 9 "x > 0" body) session =
        (.error (.failure (.notPositive "x" 0)), after) ∧
      ∃ rounds count, ∃ within : count < body.length,
        outcome (executeAll {} ((List.replicate rounds body).flatten ++ body.take count)) session =
            (.ok (), after) ∧
          (outcome (execute {} body[count]) after).1 = .error (.failure (.notPositive "x" 0)) := by
  let session : Session Recording :=
    { Session.start {} {} with store := { entries := [("x", .int 2)] } }
  let after : Session Recording := { session with store := { entries := [("x", .int 1)] } }
  let body : List Command := [.compute "x" "x" .sub 1]
  have resolved : session.store.resolve (.var "x") = .ok 2 := by decide +kernel
  have decided : Condition.evaluate "x > 0" session.store = .ok true := by decide +kernel
  have failed : outcome (runLoop {} 9 "x > 0" body) session =
      (.error (.failure (.notPositive "x" 0)), after) := by decide +kernel
  obtain ⟨kept, loops⟩ := resolvability_never_lost {} session
  refine ⟨session, after, body, resolved, kept (.var "x") 2 resolved _, failed, ?_⟩
  -- There is no limit, so a command of the body is to blame.
  rcases (loops "x > 0" true decided body).2 9 _ after failed with ⟨_, limited, -⟩ | broken
  · exact nomatch limited
  · exact broken

end Action

end Plotter
