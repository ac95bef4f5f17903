import Plotter.Canvas.Recording
import Plotter.Proofs.Loop

/-! What a failure leaves behind: exactly the commands that were carried out before it. -/

namespace Plotter.Action

variable {κ : Type} [Canvas κ]

/-- A condition that cannot be evaluated keeps a loop from its first iteration. -/
theorem Rounds.eq_zero_of_evaluate_error {settings : Settings} {condition : String}
    {parsed : Condition} {body : List Command} {count : Nat} {before after : Session κ}
    (rounds : Rounds settings parsed body count before after)
    (read : Condition.parse condition = .ok parsed) {error : Error}
    (unclear : Condition.evaluate condition before.store = .error error) : count = 0 := by
  cases rounds with
  | none session => rfl
  | next first rest =>
    -- The first iteration has found the condition true.
    rw [Condition.evaluate_of_parse read, first.holds] at unclear
    cases unclear

/--
A loop that fails has carried out its body some number of times and then a part of it.

The part ends before the command that fails; it is empty if no command of the body fails.
-/
theorem runLoop_failure {settings : Settings} {fuel : Nat} {condition : String}
    {body : List Command} {session after : Session κ} {error : Error}
    (failed : outcome (runLoop settings fuel condition body) session =
      (.error (.failure error), after)) :
    ∃ rounds count,
      outcome (executeAll settings ((List.replicate rounds body).flatten ++ body.take count))
          session = (.ok (), after) ∧
        ((∃ within : count < body.length,
            (outcome (execute settings body[count]) after).1 = .error (.failure error)) ∨
          count = 0 ∧ ((∃ limit, settings.loopLimit = some limit ∧ error = .loopLimit limit) ∨
            Condition.evaluate condition after.store = .error error)) ∧
        ∀ reason, Condition.evaluate condition session.store = .error reason → rounds = 0 := by
  rw [outcome_runLoop] at failed
  cases read : Condition.parse condition with
  | error malformed =>
    -- A malformed condition is found before anything is carried out.
    simp only [read, Prod.mk.injEq, Except.error.injEq, Halt.failure.injEq] at failed
    obtain ⟨rfl, rfl⟩ := failed
    exact ⟨0, 0, rfl, .inr ⟨rfl, .inr (Condition.evaluate_of_parse_error read _)⟩, fun _ _ => rfl⟩
  | ok parsed =>
    simp only [read] at failed
    obtain ⟨rounds, middle, -, complete, ends⟩ :=
      iterate_ends settings parsed body (settings.loopLimit.getD fuel) 0 session
    have first : ∀ reason, Condition.evaluate condition session.store = .error reason →
        rounds = 0 := fun reason unclear => complete.eq_zero_of_evaluate_error read unclear
    have whole := complete.outcome_replicate
    rw [failed] at ends
    cases ends with
    | undecided unclear =>
      refine ⟨rounds, 0, by simpa using whole, .inr ⟨rfl, .inr ?_⟩, first⟩
      rw [Condition.evaluate_of_parse read, unclear]
    | stopped used holds reason =>
      exact ⟨rounds, 0, by simpa using whole, .inr ⟨rfl, .inl (exhausted_eq_failure reason)⟩,
        first⟩
    | broken room holds stops =>
      -- The body fails at one of its commands, after the commands before it.
      obtain ⟨count, within, ended, stops⟩ := (outcome_executeAll_error_iff ..).mp stops
      refine ⟨rounds, count, ?_, .inl ⟨within, stops⟩, first⟩
      rw [outcome_executeAll_append, whole, follow_ok]
      exact ended

/--
A failure leaves exactly the session of the commands that were carried out before it.

A command that fails changes nothing. Commands in order fail where one of them fails in the
session that the commands before it lead to, which is the session that is left. A loop that fails
leaves whole executions of its body and then a part of one: up to the command that fails, or
nothing if the loop has reached its limit or its condition cannot be evaluated.
-/
theorem failure_leaves_executed_part (settings : Settings) (session : Session κ) :
    (∀ command halt after,
      outcome (execute settings command) session = (.error halt, after) → after = session) ∧
    (∀ commands error after,
      outcome (executeAll settings commands) session = (.error (.failure error), after) ↔
        ∃ count, ∃ within : count < commands.length,
          outcome (executeAll settings (commands.take count)) session = (.ok (), after) ∧
            (outcome (execute settings commands[count]) after).1 = .error (.failure error)) ∧
    (∀ fuel condition body error after,
      outcome (runLoop settings fuel condition body) session = (.error (.failure error), after) →
        ∃ rounds count,
          outcome (executeAll settings ((List.replicate rounds body).flatten ++ body.take count))
              session = (.ok (), after) ∧
            ((∃ within : count < body.length,
                (outcome (execute settings body[count]) after).1 = .error (.failure error)) ∨
              count = 0 ∧ ((∃ limit, settings.loopLimit = some limit ∧ error = .loopLimit limit) ∨
                Condition.evaluate condition after.store = .error error)) ∧
            ∀ reason, Condition.evaluate condition session.store = .error reason → rounds = 0) := by
  -- A command, a list and a loop: the later two are built on what the one before says.
  refine ⟨?_, ?_, ?_⟩
  · intro command halt after stopped
    exact (outcome_execute_error stopped).2
  · intro commands error after
    exact outcome_executeAll_error_iff settings commands session after (.failure error)
  · intro fuel condition body error after failed
    exact runLoop_failure failed

/-- A countdown breaks off in its third iteration, between the two commands of its body. -/
theorem failed_countdown_leaves_part :
    ∃ (session after : Session Recording) (body : List Command),
      outcome (runLoop {} 9 "x > 0" body) session =
        (.error (.failure (.notPositive "y" 0)), after) ∧
      ∃ rounds count,
        outcome (executeAll {} ((List.replicate rounds body).flatten ++ body.take count))
          session = (.ok (), after) := by
  let session : Session Recording :=
    { Session.start {} {} with store := { entries := [("x", .int 5)] } }
  let after : Session Recording :=
    { session with store := { entries := [("x", .int 2), ("y", .int 1)] } }
  let body : List Command := [.compute "x" "x" .sub 1, .compute "y" "x" .sub 2]
  -- The second round fails at its second command, with its first already carried out.
  have failed : outcome (runLoop {} 9 "x > 0" body) session =
      (.error (.failure (.notPositive "y" 0)), after) := by decide +kernel
  obtain ⟨rounds, count, carried, -⟩ :=
    (failure_leaves_executed_part {} session).2.2 9 "x > 0" body _ after failed
  exact ⟨session, after, body, failed, rounds, count, carried⟩

end Plotter.Action
