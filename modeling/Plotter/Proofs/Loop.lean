import Plotter.Proofs.Execute

/-! Loops as sequences of complete iterations, and the four ways in which they come to an end. -/

namespace Plotter

namespace Action

variable {κ : Type}

/-- Deciding a condition leaves the log alone. -/
@[simp] theorem decideCondition_logBlind (condition : Condition) :
    LogBlind (decideCondition condition : Action κ Bool) :=
  -- The store is asked and the answer is computed from it, both without the log.
  LogBlind.bind (LogBlind.ask _) fun _ => LogBlind.ofExcept _

/-- Deciding a condition changes nothing. -/
theorem outcome_decideCondition (condition : Condition) (session : Session κ) :
    outcome (decideCondition condition) session =
      match condition.holds session.store with
      | .ok holds => (.ok holds, session)
      | .error error => (.error (.failure error), session) := by
  rw [decideCondition, outcome_bind (fun _ => LogBlind.ofExcept _), outcome_ask, follow_ok]
  -- A comparison only reads, so the session stays either way.
  cases condition.holds session.store <;> rfl

/-- A loop stops with an error only if there is a limit, and the error names the limit. -/
theorem exhausted_eq_failure {settings : Settings} {error : Error}
    (reason : exhausted settings = .failure error) :
    ∃ limit, settings.loopLimit = some limit ∧ error = .loopLimit limit := by
  unfold exhausted at reason
  -- Without a limit of its own, a loop runs out of fuel and does not fail.
  cases bound : settings.loopLimit with
  | none => simp [bound] at reason
  | some limit =>
    simp only [bound, Halt.failure.injEq] at reason
    exact ⟨limit, rfl, reason.symm⟩

/-- Stopping a loop leaves the log alone. -/
@[simp] theorem stopLoop_logBlind (settings : Settings) :
    LogBlind (stopLoop settings : Action κ Nat) := by
  -- With a limit it stops and says so, without one it only stops.
  unfold stopLoop
  cases settings.loopLimit <;> simp

/-- Stopping a loop changes nothing. -/
@[simp] theorem outcome_stopLoop (settings : Settings) (session : Session κ) :
    outcome (stopLoop settings) session = (.error (exhausted settings), session) := by
  -- The event of a limited loop leaves no trace in the outcome.
  unfold stopLoop exhausted
  cases settings.loopLimit <;> rfl

/-- A loop that has decided its condition goes on, or ends and only adds that to the log. -/
theorem decided_logBlind {goesOn : Action κ Nat} (blind : LogBlind goesOn) (condition : Condition)
    (done : Nat) (holds : Bool) :
    LogBlind (if holds = true then goesOn else
      emit (.loopFinished condition done) >>= fun _ => pure done) := by
  -- Leaving the loop is one event and the count; going on is blind by assumption.
  cases holds with
  | false => exact LogBlind.bind (LogBlind.emit _) fun _ => LogBlind.pure _
  | true => exact blind

variable [Canvas κ]

/-- An iteration only adds to the log if the iterations after it do. -/
theorem iteration_logBlind {rest : Action κ Nat} (blind : LogBlind rest) (settings : Settings)
    (event : Event) (body : List Command) :
    LogBlind (emit event >>= fun _ => executeAll settings body >>= fun _ => rest) :=
  -- A round is an event, the body and then the rest.
  LogBlind.bind (LogBlind.emit _) fun _ =>
    LogBlind.bind (executeAll_logBlind settings body) fun _ => blind

/-- Going on with a loop only adds to the log. -/
@[simp] theorem iterate_logBlind (settings : Settings) (condition : Condition)
    (body : List Command) (allowed done : Nat) :
    LogBlind (iterate settings condition body allowed done : Action κ Nat) := by
  refine logBlind_iff_keeps.mpr fun log => ?_
  -- An iteration may be counted as far as those that are left go.
  exact Coupling.keeps_iterate (runsBlocks_ahead log (done + allowed)) (fun same _ => same)
    (fun same => same) (logBlind_iff_keeps.mp (executeAll_logBlind settings body) log) allowed done
    (Nat.le_refl _)

/-- Running a loop only adds to the log. -/
@[simp] theorem runLoop_logBlind (settings : Settings) (fuel : Nat) (condition : String)
    (body : List Command) : LogBlind (runLoop settings fuel condition body : Action κ Nat) :=
  -- Behind reading its condition, a loop is its iterations.
  LogBlind.bind (LogBlind.ofExcept _) fun parsed => iterate_logBlind settings parsed body _ 0

/-- The body of a branch, if it is taken, only adds to the log. -/
theorem taken_logBlind (settings : Settings) (body : List Command) (taken : Bool) :
    LogBlind (do
      if taken then executeAll settings body
      return taken : Action κ Bool) := by
  -- Either the body is carried out or nothing is.
  cases taken <;> simp

/-- A branch that has decided its condition only adds to the log. -/
theorem branched_logBlind (settings : Settings) (body : List Command) (condition : Condition)
    (taken : Bool) :
    LogBlind (do
      emit (.branched condition taken)
      if taken then executeAll settings body
      return taken : Action κ Bool) :=
  -- The event comes first and is not looked at.
  LogBlind.bind (LogBlind.emit _) fun _ => taken_logBlind settings body taken

/-- Running a branch only adds to the log. -/
@[simp] theorem runBranch_logBlind (settings : Settings) (condition : String)
    (body : List Command) : LogBlind (runBranch settings condition body : Action κ Bool) :=
  -- Reading and deciding the condition come before the branch is taken or not.
  LogBlind.bind (LogBlind.ofExcept _) fun parsed =>
    LogBlind.bind (decideCondition_logBlind parsed) (branched_logBlind settings body parsed)

/-- Running a block only adds to the log. -/
@[simp] theorem runBlock_logBlind (settings : Settings) (fuel : Nat) (block : Block) :
    LogBlind (runBlock settings fuel block : Action κ Unit) := by
  -- Each kind of block has been dealt with above.
  unfold runBlock
  cases block.kind <;> simp

/-- A loop decides its condition, and only then looks at the iterations that it may have. -/
theorem outcome_iterate_zero (settings : Settings) (condition : Condition) (body : List Command)
    (done : Nat) (session : Session κ) :
    outcome (iterate settings condition body 0 done) session =
      match condition.holds session.store with
      | .ok true => (.error (exhausted settings), session)
      | .ok false => (.ok done, session)
      | .error error => (.error (.failure error), session) := by
  rw [iterate, outcome_bind (decided_logBlind (stopLoop_logBlind settings) condition done),
    outcome_decideCondition]
  -- The condition is still asked, and only a round that it would start is refused.
  rcases condition.holds session.store with error | (_ | _) <;> simp

/-- A loop with an iteration left carries out its body and goes on. -/
theorem outcome_iterate_succ (settings : Settings) (condition : Condition) (body : List Command)
    (allowed done : Nat) (session : Session κ) :
    outcome (iterate settings condition body (allowed + 1) done) session =
      match condition.holds session.store with
      | .ok true =>
        follow (outcome (executeAll settings body) session) fun _ after =>
          outcome (iterate settings condition body allowed (done + 1)) after
      | .ok false => (.ok done, session)
      | .error error => (.error (.failure error), session) := by
  have rest : LogBlind (iterate settings condition body allowed (done + 1) : Action κ Nat) :=
    iterate_logBlind settings condition body allowed (done + 1)
  have goesOn := LogBlind.bind (executeAll_logBlind settings body) fun _ => rest
  have iteration := iteration_logBlind rest settings (.iteration condition (done + 1)) body
  -- What the loop adds to the log, its count included, does not show in the outcome.
  rw [iterate, outcome_bind (decided_logBlind iteration condition done), outcome_decideCondition]
  rcases condition.holds session.store with error | (_ | _)
  · rfl
  · simp
  · rw [follow_ok, if_pos rfl, outcome_emit_bind _ goesOn, outcome_bind fun _ => rest]

/-- A loop whose condition is malformed fails, any other one starts to count at zero. -/
theorem outcome_runLoop (settings : Settings) (fuel : Nat) (condition : String)
    (body : List Command) (session : Session κ) :
    outcome (runLoop settings fuel condition body) session =
      match Condition.parse condition with
      | .ok parsed =>
        outcome (iterate settings parsed body (settings.loopLimit.getD fuel) 0) session
      | .error error => (.error (.failure error), session) := by
  rw [runLoop, outcome_bind (fun parsed => iterate_logBlind settings parsed body _ 0)]
  -- A condition that cannot be read stops the loop before its first round.
  cases Condition.parse condition <;> simp

/-- A branch decides its condition once, and carries out its body if the condition holds. -/
theorem outcome_runBranch (settings : Settings) (condition : String) (body : List Command)
    (session : Session κ) :
    outcome (runBranch settings condition body) session =
      match Condition.evaluate condition session.store with
      | .ok true =>
        follow (outcome (executeAll settings body) session) fun _ after => (.ok true, after)
      | .ok false => (.ok false, session)
      | .error error => (.error (.failure error), session) := by
  unfold runBranch
  -- A condition that cannot be read and one that cannot be decided look the same from outside.
  rw [outcome_bind fun parsed => LogBlind.bind (decideCondition_logBlind parsed)
    (branched_logBlind settings body parsed)]
  cases read : Condition.parse condition with
  | error malformed =>
    rw [Condition.evaluate_of_parse_error read]
    rfl
  | ok parsed =>
    rw [Condition.evaluate_of_parse read, outcome_ofExcept_ok, follow_ok,
      outcome_bind (branched_logBlind settings body parsed), outcome_decideCondition]
    rcases parsed.holds session.store with error | (_ | _) <;> simp

/-- One complete iteration: the condition holds, and the whole body is carried out. -/
structure Round (settings : Settings) (condition : Condition) (body : List Command)
    (before after : Session κ) : Prop where
  /-- The condition is true at the start. -/
  holds : condition.holds before.store = .ok true
  /-- Every command of the body is carried out. -/
  ended : outcome (executeAll settings body) before = (.ok (), after)

/-- A number of complete iterations in a row. -/
inductive Rounds (settings : Settings) (condition : Condition) (body : List Command) :
    Nat → Session κ → Session κ → Prop
  /-- No iteration changes nothing. -/
  | none (session : Session κ) : Rounds settings condition body 0 session session
  /-- An iteration comes before the others. -/
  | next {count : Nat} {before middle after : Session κ}
      (first : Round settings condition body before middle)
      (rest : Rounds settings condition body count middle after) :
      Rounds settings condition body (count + 1) before after

/-- Iterations are complete under other settings as well, if each of them is. -/
theorem Rounds.imp {settings others : Settings} {condition : Condition} {body : List Command}
    (each : ∀ before after : Session κ, Round settings condition body before after →
      Round others condition body before after) {count : Nat} {before after : Session κ}
    (rounds : Rounds settings condition body count before after) :
    Rounds others condition body count before after := by
  -- Each round is exchanged for its counterpart, between the same sessions.
  induction rounds with
  | none session => exact .none session
  | next first rest ih => exact .next (each _ _ first) ih

/-- Iterations carry out the body once for each of them. -/
theorem Rounds.outcome_replicate {settings : Settings} {condition : Condition}
    {body : List Command} {count : Nat} {before after : Session κ}
    (rounds : Rounds settings condition body count before after) :
    outcome (executeAll settings (List.replicate count body).flatten) before = (.ok (), after) := by
  induction rounds with
  | none session => rfl
  | next first rest ih =>
    -- The first copy of the body is the first iteration.
    rw [List.replicate_succ, List.flatten_cons, outcome_executeAll_append, first.ended, follow_ok]
    exact ih

/-- A loop that may have more iterations goes on from where the first of them end. -/
theorem Rounds.outcome_iterate {settings : Settings} {condition : Condition}
    {body : List Command} {count : Nat} {before after : Session κ}
    (rounds : Rounds settings condition body count before after) (allowed done : Nat) :
    outcome (iterate settings condition body (count + allowed) done) before =
      outcome (iterate settings condition body allowed (done + count)) after := by
  induction rounds generalizing done with
  | none session => rw [Nat.zero_add, Nat.add_zero]
  | @next count before middle after first rest ih =>
    -- One iteration is taken from those that are allowed and added to those that are done.
    have shifted : count + 1 + allowed = count + allowed + 1 := by omega
    have counted : done + (count + 1) = done + 1 + count := by omega
    rw [shifted, counted, outcome_iterate_succ, first.holds]
    simp only [first.ended, follow_ok]
    exact ih (done + 1)

/-- The ways in which a loop comes to its end after complete iterations that lead to `middle`. -/
inductive LoopEnd (settings : Settings) (condition : Condition) (body : List Command)
    (allowed count done : Nat) (middle : Session κ) : Except Halt Nat × Session κ → Prop
  /-- The condition does not hold any more. -/
  | finished (fails : condition.holds middle.store = .ok false) :
      LoopEnd settings condition body allowed count done middle (.ok (done + count), middle)
  /-- The condition cannot be decided. -/
  | undecided {error : Error} (unclear : condition.holds middle.store = .error error) :
      LoopEnd settings condition body allowed count done middle (.error (.failure error), middle)
  /-- The condition holds, but there have been all the iterations that are allowed. -/
  | stopped {halt : Halt} (used : count = allowed)
      (holds : condition.holds middle.store = .ok true) (reason : exhausted settings = halt) :
      LoopEnd settings condition body allowed count done middle (.error halt, middle)
  /-- The condition holds, and a command of the body fails. -/
  | broken {halt : Halt} {after : Session κ} (room : count < allowed)
      (holds : condition.holds middle.store = .ok true)
      (stops : outcome (executeAll settings body) middle = (.error halt, after)) :
      LoopEnd settings condition body allowed count done middle (.error halt, after)

/-- A loop has some complete iterations and then comes to its end in one of the four ways. -/
theorem iterate_ends (settings : Settings) (condition : Condition) (body : List Command)
    (allowed done : Nat) (session : Session κ) :
    ∃ count middle, count ≤ allowed ∧ Rounds settings condition body count session middle ∧
      LoopEnd settings condition body allowed count done middle
        (outcome (iterate settings condition body allowed done) session) := by
  -- The induction is on the iterations that are still allowed.
  induction allowed generalizing done session with
  | zero =>
    refine ⟨0, session, Nat.le_refl 0, .none session, ?_⟩
    rw [outcome_iterate_zero]
    rcases decided : condition.holds session.store with error | (_ | _)
    · exact .undecided decided
    · exact .finished decided
    · exact .stopped rfl decided rfl
  | succ allowed ih =>
    rw [outcome_iterate_succ]
    rcases decided : condition.holds session.store with error | (_ | _)
    · exact ⟨0, session, Nat.zero_le _, .none session, .undecided decided⟩
    · exact ⟨0, session, Nat.zero_le _, .none session, .finished decided⟩
    · rcases ran : outcome (executeAll settings body) session with ⟨halt | ⟨⟩, after⟩
      · -- The first iteration breaks off.
        exact ⟨0, session, Nat.zero_le _, .none session, .broken (by omega) decided ran⟩
      · -- The first iteration is complete, and the rest of the loop ends as it does on its own.
        obtain ⟨count, middle, within, rounds, ends⟩ := ih (done + 1) after
        have counted : done + 1 + count = done + (count + 1) := by omega
        refine ⟨count + 1, middle, by omega, .next ⟨decided, ran⟩ rounds, ?_⟩
        simp only [follow_ok]
        generalize outcome (iterate settings condition body allowed (done + 1)) after = left at ends
        cases ends with
        | finished fails => exact counted ▸ .finished fails
        | undecided unclear => exact .undecided unclear
        | stopped used holds reason => exact .stopped (by omega) holds reason
        | broken room holds stops => exact .broken (by omega) holds stops

/-- Complete iterations and the end that follows them decide the outcome of a loop. -/
theorem LoopEnd.outcome_iterate {settings : Settings} {condition : Condition}
    {body : List Command} {allowed count done : Nat} {session middle : Session κ}
    {result : Except Halt Nat × Session κ}
    (ends : LoopEnd settings condition body allowed count done middle result)
    (rounds : Rounds settings condition body count session middle) (within : count ≤ allowed) :
    outcome (iterate settings condition body allowed done) session = result := by
  obtain ⟨left, rfl⟩ := Nat.exists_eq_add_of_le within
  -- After the iterations, what is left of the loop is decided in one step.
  rw [rounds.outcome_iterate]
  cases left with
  | zero =>
    rw [outcome_iterate_zero]
    cases ends with
    | finished fails => rw [fails]
    | undecided unclear => rw [unclear]
    | stopped used holds reason => rw [holds, reason]
    | broken room holds stops => omega
  | succ left =>
    rw [outcome_iterate_succ]
    cases ends with
    | finished fails => rw [fails]
    | undecided unclear => rw [unclear]
    | stopped used holds reason => omega
    | broken room holds stops => simp only [holds, stops, follow_error]

end Action

end Plotter
