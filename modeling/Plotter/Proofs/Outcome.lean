import Plotter.Proofs.Coupling

/-! Actions write to the log without reading it, so what they do to a session can be told apart. -/

namespace Plotter.Action

variable {κ α β : Type}

/-- The machine that a run of an action leaves, however the run ends. -/
def final : EStateM.Result Halt (Machine κ) α → Machine κ
  -- The machine is there in both cases, so a failed action still leaves one.
  | .ok _ machine => machine
  | .error _ machine => machine

/-- How a run of an action ends and the session that it leaves. -/
def seen : EStateM.Result Halt (Machine κ) α → Except Halt α × Session κ
  -- Everything but the log is kept.
  | .ok value machine => (.ok value, machine.session)
  | .error halt machine => (.error halt, machine.session)

/-- A run as it is when an earlier log comes first. -/
def behind (log : Array Event) :
    EStateM.Result Halt (Machine κ) α → EStateM.Result Halt (Machine κ) α
  -- The log of a result is put in place as if the other had been there before.
  | .ok value machine => .ok value { machine with log := log ++ machine.log }
  | .error halt machine => .error halt { machine with log := log ++ machine.log }

/-- The action only adds to the log: what was written earlier never matters to it. -/
def LogBlind (action : Action κ α) : Prop :=
  -- A run from a fresh log decides every other run.
  ∀ session log, action { session, log } = behind log (action { session })

/-- A question in front of an action hands over its answer and leaves the machine alone. -/
theorem ask_bind_apply (question : Session κ → α) (next : α → Action κ β) (machine : Machine κ) :
    (ask question >>= next) machine = next (question machine.session) machine :=
  -- Asking never stops, and there is nothing that it could write.
  rfl

/-- What an action does from a session: how it ends, and the session that it leaves. -/
def outcome (action : Action κ α) (session : Session κ) : Except Halt α × Session κ :=
  -- The action starts with an empty log, which is forgotten again.
  seen (action { session })

/-- Continues from an outcome, unless it is an early stop. -/
def follow (first : Except Halt α × Session κ)
    (next : α → Session κ → Except Halt β × Session κ) : Except Halt β × Session κ :=
  -- A halt skips what would have come next and keeps the session.
  match first with
  | (.ok value, session) => next value session
  | (.error halt, session) => (.error halt, session)

/-- Continuing from a value runs the rest. -/
@[simp] theorem follow_ok (value : α) (session : Session κ)
    (next : α → Session κ → Except Halt β × Session κ) :
    follow (.ok value, session) next = next value session := rfl

/-- Continuing from an early stop changes nothing. -/
@[simp] theorem follow_error (halt : Halt) (session : Session κ)
    (next : α → Session κ → Except Halt β × Session κ) :
    follow (.error halt, session) next = (.error halt, session) := rfl

/-- Two actions in a row end exactly if the first one ends and the second one ends after it. -/
theorem follow_eq_ok_iff (first : Except Halt α × Session κ)
    (next : α → Session κ → Except Halt β × Session κ) (value : β) (after : Session κ) :
    follow first next = (.ok value, after) ↔
      ∃ given middle, first = (.ok given, middle) ∧ next given middle = (.ok value, after) := by
  -- If the first action stops, neither side holds.
  rcases first with ⟨halt | given, middle⟩
  · simp
  · constructor
    · intro ended
      exact ⟨given, middle, rfl, ended⟩
    · intro ended
      obtain ⟨_, _, same, ended⟩ := ended
      simp only [Prod.mk.injEq, Except.ok.injEq] at same
      rw [follow_ok, same.1, same.2, ended]

/-- An earlier log does not show in what is seen of a run. -/
@[simp] theorem seen_behind (log : Array Event) (result : EStateM.Result Halt (Machine κ) α) :
    seen (behind log result) = seen result := by
  -- Only the log differs, and it is not seen.
  cases result <;> rfl

/-- A run that has written nothing leaves the earlier log. -/
theorem behind_fresh (log : Array Event) (value : α) (session : Session κ) :
    behind log (.ok value { session }) = .ok value { session, log } := by
  -- A machine with an empty log takes on the log given.
  simp [behind]

/-- Two earlier logs stand in front of a run one after the other. -/
theorem behind_behind (first second : Array Event) (result : EStateM.Result Halt (Machine κ) α) :
    behind first (behind second result) = behind (first ++ second) result := by
  -- The log that was put in front last is the first one to be read.
  cases result <;> simp [behind, Array.append_assoc]

/-- A blind action does the same to a session whatever its log holds. -/
theorem LogBlind.seen_eq {action : Action κ α} (blind : LogBlind action) (machine : Machine κ) :
    seen (action machine) = outcome action machine.session := by
  -- The run from the given log is the run from a fresh one behind that log.
  have same : action machine = behind machine.log (action { session := machine.session }) :=
    blind machine.session machine.log
  rw [same, seen_behind, outcome]

/-- A blind action that goes on behind an earlier log does what it does without that log. -/
theorem LogBlind.behind_eq {action : Action κ α} (blind : LogBlind action) (log : Array Event)
    (machine : Machine κ) :
    action { machine with log := log ++ machine.log } = behind log (action machine) := by
  -- Both runs are the fresh run from the same session, behind more or less of the log.
  have whole := blind machine.session (log ++ machine.log)
  have fresh : action machine = behind machine.log (action { session := machine.session }) :=
    blind machine.session machine.log
  rw [← behind_behind, ← fresh] at whole
  exact whole

/-- A machine beside one whose log has other events in front. -/
def ahead (log : Array Event) : Coupling κ κ where
  -- Whether they run or have stopped, the logs differ by the same events.
  running machine other := other = { machine with log := log ++ machine.log }
  stopped _ machine other := other = { machine with log := log ++ machine.log }

/-- An event comes behind all that is in either of two logs. -/
theorem record_ahead {log : Array Event} {machine other : Machine κ}
    (same : other = { machine with log := log ++ machine.log }) (event : Event) :
    other.record event =
      { machine.record event with log := log ++ (machine.record event).log } := by
  subst same
  -- What stands in front of the one log stays there.
  exact congrArg (Machine.mk machine.session) Array.append_push.symm

/-- An action is blind if it goes on beside itself, whatever stands in front of the other log. -/
theorem logBlind_iff_keeps {action : Action κ α} :
    LogBlind action ↔ ∀ log, (ahead log).Keeps action action := by
  constructor
  · rintro blind log machine _ rfl
    rw [blind.behind_eq]
    cases action machine with
    | ok value left => exact .ok rfl
    | error halt left => exact .error rfl
  · intro keeps session log
    -- The machine with the log is beside one that starts with none.
    obtain ⟨value, left, right, one, two, rfl⟩ | ⟨halt, left, right, one, two, rfl⟩ :=
      (keeps log { session } { session, log } (by simp [ahead])).ends
    · rw [one, two, behind]
    · rw [one, two, behind]

namespace LogBlind

/-- Giving a value leaves the log alone. -/
@[simp] protected theorem pure (value : α) : LogBlind (Pure.pure value : Action κ α) :=
  -- The log is passed through as it is.
  logBlind_iff_keeps.mpr fun _ => .pure value

/-- Stopping leaves the log alone. -/
@[simp] protected theorem throw (halt : Halt) : LogBlind (throw halt : Action κ α) :=
  -- Stopping adds nothing to the log that was there.
  logBlind_iff_keeps.mpr fun _ => .throw id

/-- Failing leaves the log alone. -/
@[simp] protected theorem fail (error : Error) : LogBlind (fail error : Action κ α) :=
  -- Failing is stopping with an error.
  LogBlind.throw _

/-- Two blind actions in a row are blind. -/
@[simp] protected theorem bind {action : Action κ α} {next : α → Action κ β}
    (first : LogBlind action) (rest : ∀ value, LogBlind (next value)) :
    LogBlind (action >>= next) := by
  refine logBlind_iff_keeps.mpr fun log => ?_
  -- The second action goes on behind what the first one has added to either log.
  exact (logBlind_iff_keeps.mp first log).bind fun value => logBlind_iff_keeps.mp (rest value) log

/-- Adding an event only adds to the log. -/
@[simp] protected theorem emit (event : Event) : LogBlind (emit event : Action κ Unit) :=
  -- The event stands last, whatever the log was before.
  logBlind_iff_keeps.mpr fun _ _ _ same => .ok (record_ahead same event)

/-- Asking something of the session leaves the log alone. -/
@[simp] protected theorem ask (question : Session κ → α) : LogBlind (ask question) := by
  -- Asking looks at the session only.
  intro session log
  exact (behind_fresh log (question session) session).symm

/-- Changing the session leaves the log alone. -/
@[simp] protected theorem update (change : Session κ → Session κ) : LogBlind (update change) := by
  -- The change is made to the session only.
  intro session log
  exact (behind_fresh log () (change session)).symm

/-- Taking over a computation leaves the log alone. -/
@[simp] protected theorem ofExcept (result : Except Error α) :
    LogBlind (ofExcept result : Action κ α) := by
  -- A computation gives its value or fails, and neither looks at the log.
  cases result with
  | ok value => exact LogBlind.pure value
  | error error => exact LogBlind.fail error

/-- Changing the value of a blind action leaves it blind. -/
@[simp] protected theorem map {action : Action κ α} (change : α → β) (blind : LogBlind action) :
    LogBlind (change <$> action) := by
  -- Changing the value is giving another one afterwards.
  rw [← bind_pure_comp]
  exact LogBlind.bind blind fun _ => LogBlind.pure _

/-- Dropping the value of a blind action leaves it blind. -/
@[simp] protected theorem discard {action : Action κ α} (blind : LogBlind action) :
    LogBlind (discard action) :=
  -- The value is changed to nothing.
  LogBlind.map (fun _ => ()) blind

/-- Blind actions over a list are blind as a whole. -/
@[simp] protected theorem forM {step : α → Action κ Unit} (blind : ∀ item, LogBlind (step item))
    (items : List α) : LogBlind (items.forM step) := by
  -- The items come one after the other.
  induction items with
  | nil => exact LogBlind.pure _
  | cons item rest ih => exact LogBlind.bind (blind item) fun _ => ih

end LogBlind

/-- Events that stand in front of one of two logs are nothing to blocks. -/
theorem runsBlocks_ahead (log : Array Event) (bound : Nat) :
    (ahead log : Coupling κ κ).RunsBlocks bound where
  -- The logs are all that differs.
  store same := by rw [same]
  records event _ := logBlind_iff_keeps.mp (LogBlind.emit event) log

/-- The report of an error comes behind all that was in either of two logs. -/
theorem reports_ahead (log : Array Event) : (ahead log : Coupling κ κ).Reports :=
  -- A report is an event like any other.
  fun _ same => record_ahead same _

/-! How each way of building an action shows in its outcome. -/

/-- Giving a value changes nothing. -/
@[simp] theorem outcome_pure (value : α) (session : Session κ) :
    outcome (pure value : Action κ α) session = (.ok value, session) := rfl

/-- Stopping changes nothing. -/
@[simp] theorem outcome_throw (halt : Halt) (session : Session κ) :
    outcome (throw halt : Action κ α) session = (.error halt, session) := rfl

/-- Failing changes nothing. -/
@[simp] theorem outcome_fail (error : Error) (session : Session κ) :
    outcome (fail error : Action κ α) session = (.error (.failure error), session) := rfl

/-- An event does not show in the outcome. -/
@[simp] theorem outcome_emit (event : Event) (session : Session κ) :
    outcome (emit event) session = (.ok (), session) := rfl

/-- A question gives its answer and changes nothing. -/
@[simp] theorem outcome_ask (question : Session κ → α) (session : Session κ) :
    outcome (ask question) session = (.ok (question session), session) := rfl

/-- A change gives the changed session. -/
@[simp] theorem outcome_update (change : Session κ → Session κ) (session : Session κ) :
    outcome (update change) session = (.ok (), change session) := rfl

/-- A computation that gives a value goes on with it. -/
@[simp] theorem outcome_ofExcept_ok (value : α) (session : Session κ) :
    outcome (ofExcept (.ok value) : Action κ α) session = (.ok value, session) := rfl

/-- A computation that fails stops with its error. -/
@[simp] theorem outcome_ofExcept_error (error : Error) (session : Session κ) :
    outcome (ofExcept (.error error) : Action κ α) session =
      (.error (.failure error), session) := rfl

/-- The second of two actions goes on from the session that the first one leaves. -/
theorem outcome_bind {action : Action κ α} {next : α → Action κ β}
    (blind : ∀ value, LogBlind (next value)) (session : Session κ) :
    outcome (action >>= next) session =
      follow (outcome action session) fun value after => outcome (next value) after := by
  show seen (EStateM.bind action next { session }) = follow (seen (action { session })) _
  unfold EStateM.bind
  cases action { session } with
  | error halt machine => rfl
  | ok value machine =>
    -- What the first action wrote to the log does not matter to the second one.
    exact (blind value).seen_eq machine

/-- An event in front of an action does not show in the outcome. -/
@[simp] theorem outcome_emit_bind (event : Event) {next : Unit → Action κ α}
    (blind : LogBlind (next ())) (session : Session κ) :
    outcome (emit event >>= next) session = outcome (next ()) session := by
  -- The event is recorded before the next action, which does not look at it.
  rw [outcome_bind (fun _ => blind), outcome_emit, follow_ok]

/-- Changing the value of an action keeps everything else of its outcome. -/
@[simp] theorem outcome_map (change : α → β) (action : Action κ α) (session : Session κ) :
    outcome (change <$> action) session =
      follow (outcome action session) fun value after => (.ok (change value), after) := by
  -- Changing the value is giving another one afterwards.
  rw [← bind_pure_comp, outcome_bind (fun _ => LogBlind.pure _)]
  rfl

/-- A list asks for its first item and then for the others. -/
theorem outcome_forM_cons {step : α → Action κ Unit} (blind : ∀ item, LogBlind (step item))
    (item : α) (rest : List α) (session : Session κ) :
    outcome ((item :: rest).forM step) session =
      follow (outcome (step item) session) fun _ after => outcome (rest.forM step) after :=
  -- A row of items is its first item and then the others.
  outcome_bind (fun _ => LogBlind.forM blind rest) session

/-- The items of two lists are asked for one list after the other. -/
theorem outcome_forM_append {step : α → Action κ Unit} (blind : ∀ item, LogBlind (step item))
    (first second : List α) (session : Session κ) :
    outcome ((first ++ second).forM step) session =
      follow (outcome (first.forM step) session) fun _ after =>
        outcome (second.forM step) after := by
  induction first generalizing session with
  | nil => rfl
  | cons item rest ih =>
    -- Both sides start with the same item, and go on only if it ends.
    rw [List.cons_append, outcome_forM_cons blind, outcome_forM_cons blind]
    rcases outcome (step item) session with ⟨halt | value, after⟩
    · rfl
    · exact ih after

/-- A list stops early exactly at an item that stops after all the items before it ended. -/
theorem outcome_forM_error_iff {step : α → Action κ Unit} (blind : ∀ item, LogBlind (step item))
    (items : List α) (session after : Session κ) (halt : Halt) :
    outcome (items.forM step) session = (.error halt, after) ↔
      ∃ count, ∃ within : count < items.length, ∃ middle,
        outcome ((items.take count).forM step) session = (.ok (), middle) ∧
          outcome (step items[count]) middle = (.error halt, after) := by
  induction items generalizing session with
  | nil => simp
  | cons item rest ih =>
    rw [outcome_forM_cons blind]
    constructor
    · intro stopped
      rcases ran : outcome (step item) session with ⟨early | ⟨⟩, next⟩
      · -- The first item stops, with nothing before it.
        rw [ran, follow_error] at stopped
        exact ⟨0, by simp, session, rfl, ran.trans stopped⟩
      · -- The first item ends, so one of the others stops.
        rw [ran, follow_ok] at stopped
        obtain ⟨count, within, middle, ended, stops⟩ := (ih next).mp stopped
        refine ⟨count + 1, by simpa using within, middle, ?_, by simpa using stops⟩
        rw [List.take_succ_cons, outcome_forM_cons blind, ran, follow_ok]
        exact ended
    · rintro ⟨count, within, middle, ended, stops⟩
      cases count with
      | zero =>
        -- Nothing stands before the item that stops.
        obtain rfl : session = middle := by simpa using ended
        rw [List.getElem_cons_zero] at stops
        rw [stops, follow_error]
      | succ count =>
        -- The first item is among those that ended.
        rw [List.take_succ_cons, outcome_forM_cons blind] at ended
        rcases ran : outcome (step item) session with ⟨early | ⟨⟩, next⟩
        · simp [ran] at ended
        · rw [ran, follow_ok] at ended
          rw [follow_ok]
          exact (ih next).mpr ⟨count, by simpa using within, middle, ended, by simpa using stops⟩

end Plotter.Action
