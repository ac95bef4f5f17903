import Mathlib.Data.Prod.Basic
import Plotter.Canvas.Recording
import Plotter.Proofs.Conduct
import Plotter.Proofs.Effect
import Plotter.Proofs.Log

/-! The limit of a loop: it stops exactly the loops that would go on, and changes no others. -/

namespace Plotter

/-- The same settings with another limit of loops, or with none. -/
def Settings.withLimit (settings : Settings) (limit : Option Nat) : Settings :=
  -- All other settings stay, so only loops can behave differently.
  { settings with loopLimit := limit }

/-- The limit is the one that is asked for. -/
@[simp] theorem Settings.loopLimit_withLimit (settings : Settings) (limit : Option Nat) :
    (settings.withLimit limit).loopLimit = limit := rfl

/-- The limit of loops has no part in what a single command does. -/
theorem Effect.ofCommand_withLimit (settings : Settings) (limit : Option Nat) (store : Variables)
    (context : Context) (command : Command) :
    ofCommand (settings.withLimit limit) store context command =
      ofCommand settings store context command := by
  -- No command reads the limit.
  cases command <;> rfl

namespace Action

variable {κ : Type} [Canvas κ] {settings : Settings}

/-- The limit of loops has no part in carrying out commands. -/
theorem executeAll_withLimit (settings : Settings) (limit : Option Nat) (commands : List Command) :
    (executeAll (settings.withLimit limit) commands : Action κ Unit) =
      executeAll settings commands := by
  -- Each command is the same action under both settings.
  have each : ∀ command, (execute (settings.withLimit limit) command : Action κ Unit) =
      execute settings command := by
    intro command
    simp only [execute, Effect.ofCommand_withLimit]
  rw [executeAll_eq_forM, executeAll_eq_forM, funext each]

/-- Commands in order do not fail because of the limit of a loop. -/
theorem executeAll_ne_loopLimit {commands : List Command} {session after : Session κ}
    {error : Error}
    (failed : outcome (executeAll settings commands) session = (.error (.failure error), after))
    (limit : Nat) : error ≠ .loopLimit limit := by
  -- The error is that of one command, which has been decided without the limit.
  obtain ⟨count, within, -, stops⟩ := (outcome_executeAll_error_iff ..).mp failed
  rw [outcome_execute] at stops
  split at stops
  · cases stops
  · rename_i reason decided
    simp only [Except.error.injEq, Halt.failure.injEq] at stops
    exact stops ▸ Effect.ofCommand_ne_loopLimit decided limit

/-- The limit of loops has no part in a complete iteration. -/
theorem round_withLimit_iff {condition : Condition} {body : List Command}
    {before after : Session κ} (limit : Option Nat) :
    Round (settings.withLimit limit) condition body before after ↔
      Round settings condition body before after := by
  -- A round asks the condition and carries out the body, and neither looks at the limit.
  constructor
  · rintro ⟨holds, ended⟩
    rw [executeAll_withLimit] at ended
    exact ⟨holds, ended⟩
  · rintro ⟨holds, ended⟩
    rw [← executeAll_withLimit settings limit] at ended
    exact ⟨holds, ended⟩

/-- The limit of loops has no part in complete iterations in a row. -/
theorem rounds_withLimit_iff {condition : Condition} {body : List Command} {count : Nat}
    {before after : Session κ} (limit : Option Nat) :
    Rounds (settings.withLimit limit) condition body count before after ↔
      Rounds settings condition body count before after := by
  -- Round by round, either way.
  constructor
  · exact Rounds.imp fun _ _ => (round_withLimit_iff limit).mp
  · exact Rounds.imp fun _ _ => (round_withLimit_iff limit).mpr

/-- An end that is not for lack of iterations is the same with more of them allowed. -/
theorem LoopEnd.withLimit {condition : Condition} {body : List Command}
    {allowed higher count done : Nat} {middle : Session κ} {result : Except Halt Nat × Session κ}
    (ends : LoopEnd settings condition body allowed count done middle result)
    (other : result.1 ≠ .error (exhausted settings)) (more : allowed ≤ higher)
    (limit : Option Nat) :
    LoopEnd (settings.withLimit limit) condition body higher count done middle result := by
  cases ends with
  | finished fails => exact .finished fails
  | undecided unclear => exact .undecided unclear
  -- This is the one end that depends on the limit, and it is ruled out.
  | stopped used holds reason => exact (other (by rw [reason])).elim
  | broken room holds stops =>
    exact .broken (by omega) holds (by rw [executeAll_withLimit, stops])

/-- A loop that does not need more iterations than it may have ends in the same way with more. -/
theorem outcome_iterate_withLimit {condition : Condition} {body : List Command}
    {allowed higher done : Nat} {session : Session κ}
    (other : (outcome (iterate settings condition body allowed done) session).1 ≠
      .error (exhausted settings)) (more : allowed ≤ higher) (limit : Option Nat) :
    outcome (iterate (settings.withLimit limit) condition body higher done) session =
      outcome (iterate settings condition body allowed done) session := by
  obtain ⟨count, middle, within, rounds, ends⟩ :=
    iterate_ends settings condition body allowed done session
  -- The iterations and the end that follows them are there under the other limit as well.
  exact (ends.withLimit other more limit).outcome_iterate
    ((rounds_withLimit_iff limit).mpr rounds) (by omega)

/-- The limit stops a loop after that many complete iterations, if the condition still holds. -/
theorem outcome_iterate_eq_loopLimit_iff {condition : Condition} {body : List Command}
    {limit done : Nat} {session after : Session κ} (bound : settings.loopLimit = some limit) :
    outcome (iterate settings condition body limit done) session =
        (.error (.failure (.loopLimit limit)), after) ↔
      Rounds settings condition body limit session after ∧
        condition.holds after.store = .ok true := by
  have reason : exhausted settings = .failure (.loopLimit limit) := by
    rw [exhausted, bound]
  constructor
  · intro stopped
    obtain ⟨count, middle, within, rounds, ends⟩ :=
      iterate_ends settings condition body limit done session
    rw [stopped] at ends
    -- Neither conditions nor commands have this error, so the loop has run out of iterations.
    cases ends with
    | undecided unclear =>
      obtain ⟨_, -, same, -⟩ := Condition.holds_error unclear
      exact nomatch same
    | stopped used holds _ => exact ⟨used ▸ rounds, holds⟩
    | broken room holds stops => exact (executeAll_ne_loopLimit stops limit rfl).elim
  · rintro ⟨rounds, holds⟩
    exact (LoopEnd.stopped rfl holds reason).outcome_iterate rounds (Nat.le_refl limit)

/-- A loop that comes to its end has had no more iterations than its limit. -/
theorem count_le_of_outcome_runLoop {limit fuel count : Nat} {condition : String}
    {body : List Command} {session after : Session κ}
    (finished : outcome (runLoop (settings.withLimit (some limit)) fuel condition body) session =
      (.ok count, after)) : count ≤ limit := by
  rw [outcome_runLoop] at finished
  cases read : Condition.parse condition with
  | error malformed => simp [read] at finished
  | ok parsed =>
    simp only [read, Settings.loopLimit_withLimit, Option.getD_some] at finished
    obtain ⟨rounds, middle, within, -, ends⟩ :=
      iterate_ends (settings.withLimit (some limit)) parsed body limit 0 session
    -- A loop gives its count only if the condition has come to fail.
    rw [finished] at ends
    cases ends with
    | finished fails => omega

/-- A loop that its limit does not stop has the same outcome with any limit that allows more. -/
theorem outcome_runLoop_withLimit {limit fuel : Nat} {condition : String} {body : List Command}
    {session : Session κ}
    (other : (outcome (runLoop (settings.withLimit (some limit)) fuel condition body) session).1 ≠
      .error (.failure (.loopLimit limit)))
    {bound : Option Nat} {left : Nat} (more : limit ≤ bound.getD left) :
    outcome (runLoop (settings.withLimit bound) left condition body) session =
      outcome (runLoop (settings.withLimit (some limit)) fuel condition body) session := by
  rw [outcome_runLoop] at other ⊢
  rw [outcome_runLoop]
  -- The condition is read in both loops, which only differ in the iterations that they may have.
  cases read : Condition.parse condition with
  | error malformed => rfl
  | ok parsed =>
    rw [read] at other
    exact outcome_iterate_withLimit other more bound

/-- The limit stops a loop after that many complete iterations, if the condition still holds. -/
theorem outcome_runLoop_eq_loopLimit_iff {limit : Nat} (fuel : Nat) {condition : String}
    {body : List Command} {session after : Session κ} :
    outcome (runLoop (settings.withLimit (some limit)) fuel condition body) session =
        (.error (.failure (.loopLimit limit)), after) ↔
      ∃ parsed, Condition.parse condition = .ok parsed ∧
        Rounds settings parsed body limit session after ∧
          parsed.holds after.store = .ok true := by
  rw [outcome_runLoop]
  -- A condition that cannot be read stops the loop for another reason.
  cases read : Condition.parse condition with
  | error malformed =>
    constructor
    · intro stopped
      simp only [Condition.parse_error read, Prod.mk.injEq, Except.error.injEq,
        Halt.failure.injEq, reduceCtorEq, false_and] at stopped
    · rintro ⟨parsed, ⟨⟩, -⟩
  | ok parsed =>
    constructor
    · intro stopped
      obtain ⟨rounds, holds⟩ := (outcome_iterate_eq_loopLimit_iff rfl).mp stopped
      exact ⟨parsed, rfl, (rounds_withLimit_iff _).mp rounds, holds⟩
    · rintro ⟨_, ⟨⟩, rounds, holds⟩
      have complete := (rounds_withLimit_iff (some limit)).mpr rounds
      exact (outcome_iterate_eq_loopLimit_iff rfl).mpr ⟨complete, holds⟩

end Action

namespace Conduct

/-- Whatever comes to an end keeps to this conduct. -/
def ending (κ : Type) : Conduct κ where
  -- Where the session goes is left open: the conduct is about the stops alone.
  moves _ _ := True
  stops halt _ := halt ≠ .outOfFuel
  refl _ := trivial
  trans _ _ := trivial

variable {κ : Type} [Canvas κ]

/-- Every command comes to an end. -/
theorem ending_allows_execute (settings : Settings) (command : Command) :
    (ending κ).Allows (Action.execute settings command) := by
  intro session
  refine ⟨trivial, fun halt stopped => ?_⟩
  -- A command that stops has failed, which does not count as a lack of fuel.
  obtain ⟨⟨error, rfl⟩, -⟩ := Action.outcome_execute_error (Prod.fst_eq_iff.mp stopped)
  exact nofun

/-- A loop with a limit comes to an end. -/
theorem ending_allows_runLoop (settings : Settings) (limit fuel : Nat) (condition : String)
    (body : List Command) :
    (ending κ).Allows (Action.runLoop (settings.withLimit (some limit)) fuel condition body) :=
  -- With a limit set, running out is the failure of a limited loop.
  allows_runLoop (fun _ _ _ => nofun) (fun _ => nofun) fun command _ =>
    ending_allows_execute _ command

/-- A script comes to an end if its loops have a limit. -/
theorem ending_covers (settings : Settings) (limit : Nat) (lines : List String) :
    (ending κ).Covers (settings.withLimit (some limit)) lines where
  -- Every stop of a script that is not a fault of a line comes from a command or a limit.
  each _ command _ _ := ending_allows_execute _ command
  decides _ _ _ _ _ _ _ := nofun
  limit _ := nofun
  faults _ _ _ := nofun

end Conduct

namespace Action

variable {κ : Type} [Canvas κ]

/-- The fuel has no part in a pass over a script if the loops have a limit. -/
theorem outcome_validate_fuel (settings : Settings) (limit fuel other : Nat) (lines : List String)
    (session : Session κ) :
    outcome (validate (settings.withLimit (some limit)) fuel lines) session =
      outcome (validate (settings.withLimit (some limit)) other lines) session := by
  -- The fuel only ever stands in for a limit that is missing.
  have each : ∀ item : Item,
      (item.atOnce (settings.withLimit (some limit)) fuel : Action κ Unit) =
        item.atOnce (settings.withLimit (some limit)) other := by
    intro item
    cases item <;> rfl
  rw [outcome_validate, outcome_validate, carryOut, carryOut, funext each]

/-- The fuel has no part in a run of a script if the loops have a limit. -/
theorem outcome_runScript_fuel (settings : Settings) (limit fuel other : Nat)
    (lines : List String) (session : Session κ) :
    outcome (runScript (settings.withLimit (some limit)) fuel lines) session =
      outcome (runScript (settings.withLimit (some limit)) other lines) session := by
  -- The fuel is handed to the pass and to nothing else.
  rw [outcome_runScript, outcome_runScript, outcome_validate_fuel settings limit fuel other]

/--
The limit of a loop is transparent and exact.

A loop with a limit comes to its end, after no more iterations than the limit, and counts no
further. If the limit does not stop it, it has the same outcome with every higher limit, and
without one as soon as there is enough fuel. The limit stops it exactly if it has that many complete
iterations in a row and the condition holds once more, and then leaves the session of these
iterations. Hence every run of a script with a limit comes to its end, and no fuel matters to it.
-/
theorem loopLimit_transparent_and_exact (settings : Settings) (limit fuel : Nat)
    (condition : String) (body : List Command) (session : Session κ) :
    let limited := settings.withLimit (some limit)
    let loop : Action κ Nat := runLoop limited fuel condition body
    let ran := outcome loop session
    (ran.1 ≠ .error .outOfFuel ∧ (∀ count, ran.1 = .ok count → count ≤ limit) ∧
      ∀ event ∈ written loop session, CountsUpTo κ limit event) ∧
    (ran.1 ≠ .error (.failure (.loopLimit limit)) →
      (∀ higher other, limit ≤ higher →
        outcome (runLoop (settings.withLimit (some higher)) other condition body) session = ran) ∧
      ∀ enough, limit ≤ enough →
        outcome (runLoop (settings.withLimit none) enough condition body) session = ran) ∧
    (∀ after, ran = (.error (.failure (.loopLimit limit)), after) ↔
      ∃ parsed, Condition.parse condition = .ok parsed ∧
        Rounds settings parsed body limit session after ∧
          parsed.holds after.store = .ok true) ∧
    ∀ lines other,
      (outcome (runScript limited fuel lines) session).1 ≠ .error .outOfFuel ∧
        outcome (runScript limited other lines) session =
          outcome (runScript limited fuel lines) session := by
  intro limited loop ran
  -- Termination, the bound on rounds, transparency, exactness, and scripts as a whole.
  refine ⟨⟨?_, ?_, ?_⟩, ?_, ?_, ?_⟩
  · intro stopped
    exact (Conduct.ending_allows_runLoop settings limit fuel condition body session).2 _ stopped rfl
  · intro count finished
    exact count_le_of_outcome_runLoop (Prod.fst_eq_iff.mp finished)
  · exact countsUpTo_runLoop (settings.withLimit (some limit)) fuel condition body session
  · intro other
    exact ⟨fun higher left more => outcome_runLoop_withLimit other more,
      fun enough more => outcome_runLoop_withLimit other more⟩
  · intro after
    exact outcome_runLoop_eq_loopLimit_iff fuel
  · intro lines other
    refine ⟨fun stopped => ?_, outcome_runScript_fuel settings limit other fuel lines session⟩
    have ends := (Conduct.ending_covers settings limit lines).allows_runScript fuel session
    exact ends.2 _ stopped rfl

/-- A countdown of two iterations is stopped by a limit of one, and by no limit of two or more. -/
theorem limited_countdown_stops :
    ∃ (session after : Session Recording) (body : List Command),
      outcome (runLoop (Settings.withLimit {} (some 1)) 0 "x > 1" body) session =
        (.error (.failure (.loopLimit 1)), after) ∧
      (∃ parsed, Condition.parse "x > 1" = .ok parsed ∧ Rounds {} parsed body 1 session after) ∧
      ∀ higher other, 2 ≤ higher →
        (outcome (runLoop (Settings.withLimit {} (some higher)) other "x > 1" body) session).1 =
          .ok 2 := by
  let session : Session Recording :=
    { Session.start {} {} with store := { entries := [("x", .int 3)] } }
  let after : Session Recording := { session with store := { entries := [("x", .int 2)] } }
  let body : List Command := [.compute "x" "x" .sub 1]
  -- Two rounds are needed, so a limit of one stops the loop and a limit of two does not.
  have stopped : outcome (runLoop (Settings.withLimit {} (some 1)) 0 "x > 1" body) session =
      (.error (.failure (.loopLimit 1)), after) := by decide +kernel
  have finished : (outcome (runLoop (Settings.withLimit {} (some 2)) 0 "x > 1" body) session).1 =
      .ok 2 := by decide +kernel
  obtain ⟨parsed, read, rounds, -⟩ :=
    ((loopLimit_transparent_and_exact {} 1 0 "x > 1" body session).2.2.1 after).mp stopped
  obtain ⟨same, -⟩ := (loopLimit_transparent_and_exact {} 2 0 "x > 1" body session).2.1
    (by rw [finished]; exact nofun)
  refine ⟨session, after, body, stopped, ⟨parsed, read, rounds⟩, ?_⟩
  intro higher other more
  rw [same higher other more, finished]

end Action

end Plotter
