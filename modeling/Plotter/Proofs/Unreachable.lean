import Plotter.Canvas.Recording
import Plotter.Proofs.Account
import Plotter.Proofs.Conduct
import Plotter.Proofs.Mention

/-! The errors that no script can come to, and what an error about an operand says of the script. -/

namespace Plotter

open Plotter.Action

namespace Error

/-- A text ends as its last part does. -/
theorem getLast?_append {last : String} {c : Char} (final : last.toList.getLast? = some c)
    (front : String) : (front ++ last).toList.getLast? = some c := by
  -- The second text is not empty, so the whole ends as it does.
  rw [String.toList_append, List.getLast?_append, final, Option.some_or]

/-- A quoted text ends with a quote. -/
theorem getLast?_quote (text : String) : (Text.quote text).toList.getLast? = some '"' := by
  -- The closing quote is put on last.
  rw [Text.quote, String.toList_ofList, List.getLast?_append_of_ne_nil _ (List.cons_ne_nil _ _)]
  rfl

/-- A number in decimal notation ends with a digit. -/
theorem getLast?_decimal (number : Nat) :
    ∃ c, (Number.decimal number).toList.getLast? = some c ∧ c.isDigit = true := by
  -- A natural number has no sign, so its decimal is its digits.
  have written : (Number.decimal number).toList = Nat.toDigits 10 number := by
    simp [Number.decimal, Number.digits]
  rw [written]
  have filled : (Nat.toDigits 10 number).getLast? ≠ none :=
    mt List.getLast?_eq_none_iff.mp Nat.toDigits_ne_nil
  obtain ⟨c, final⟩ := Option.ne_none_iff_exists'.mp filled
  have listed := List.mem_of_getLast? final
  exact ⟨c, final, Nat.isDigit_of_mem_toDigits (by decide) (by decide) listed⟩

/-- Of all errors about texts and lines, only the one about a loose marker ends with a `k`. -/
theorem getLast?_detail {error : Error} (malformed : error.kind = .malformed) :
    (∃ marker, error = .looseMarker marker) ∨
      ∃ c, error.detail.toList.getLast? = some c ∧ c ≠ 'k' := by
  cases error with
  | looseMarker marker => exact .inl ⟨marker, rfl⟩
  | badCondition text => exact .inr ⟨'"', getLast?_append (getLast?_quote text) _, by decide⟩
  | badOperator text => exact .inr ⟨'"', getLast?_append (getLast?_quote text) _, by decide⟩
  | unmatchedEnd kind =>
    -- The last word is the keyword that there should have been.
    cases kind with
    | loop => exact .inr ⟨'e', getLast?_append (by decide) _, by decide⟩
    | branch => exact .inr ⟨'f', getLast?_append (by decide) _, by decide⟩
  | missingEnd kind line =>
    obtain ⟨c, final, digit⟩ := getLast?_decimal line
    refine .inr ⟨c, getLast?_append final _, ?_⟩
    rintro rfl
    exact nomatch digit
  | nestedBlock marker kind line => exact .inr ⟨')', getLast?_append (by decide) _, by decide⟩
  | _ => exact nomatch malformed

/-- Only an error about a loose marker says what markers are for. -/
theorem exists_looseMarker_of_detail {error : Error} (malformed : error.kind = .malformed)
    {what : String} (same : error.detail = what ++ " can only be used to delimit a block") :
    ∃ marker, error = .looseMarker marker := by
  -- The detail of any other error ends with another character.
  rcases getLast?_detail malformed with loose | ⟨c, final, other⟩
  · exact loose
  · rw [same, getLast?_append (by decide : _ = some 'k')] at final
    exact (other (Option.some.inj final).symm).elim

end Error

/-- No marker is among the queued commands, and none in the block that is open. -/
structure Pass.Unmarked (pass : Pass) : Prop where
  /-- The queued commands. -/
  queued : ∀ command ∈ pass.batch.queued, command.marker? = none
  /-- The commands of the open block. -/
  body : ∀ block, pass.opened = some block → ∀ command ∈ block.body, command.marker? = none

/-- Where a pass starts, there are no commands at all. -/
theorem Pass.unmarked_start : Pass.Unmarked {} where
  -- Nothing is queued and no block is open.
  queued := by simp
  body := by simp

/-- The item of a line that waits waits for the command of the line. -/
theorem Item.eq_of_queued?_outside {number : Nat} {command other : Command}
    (waits : (outside number command).queued? = some other) : command = other := by
  -- Assignments and rejected lines are not queued.
  cases command with
  | assign name value => cases waits
  | unrecognized text => cases waits
  | _ => exact Option.some.inj waits

/-- Whatever a line does to a pass, it brings no marker among the commands. -/
theorem Pass.unmarked_of_takes {number : Nat} {command : Command} {pass next : Pass}
    (before : pass.Unmarked) (takes : Pass.Takes number command pass next) : next.Unmarked := by
  cases takes with
  | outside opened plain =>
    refine ⟨fun other member => ?_, by simp⟩
    -- What is queued now was queued before, or is the command of the line.
    simp only [Batch.extend, Array.mem_append, List.mem_toArray, List.mem_filterMap,
      List.mem_singleton, exists_eq_left] at member
    rcases member with old | new
    · exact before.queued other old
    · obtain rfl := Item.eq_of_queued?_outside new
      exact plain
  | opens opened opening =>
    -- The block that is opened has no commands yet.
    refine ⟨before.queued, ?_⟩
    rintro _ ⟨⟩ other member
    simp at member
  | @inside block opened plain =>
    refine ⟨before.queued, ?_⟩
    rintro _ ⟨⟩ other member
    rcases Array.mem_push.mp member with old | rfl
    · exact before.body block opened other old
    · exact plain
  | closes opened closing => exact ⟨before.queued, by simp⟩

namespace Action

variable {κ : Type} [Canvas κ] {settings : Settings} {fuel : Nat}

/-- A line brings no marker among the commands. -/
theorem unmarked_of_takeLine {number : Nat} {text : String} {pass next : Pass}
    {session after : Session κ} (before : pass.Unmarked)
    (taken : outcome (takeLine settings fuel number text pass) session = (.ok next, after)) :
    next.Unmarked := by
  -- A blank line leaves the pass as it was.
  by_cases blank : (Text.trim text).isEmpty = true
  · rw [takeLine, if_pos blank, outcome_pure] at taken
    simp only [Prod.mk.injEq, Except.ok.injEq] at taken
    exact taken.1 ▸ before
  · have filled : (Text.trim (Line.mk number text).text).isEmpty = false := by simpa using blank
    exact Pass.unmarked_of_takes before (takes_of_takeLine filled taken)

/-- Lines bring no marker among the commands. -/
theorem unmarked_of_takeLines {number : Nat} {lines : List String} {pass next : Pass}
    {session after : Session κ} (before : pass.Unmarked)
    (taken : outcome (takeLines settings fuel number lines pass) session = (.ok next, after)) :
    next.Unmarked := by
  -- The induction is on the lines, for every pass that can have come so far.
  induction lines generalizing number pass session with
  | nil =>
    rw [takeLines, outcome_pure] at taken
    simp only [Prod.mk.injEq, Except.ok.injEq] at taken
    exact taken.1 ▸ before
  | cons text rest ih =>
    rw [outcome_takeLines_cons, follow_eq_ok_iff] at taken
    obtain ⟨middle, between, first, later⟩ := taken
    exact ih (unmarked_of_takeLine before first) later

end Action

/--
What an error of a script is never about, and what it says if it is about an operand.

The operand is a name that the script mentions, and the store has no number for it.
-/
structure Error.Reported (lines : List String) (store : Variables) (error : Error) : Prop where
  /-- No marker is carried out as a command. -/
  unmarked : ∀ marker, error ≠ .looseMarker marker
  /-- No name and no text is refused. -/
  valid : error.kind ≠ .invalid
  /-- An operand that stands for no number is a name of the script without one. -/
  named : ∀ operand, error = .unresolved operand → Identifier.Spelled operand ∧
    (∃ line ∈ lines, Mentions line.toList operand) ∧ store.int? operand = none

namespace Error

variable {lines : List String} {store : Variables} {error : Error}

/-- An error about neither a marker, nor a value, nor an operand can be reported. -/
theorem reported_of_other (unmarked : ∀ marker, error ≠ .looseMarker marker)
    (valid : error.kind ≠ .invalid) (resolved : error.kind ≠ .unresolved) :
    error.Reported lines store := by
  refine ⟨unmarked, valid, ?_⟩
  -- An error of another kind names no operand at all.
  rintro operand rfl
  exact (resolved rfl).elim

/-- A number that is out of range can be reported. -/
theorem reported_of_outOfRange (range : error.kind = .outOfRange) : error.Reported lines store := by
  refine reported_of_other ?_ (by simp [range]) (by simp [range])
  -- A marker out of place is an error of another kind.
  rintro marker rfl
  cases range

/-- A name without a number can be reported if the script mentions every name that is looked up. -/
theorem reported_of_misses {names : List String} (misses : store.Misses names error)
    (each : ∀ name ∈ names, Identifier.Spelled name ∧ ∃ line ∈ lines, Mentions line.toList name) :
    error.Reported lines store := by
  obtain ⟨name, used, rfl, unbound⟩ := misses
  obtain ⟨spelled, mentioned⟩ := each name used
  rw [Grammar.trim_of_spelled spelled] at unbound ⊢
  refine ⟨by simp, by simp [kind], ?_⟩
  -- A name is not changed by trimming, so the error names it as it was written.
  rintro operand ⟨⟩
  exact ⟨spelled, mentioned, unbound⟩

end Error

/-- A fault is a marker that is missing or out of place. -/
theorem Script.reported_of_fault {entries : List (Nat × Command)} {error : Error}
    (member : .fault error ∈ items entries) (lines : List String) (store : Variables) :
    error.Reported lines store := by
  -- The induction is on the entries; only the first marker that does not fit makes a fault.
  fun_induction items entries with
  | case1 => simp at member
  | case2 number condition rest line kind after next ih =>
    rcases List.mem_cons.mp member with same | later
    · cases same
    · exact ih later
  | case3 | case4 | case5 | case6 =>
    obtain ⟨⟩ := List.mem_singleton.mp member
    exact Error.reported_of_other (by simp) (by simp [Error.kind]) (by simp [Error.kind])
  | case7 number command rest noOpening noClosing ih =>
    rcases List.mem_cons.mp member with same | later
    · exact (fault_ne_outside number command error same).elim
    · exact ih later

namespace Conduct

variable {κ : Type} {settings : Settings} {lines : List String}

/-- An action stops only for reasons that can be reported of the script. -/
def reporting (κ : Type) (lines : List String) : Conduct κ where
  -- Where the session goes is left open: the conduct is about the errors alone.
  moves _ _ := True
  stops halt session := ∀ error, halt = .failure error → error.Reported lines session.store
  refl _ := trivial
  trans _ _ := trivial

/-- A condition of a script cannot be decided for reasons that can be reported. -/
theorem reporting_decides {line condition : String} {kind : BlockKind} (member : line ∈ lines)
    (same : Command.ofLine line = .opens kind condition) :
    (reporting κ lines).Decides condition := by
  rintro session error unclear _ ⟨⟩
  cases read : Condition.parse condition with
  | error malformed =>
    -- The text is at fault, and no name has been looked up.
    rw [Condition.evaluate_of_parse_error read] at unclear
    obtain rfl := Except.error.inj unclear
    obtain rfl := Condition.parse_error read
    exact Error.reported_of_other (by simp) (by simp [Error.kind]) (by simp [Error.kind])
  | ok parsed =>
    rw [Condition.evaluate_of_parse read] at unclear
    refine Error.reported_of_misses (Condition.holds_error unclear) fun name used => ?_
    obtain ⟨spelled, mentions⟩ := Condition.mentions_of_parse same read used
    exact ⟨spelled, line, member, mentions⟩

variable [Canvas κ]

/-- A command of a script that is not a marker fails for reasons that can be reported. -/
theorem reporting_allows_execute {line : String} {command : Command} (member : line ∈ lines)
    (same : Command.ofLine line = command) (unmarked : command.marker? = none) :
    (reporting κ lines).Allows (execute settings command) := by
  intro session
  refine ⟨trivial, ?_⟩
  rw [outcome_execute]
  cases decided : Effect.ofCommand settings session.store session.context command with
  | ok effect => exact nofun
  | error cause =>
    rintro _ ⟨⟩ error ⟨⟩
    -- The line rules out two of the reasons: it is no marker, and what it binds is a name.
    cases Effect.fails_of_ofCommand decided with
    | unresolved misses =>
      refine Error.reported_of_misses misses fun name used => ?_
      obtain ⟨spelled, mentions⟩ := Command.mentions_of_ofLine same used
      exact ⟨spelled, line, member, mentions⟩
    | loose marked =>
      rw [unmarked] at marked
      cases marked
    | badName target bad => exact (bad (Command.spelled_of_target? same target)).elim
    | outOfRange range => exact Error.reported_of_outOfRange range
    | divisionByZero =>
      exact Error.reported_of_other (by simp) (by simp [Error.kind]) (by simp [Error.kind])

/-- A script stops for reasons that can be reported of it. -/
theorem reporting_covers (settings : Settings) (lines : List String) :
    (reporting κ lines).Covers settings lines where
  each number command listed unmarked := by
    -- Each command and each condition comes from a line of the script.
    obtain ⟨line, member, same⟩ := Script.exists_line_of_mem_entries listed
    exact reporting_allows_execute member same unmarked
  decides number kind condition listed := by
    obtain ⟨line, member, same⟩ := Script.exists_line_of_mem_entries listed
    exact reporting_decides member same
  limit session error reason := by
    obtain ⟨limit, -, rfl⟩ := exhausted_eq_failure reason
    exact Error.reported_of_other (by simp) (by simp [Error.kind]) (by simp [Error.kind])
  faults error member session := by
    rintro _ ⟨⟩
    exact Script.reported_of_fault member lines session.store

end Conduct

namespace Action

variable {κ : Type} [Canvas κ]

/-- A pass that comes to its end has no marker in its batch. -/
theorem unmarked_of_validate {settings : Settings} {fuel : Nat} {lines : List String}
    {session after : Session κ} {batch : Batch}
    (passed : outcome (validate settings fuel lines) session = (.ok batch, after)) :
    ∀ command ∈ batch.queued, command.marker? = none := by
  rw [validate, outcome_bind closePass_logBlind, follow_eq_ok_iff] at passed
  obtain ⟨pass, middle, taken, closed⟩ := passed
  -- The end of the script adds nothing to the batch of its lines.
  unfold closePass at closed
  cases opened : pass.opened with
  | none =>
    simp only [opened, outcome_pure, Prod.mk.injEq, Except.ok.injEq] at closed
    exact closed.1 ▸ (unmarked_of_takeLines Pass.unmarked_start taken).queued
  | some block =>
    simp only [opened, outcome_onFailure, outcome_fail] at closed
    cases closed

/-- A run that comes to its end has no marker in its batch, which is that of its pass. -/
theorem unmarked_of_runScript {settings : Settings} {fuel : Nat} {lines : List String}
    {session after : Session κ} {batch : Batch}
    (ran : outcome (runScript settings fuel lines) session = (.ok batch, after)) :
    ∀ command ∈ batch.queued, command.marker? = none := by
  -- The batch is the one that the pass has made.
  obtain ⟨middle, validated⟩ := exists_validate_of_runScript ran
  exact unmarked_of_validate validated

/-- A pass over a script or a run of it fails for a reason that can be reported. -/
theorem reported_of_failure {settings : Settings} {fuel : Nat} {lines : List String}
    {session after : Session κ} {error : Error}
    (failed : outcome (validate settings fuel lines) session = (.error (.failure error), after) ∨
      outcome (runScript settings fuel lines) session = (.error (.failure error), after)) :
    error.Reported lines after.store := by
  have covers := Conduct.reporting_covers (κ := κ) settings lines
  -- The pass and the whole run stop for reasons of the same kinds.
  rcases failed with passed | ran
  · have stops := (covers.allows_validate fuel session).2 (.failure error) (by rw [passed])
    rw [passed] at stops
    exact stops error rfl
  · have stops := (covers.allows_runScript fuel session).2 (.failure error) (by rw [ran])
    rw [ran] at stops
    exact stops error rfl

/--
No script comes to an error that only guards against other callers.

Markers are never taken for commands: none is queued, and none is in a block, however many lines
have been taken. So neither a pass over a script nor a run of it fails with a loose marker, nor with
a name or a text that is refused. If it fails with an operand that stands for no number, the operand
is an identifier that the script mentions, and the store that is left has no number for it.
-/
theorem defensive_errors_unreachable (settings : Settings) (fuel : Nat) (lines : List String)
    (session : Session κ) :
    (∀ count pass after,
      outcome (takeLines settings fuel 1 (lines.take count) {}) session = (.ok pass, after) →
        (∀ command ∈ pass.batch.queued, command.marker? = none) ∧
          ∀ block, pass.opened = some block → ∀ command ∈ block.body, command.marker? = none) ∧
    (∀ batch after,
      outcome (validate settings fuel lines) session = (.ok batch, after) ∨
        outcome (runScript settings fuel lines) session = (.ok batch, after) →
      ∀ command ∈ batch.queued, command.marker? = none) ∧
    ∀ error after,
      outcome (validate settings fuel lines) session = (.error (.failure error), after) ∨
        outcome (runScript settings fuel lines) session = (.error (.failure error), after) →
      (∀ marker, error ≠ .looseMarker marker) ∧
      (error.kind = .malformed →
        ∀ what, error.detail ≠ what ++ " can only be used to delimit a block") ∧
      error.kind ≠ .invalid ∧
      ∀ operand, error = .unresolved operand → Identifier.Spelled operand ∧
        (∃ line ∈ lines, Mentions line.toList operand) ∧ after.store.int? operand = none := by
  refine ⟨?_, ?_, ?_⟩
  · intro count pass after taken
    have unmarked := unmarked_of_takeLines Pass.unmarked_start taken
    exact ⟨unmarked.queued, unmarked.body⟩
  · rintro batch after (passed | ran)
    · exact unmarked_of_validate passed
    · exact unmarked_of_runScript ran
  · intro error after failed
    have reported := reported_of_failure failed
    refine ⟨reported.unmarked, ?_, reported.valid, reported.named⟩
    -- The text is that of a loose marker and of no other error about lines.
    intro malformed what same
    obtain ⟨marker, loose⟩ := Error.exists_looseMarker_of_detail malformed same
    exact reported.unmarked marker loose

/-- A loop fails in its first iteration with a name that only its body mentions. -/
theorem unresolved_in_loop_body :
    ∃ (lines : List String) (after : Session Recording),
      outcome (runScript {} 9 lines) (Session.start {} {}) =
        (.error (.failure (.unresolved "y_1")), after) ∧
      Identifier.Spelled "y_1" ∧ (∃ line ∈ lines, Mentions line.toList "y_1") ∧
      after.store.int? "y_1" = none ∧
      ∃ pass middle,
        outcome (takeLines {} 9 1 (lines.take 4) {}) (Session.start {} ({} : Recording)) =
          (.ok pass, middle) ∧
        ∀ block, pass.opened = some block → ∀ command ∈ block.body, command.marker? = none := by
  -- The body fails at its second command, with the first already carried out.
  let lines := ["x = 2", "\twhile x >0", "x = x - 1", "rect x,y_1", "endwhile"]
  let after : Session Recording :=
    { Session.start {} {} with store := { entries := [("x", .int 1)] } }
  let body : Block :=
    { kind := .loop, condition := "x >0", line := 2,
      body := #[.compute "x" "x" .sub 1, .rect (.var "x") (.var "y_1")] }
  let middle : Session Recording :=
    { Session.start {} {} with store := { entries := [("x", .int 2)] } }
  have failed : outcome (runScript {} 9 lines) (Session.start {} {}) =
      (.error (.failure (.unresolved "y_1")), after) := by decide +kernel
  have taken : outcome (takeLines {} 9 1 (lines.take 4) {}) (Session.start {} ({} : Recording)) =
      (.ok { opened := some body }, middle) := by decide +kernel
  obtain ⟨unmarked, -, errors⟩ := defensive_errors_unreachable {} 9 lines
    (Session.start {} ({} : Recording))
  obtain ⟨-, -, -, named⟩ := errors _ after (.inr failed)
  obtain ⟨spelled, mentioned, unbound⟩ := named "y_1" rfl
  exact ⟨lines, after, failed, spelled, mentioned, unbound, _, middle, taken,
    (unmarked 4 _ middle taken).2⟩

end Action

end Plotter
