import Plotter.Proofs.Items
import Plotter.Proofs.Loop

/-! The single pass over a script does what its items ask for, one after the other. -/

namespace Plotter.Action

variable {κ α : Type}

/-- Recognizing a line only adds to the log. -/
@[simp] theorem recognize_logBlind (line : String) :
    LogBlind (recognize line : Action κ Command) := by
  -- The record of what was recognized differs by form, and the log is not looked at.
  unfold recognize
  cases Form.recognize? (Text.trimChars line.toList) <;> simp

/-- Recognizing a line gives its command and changes nothing. -/
@[simp] theorem outcome_recognize (line : String) (session : Session κ) :
    outcome (recognize line) session = (.ok (Command.ofLine line), session) := by
  -- Both look for the first form that takes the line, and the events do not show.
  unfold recognize Command.ofLine
  cases Form.recognize? (Text.trimChars line.toList) <;> simp

/-- A failure that is written to the log is still only added to it. -/
@[simp] theorem onFailure_logBlind (event : Error → Event) {action : Action κ α}
    (blind : LogBlind action) : LogBlind (onFailure event action) := by
  refine logBlind_iff_keeps.mpr fun log => ?_
  -- The event comes behind all that was in either of the logs.
  exact (logBlind_iff_keeps.mp blind log).onFailure event fun same => record_ahead same _

/-- Writing a failure to the log does not show in the outcome. -/
@[simp] theorem outcome_onFailure (event : Error → Event) (action : Action κ α)
    (session : Session κ) : outcome (onFailure event action) session = outcome action session := by
  simp only [outcome, onFailure, tryCatch, tryCatchThe, MonadExceptOf.tryCatch, EStateM.tryCatch]
  -- A failure is recorded and then passed on as it was.
  cases action { session } with
  | ok value machine => rfl
  | error halt machine => cases halt <;> rfl

/-- Closing a pass only adds to the log. -/
@[simp] theorem closePass_logBlind (pass : Pass) : LogBlind (closePass pass : Action κ Batch) := by
  -- It only asks for a block that is open.
  unfold closePass
  cases pass.opened <;> simp

/-- Taking a line outside of blocks only adds to the log. -/
@[simp] theorem takeOutside_logBlind (number : Nat) (batch : Batch) (command : Command) :
    LogBlind (takeOutside number batch command : Action κ Pass) := by
  -- Every kind of command is put away or refused, without a look at the log.
  cases command <;> simp [takeOutside]

variable [Canvas κ]

/-- Running a block and going on behind it only adds to the log. -/
theorem closed_logBlind (settings : Settings) (fuel : Nat) (batch : Batch) (block : Block) :
    LogBlind (runBlock settings fuel block >>= fun _ => pure { batch } : Action κ Pass) :=
  -- The block is run, and the pass goes on with its batch.
  LogBlind.bind (runBlock_logBlind settings fuel block) fun _ => LogBlind.pure _

/-- Taking a line inside a block only adds to the log. -/
@[simp] theorem takeInside_logBlind (settings : Settings) (fuel : Nat) (batch : Batch)
    (block : Block) (command : Command) :
    LogBlind (takeInside settings fuel batch block command : Action κ Pass) :=
  -- Closing runs the block; any other line either joins it or stops the pass.
  logBlind_iff_keeps.mpr fun log =>
    Coupling.keeps_takeInside (runsScripts_ahead settings fuel log) batch block command

/-- Taking a line only adds to the log. -/
@[simp] theorem takeLine_logBlind (settings : Settings) (fuel number : Nat) (line : String)
    (pass : Pass) : LogBlind (takeLine settings fuel number line pass : Action κ Pass) :=
  -- A blank line does nothing, and any other is read before it is put in its place.
  logBlind_iff_keeps.mpr fun log =>
    Coupling.keeps_takeLine (runsScripts_ahead settings fuel log) number line pass

/-- Taking lines only adds to the log. -/
@[simp] theorem takeLines_logBlind (settings : Settings) (fuel number : Nat)
    (lines : List String) (pass : Pass) :
    LogBlind (takeLines settings fuel number lines pass : Action κ Pass) :=
  -- Every line leaves a pass for the lines behind it, and the report of one that fails is added.
  logBlind_iff_keeps.mpr fun log => Coupling.keeps_takeLines (runsScripts_ahead settings fuel log)
    (reports_ahead log) number lines pass

/-- The first line is taken, and then the others. -/
theorem outcome_takeLines_cons {settings : Settings} {fuel : Nat} (number : Nat) (text : String)
    (rest : List String) (pass : Pass) (session : Session κ) :
    outcome (takeLines settings fuel number (text :: rest) pass) session =
      follow (outcome (takeLine settings fuel number text pass) session) fun next after =>
        outcome (takeLines settings fuel (number + 1) rest next) after := by
  -- The report of a failing line does not show.
  rw [takeLines, outcome_bind (takeLines_logBlind settings fuel (number + 1) rest),
    outcome_onFailure]

/-- Lines in two parts are taken one part after the other. -/
theorem outcome_takeLines_append {settings : Settings} {fuel : Nat} (number : Nat)
    (first second : List String) (pass : Pass) (session : Session κ) :
    outcome (takeLines settings fuel number (first ++ second) pass) session =
      follow (outcome (takeLines settings fuel number first pass) session) fun next after =>
        outcome (takeLines settings fuel (number + first.length) second next) after := by
  -- The induction is on the first part, for every number, pass and session to start from.
  induction first generalizing number pass session with
  | nil => rfl
  | cons text rest ih =>
    rw [List.cons_append, outcome_takeLines_cons, outcome_takeLines_cons]
    rcases outcome (takeLine settings fuel number text pass) session with ⟨halt | next, after⟩
    · rfl
    · simp only [follow_ok, List.length_cons, ih, Nat.add_assoc, Nat.add_comm 1]

/-- A pass over a script only adds to the log. -/
@[simp] theorem validate_logBlind (settings : Settings) (fuel : Nat) (lines : List String) :
    LogBlind (validate settings fuel lines : Action κ Batch) :=
  -- The lines are taken and then the pass is closed.
  logBlind_iff_keeps.mpr fun log =>
    Coupling.keeps_validate (runsScripts_ahead settings fuel log) (reports_ahead log) lines

/-- A pass takes all lines, and fails at their end if a block is open. -/
theorem outcome_validate_eq {settings : Settings} {fuel : Nat} (lines : List String)
    (session : Session κ) :
    outcome (validate settings fuel lines) session =
      follow (outcome (takeLines settings fuel 1 lines {}) session) fun next after =>
        match next.opened with
        | none => (.ok next.batch, after)
        | some block => (.error (.failure (.missingEnd block.kind block.line)), after) := by
  rw [validate, outcome_bind closePass_logBlind]
  congr
  funext next after
  unfold closePass
  -- Closing the pass only fails if a block is open, and writes that to the log.
  cases next.opened with
  | none => rfl
  | some block => rw [outcome_onFailure, outcome_fail]

/-- What follows a pass only adds to the log. -/
theorem runBatch_logBlind (settings : Settings) (batch : Batch) :
    LogBlind (do
      if batch.isValid then executeAll settings batch.queued.toList
      else emit (.queueSkipped batch.rejected.size)
      return batch : Action κ Batch) := by
  -- Either the queue is carried out or it is skipped.
  split
  · exact LogBlind.bind (executeAll_logBlind settings _) fun _ => LogBlind.pure _
  · exact LogBlind.bind (LogBlind.emit _) fun _ => LogBlind.pure _

/-- A run of a script only adds to the log. -/
@[simp] theorem runScript_logBlind (settings : Settings) (fuel : Nat) (lines : List String) :
    LogBlind (runScript settings fuel lines : Action κ Batch) :=
  -- The pass comes first and its batch is run behind it.
  logBlind_iff_keeps.mpr fun log =>
    Coupling.keeps_runScript (runsScripts_ahead settings fuel log) (reports_ahead log) lines

/-- A run makes its pass, and carries out what is queued if no line was rejected. -/
theorem outcome_runScript (settings : Settings) (fuel : Nat) (lines : List String)
    (session : Session κ) :
    outcome (runScript settings fuel lines) session =
      follow (outcome (validate settings fuel lines) session) fun batch after =>
        if batch.isValid then
          follow (outcome (executeAll settings batch.queued.toList) after) fun _ last =>
            (.ok batch, last)
        else (.ok batch, after) := by
  rw [runScript, outcome_bind (runBatch_logBlind settings)]
  congr
  funext batch after
  -- Whether the queue runs at all depends on the batch alone.
  split
  · rw [outcome_bind fun _ => LogBlind.pure _]
    rfl
  · rfl

/-- A run that succeeds gives the batch of its pass. -/
theorem exists_validate_of_runScript {settings : Settings} {fuel : Nat} {lines : List String}
    {session after : Session κ} {batch : Batch}
    (ran : outcome (runScript settings fuel lines) session = (.ok batch, after)) :
    ∃ middle, outcome (validate settings fuel lines) session = (.ok batch, middle) := by
  rw [outcome_runScript, follow_eq_ok_iff] at ran
  obtain ⟨passed, middle, validated, same⟩ := ran
  -- What is queued may be carried out, but the batch is not changed by it.
  split at same
  · obtain ⟨_, _, -, given⟩ := (follow_eq_ok_iff ..).mp same
    simp only [Prod.mk.injEq, Except.ok.injEq] at given
    exact ⟨middle, given.1 ▸ validated⟩
  · simp only [Prod.mk.injEq, Except.ok.injEq] at same
    exact ⟨middle, same.1 ▸ validated⟩

/--
Carries out the items of a script in two phases.

First they do in order what they do at once. Then a fault stops the script, and without one there is
a batch of what is left to be done.
-/
def carryOut (settings : Settings) (fuel : Nat) (batch : Batch) (items : List Item) :
    Action κ Batch := do
  -- A fault is looked for only after the immediate items, as it stops the pass where it stands.
  items.forM (Item.atOnce settings fuel)
  match items.findSome? Item.fault? with
  | some error => fail error
  | none => return batch.extend items

/-- What an item does at once only adds to the log. -/
@[simp] theorem atOnce_logBlind (settings : Settings) (fuel : Nat) (item : Item) :
    LogBlind (item.atOnce settings fuel : Action κ Unit) := by
  -- Some items do nothing at once, and the others have been dealt with.
  cases item <;> simp [Item.atOnce]

/-- The second phase follows the first one, and changes nothing. -/
theorem outcome_carryOut (settings : Settings) (fuel : Nat) (batch : Batch) (items : List Item)
    (session : Session κ) :
    outcome (carryOut settings fuel batch items) session =
      follow (outcome (items.forM (Item.atOnce settings fuel)) session) fun _ after =>
        match items.findSome? Item.fault? with
        | some error => (.error (.failure error), after)
        | none => (.ok (batch.extend items), after) := by
  unfold carryOut
  -- Giving the batch and failing both leave the session alone.
  cases items.findSome? Item.fault? with
  | none => rw [outcome_bind (fun _ => LogBlind.pure _)]; rfl
  | some error => rw [outcome_bind (fun _ => LogBlind.fail error)]; rfl

/-- Without items there is nothing to be done. -/
theorem outcome_carryOut_nil (settings : Settings) (fuel : Nat) (batch : Batch)
    (session : Session κ) :
    outcome (carryOut settings fuel batch []) session = (.ok batch, session) := by
  -- Without items nothing is added to the batch.
  rw [outcome_carryOut]
  simp [Batch.extend]

/-- A fault stops the script where it stands. -/
theorem outcome_carryOut_fault (settings : Settings) (fuel : Nat) (batch : Batch) (error : Error)
    (session : Session κ) :
    outcome (carryOut settings fuel batch [.fault error]) session =
      (.error (.failure error), session) := by
  -- A fault does nothing at once, and then it stops the pass.
  rw [outcome_carryOut, outcome_forM_cons (atOnce_logBlind settings fuel)]
  rfl

/-- An item that is no fault does what it does at once, and the other items follow. -/
theorem outcome_carryOut_cons (settings : Settings) (fuel : Nat) (batch : Batch) {item : Item}
    (sound : item.fault? = none) (rest : List Item) (session : Session κ) :
    outcome (carryOut settings fuel batch (item :: rest)) session =
      follow (outcome (item.atOnce settings fuel) session) fun _ after =>
        outcome (carryOut settings fuel (batch.extend [item]) rest) after := by
  -- The first fault of all the items is the first one of the others.
  have found : (item :: rest).findSome? Item.fault? = rest.findSome? Item.fault? := by
    simp [sound]
  rw [outcome_carryOut, outcome_forM_cons (atOnce_logBlind settings fuel), found]
  rcases outcome (item.atOnce settings fuel) session with ⟨halt | ⟨⟩, after⟩
  · rfl
  · simp only [follow_ok]
    rw [outcome_carryOut, Batch.extend_append, List.singleton_append]

/-- Taking a line outside of blocks does what its item does at once, and keeps the rest of it. -/
theorem outcome_takeOutside_plain (number : Nat) (batch : Batch) {command : Command}
    (plain : command.marker? = none) (settings : Settings) (fuel : Nat) (session : Session κ) :
    outcome (takeOutside number batch command) session =
      follow (outcome ((Item.outside number command).atOnce settings fuel) session) fun _ after =>
        (.ok { batch := batch.extend [.outside number command] }, after) := by
  cases command with
  | opens kind condition => simp [Command.marker?] at plain
  | closes kind => simp [Command.marker?] at plain
  | assign name value =>
    rw [takeOutside, outcome_bind (fun _ => LogBlind.pure _)]
    rfl
  | _ =>
    -- Nothing is done now, and the batch grows by the item.
    simp [takeOutside, Item.outside, Item.atOnce, Batch.extend, Batch.enqueue, Batch.reject,
      Item.queued?, Item.rejected?]

/-- The items that follow when a pass has come to a certain point. -/
def itemsAfter (pass : Pass) (entries : List (Nat × Command)) : List Item :=
  -- An open block reads on in its own way until it is closed.
  match pass.opened with
  | none => Script.items entries
  | some opened => Script.itemsInside opened entries

/-- Taking a line outside of blocks is the first step through the items from that line on. -/
theorem follow_takeOutside (settings : Settings) (fuel number : Nat) (batch : Batch)
    (command : Command) (rest : List (Nat × Command)) (session : Session κ) :
    (follow (outcome (takeOutside number batch command) session) fun next after =>
      outcome (carryOut settings fuel next.batch (itemsAfter next rest)) after) =
        outcome (carryOut settings fuel batch (Script.items ((number, command) :: rest)))
          session := by
  cases marked : command.marker? with
  | none =>
    rw [outcome_takeOutside_plain number batch marked settings fuel,
      Script.items_plain number marked]
    have sound : (Item.outside number command).fault? = none := by
      cases command <;> rfl
    rw [outcome_carryOut_cons settings fuel batch sound]
    rcases outcome ((Item.outside number command).atOnce settings fuel) session with
      ⟨halt | ⟨⟩, after⟩ <;> rfl
  | some marker =>
    obtain ⟨kind, condition, rfl, -⟩ | ⟨kind, rfl, -⟩ := Command.marker?_eq_some marked
    · -- The block is open and empty from here on.
      rw [Script.items_opens]
      rfl
    · -- There is no block that the line could close.
      rw [Script.items, outcome_carryOut_fault]
      rfl

/-- A line that closes the open block runs it. -/
theorem outcome_takeInside_closes {settings : Settings} {fuel : Nat} (batch : Batch)
    (block : Block) (session : Session κ) :
    outcome (takeInside settings fuel batch block (.closes block.kind)) session =
      follow (outcome (runBlock settings fuel block) session) fun _ after =>
        (.ok { batch }, after) := by
  -- The kinds agree, so the block is run at once.
  rw [takeInside, if_pos rfl, outcome_emit_bind _ (closed_logBlind settings fuel batch block),
    outcome_bind (fun _ => LogBlind.pure _)]
  rfl

/-- Taking a line inside a block is the first step through the items from that line on. -/
theorem follow_takeInside (settings : Settings) (fuel number : Nat) (batch : Batch)
    (block : Block) (command : Command) (rest : List (Nat × Command)) (session : Session κ) :
    (follow (outcome (takeInside settings fuel batch block command) session) fun next after =>
      outcome (carryOut settings fuel next.batch (itemsAfter next rest)) after) =
        outcome (carryOut settings fuel batch
          (Script.itemsInside block ((number, command) :: rest))) session := by
  by_cases closing : command = .closes block.kind
  · -- The block is complete and runs, and leaves nothing to be done at the end.
    have kept : batch.extend [.block block] = batch := by
      simp [Batch.extend, List.filterMap_cons, Item.queued?, Item.rejected?]
    subst closing
    rw [outcome_takeInside_closes, Script.itemsInside_closes,
      outcome_carryOut_cons settings fuel batch rfl, kept]
    show follow (follow (outcome (runBlock settings fuel block) session) _) _ =
      follow (outcome (runBlock settings fuel block) session) _
    rcases outcome (runBlock settings fuel block) session with ⟨halt | ⟨⟩, after⟩ <;> rfl
  · -- Any other marker is a fault, and a plain line waits in the block.
    rw [takeInside, if_neg closing]
    cases marked : command.marker? with
    | none => rw [Script.itemsInside_plain block number marked]; rfl
    | some marker =>
      rw [Script.itemsInside_marker block number marked closing, outcome_carryOut_fault]
      rfl

/--
From any point on, a pass does what the items do that are still to come.

The block that is open and the batch so far are the invariant: together with the lines that follow
they decide which items there are.
-/
theorem outcome_takeLines (settings : Settings) (fuel number : Nat) (lines : List String)
    (pass : Pass) (session : Session κ) :
    outcome (takeLines settings fuel number lines pass >>= closePass) session =
      outcome (carryOut settings fuel pass.batch (itemsAfter pass (Script.entries number lines)))
        session := by
  -- The induction is on the lines that are left, for every pass that can have come so far.
  induction lines generalizing number pass session with
  | nil =>
    rw [takeLines, pure_bind]
    rcases pass with ⟨batch, opened | block⟩
    · -- Without an open block nothing is left.
      show _ = outcome (carryOut settings fuel batch (Script.items [])) session
      rw [Script.items_nil, outcome_carryOut_nil]
      rfl
    · -- An open block lacks its end.
      exact (outcome_carryOut_fault settings fuel batch _ session).symm
  | cons line rest ih =>
    have goesOn : ∀ next, LogBlind (takeLines settings fuel (number + 1) rest next >>= closePass :
        Action κ Batch) := fun next =>
      LogBlind.bind (takeLines_logBlind settings fuel (number + 1) rest next) closePass_logBlind
    rw [takeLines, bind_assoc, outcome_bind goesOn, outcome_onFailure, Script.entries_cons,
      takeLine]
    simp only [ih]
    by_cases blank : (Text.trim line).isEmpty = true
    · rw [if_pos blank, if_pos blank]
      rfl
    · rw [if_neg blank, if_neg blank]
      -- The line spells a command, which is taken outside of blocks or inside the open one.
      rcases pass with ⟨batch, opened | block⟩
      · rw [outcome_bind (takeOutside_logBlind number batch), outcome_recognize, follow_ok]
        exact follow_takeOutside settings fuel number batch (.ofLine line) _ session
      · rw [outcome_bind (takeInside_logBlind settings fuel batch block), outcome_recognize,
          follow_ok]
        exact follow_takeInside settings fuel number batch block (.ofLine line) _ session

/-- A pass over a script carries out the items that its lines are made of. -/
theorem outcome_validate (settings : Settings) (fuel : Nat) (lines : List String)
    (session : Session κ) :
    outcome (validate settings fuel lines) session =
      outcome (carryOut settings fuel {} (Script.items (Script.entries 1 lines))) session :=
  -- A pass begins with no block open and an empty batch.
  outcome_takeLines settings fuel 1 lines {} session

/-- A pass that succeeds gives the batch of what the items leave to be done. -/
theorem batch_of_validate {settings : Settings} {fuel : Nat} {lines : List String}
    {session after : Session κ} {batch : Batch}
    (passed : outcome (validate settings fuel lines) session = (.ok batch, after)) :
    batch = Batch.extend {} (Script.items (Script.entries 1 lines)) := by
  rw [outcome_validate, outcome_carryOut, follow_eq_ok_iff] at passed
  obtain ⟨_, middle, -, ended⟩ := passed
  -- A fault would have stopped the pass.
  split at ended
  · simp at ended
  · simp only [Prod.mk.injEq, Except.ok.injEq] at ended
    exact ended.1.symm

/-- A pass that succeeds has found no fault. -/
theorem faultless_of_validate {settings : Settings} {fuel : Nat} {lines : List String}
    {session after : Session κ} {batch : Batch}
    (passed : outcome (validate settings fuel lines) session = (.ok batch, after)) (error : Error) :
    .fault error ∉ Script.items (Script.entries 1 lines) := by
  rw [outcome_validate, outcome_carryOut, follow_eq_ok_iff] at passed
  obtain ⟨_, middle, -, ended⟩ := passed
  -- The first fault would be the error of the pass.
  split at ended
  · simp at ended
  · rename_i none
    exact (Item.findSome?_fault?_eq_none _).mp none error

/--
A single pass over a script is the same as telling its items apart and then performing them.

It succeeds exactly if no item is a fault, which is to say that the blocks are opened and closed one
after the other, and if everything that the items do at once succeeds in the order of the lines.
Its result and the session that it leaves are those of the first action that stops, or else of the
fault at the end of the items, or else the batch of what the items leave to be done.
-/
theorem validate_eq_two_phases (settings : Settings) (fuel : Nat) (lines : List String)
    (session : Session κ) :
    let entries := Script.entries 1 lines
    let items := Script.items entries
    let performed := outcome (items.forM (Item.atOnce settings fuel)) session
    ((∃ batch after, outcome (validate settings fuel lines) session = (.ok batch, after)) ↔
      (∀ error, .fault error ∉ items) ∧ ∃ after, performed = (.ok (), after)) ∧
    ((∀ error, .fault error ∉ items) ↔ Bracketed (Script.markers entries)) ∧
    outcome (validate settings fuel lines) session =
      match performed with
      | (.error halt, after) => (.error halt, after)
      | (.ok _, after) =>
        match items.findSome? Item.fault? with
        | some error => (.error (.failure error), after)
        | none =>
          (.ok { queued := (items.filterMap Item.queued?).toArray,
                 rejected := (items.filterMap Item.rejected?).toArray }, after) := by
  intro entries items performed
  have passed : outcome (validate settings fuel lines) session =
      follow performed fun _ after =>
        match items.findSome? Item.fault? with
        | some error => (.error (.failure error), after)
        | none => (.ok (Batch.extend {} items), after) := by
    rw [outcome_validate, outcome_carryOut]
  -- What is done at once decides first, and then the first fault.
  refine ⟨?_, Script.items_faultless_iff entries, ?_⟩
  · rw [passed, ← Item.findSome?_fault?_eq_none]
    rcases performed with ⟨halt | ⟨⟩, after⟩
    · simp
    · cases items.findSome? Item.fault? <;> simp
  · rw [passed]
    rcases performed with ⟨halt | ⟨⟩, after⟩
    · rfl
    · cases items.findSome? Item.fault? <;> simp [Batch.extend]

end Plotter.Action
