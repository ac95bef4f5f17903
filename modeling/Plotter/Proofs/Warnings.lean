import Plotter.Canvas.Picture
import Plotter.Proofs.Advice
import Plotter.Proofs.Delivery
import Plotter.Proofs.FileLines
import Plotter.Proofs.Log

/-! Every notice of a run is printed as a warning, unless the run fails. -/

namespace Plotter

open Plotter.Action

/-- The notice of a command that is about to be carried out, if it gives one. -/
def Event.notice? : Event → Option Notice
  -- The record of a command stands in the log before the command is carried out.
  | executing command => command.notice?
  | _ => none

/-- The notices of a machine are those of the commands that its log has, in order. -/
def Machine.Tallies {κ : Type} (machine : Machine κ) : Prop :=
  -- Notices and log grow together, each at its own end.
  machine.session.notices.toList = machine.log.toList.filterMap Event.notice?

/-- An event that carries out nothing adds no notice. -/
theorem Machine.Tallies.record {κ : Type} {machine : Machine κ} (tallies : machine.Tallies)
    {event : Event} (other : event.notice? = none) : (machine.record event).Tallies := by
  show machine.session.notices.toList = (machine.log.push event).toList.filterMap Event.notice?
  -- The new event is at the end of the log, where it is left out.
  rw [Array.toList_push, List.filterMap_append, List.filterMap_cons_none other, List.filterMap_nil,
    List.append_nil]
  exact tallies

namespace Coupling

/-- Notices and log agree, on a picture that is drawn. -/
def tallied : Coupling Picture Picture :=
  -- A picture announces no command, which another canvas might do.
  ofInvariant Machine.Tallies

/-- An event that carries out nothing keeps notices and log in agreement. -/
theorem keeps_emit_tallied {event : Event} (other : event.notice? = none) :
    tallied.Keeps (emit event) (emit event) :=
  -- The notices stay as they are, and so does what the log has of them.
  keeps_ofInvariant_iff.mpr fun _ tallies => tallies.record other

/-- A change that leaves the notices alone keeps them in agreement with the log. -/
theorem keeps_update_tallied (change : Session Picture → Session Picture)
    (kept : ∀ session, (change session).notices = session.notices) :
    tallied.Keeps (update change) (update change) := by
  refine keeps_ofInvariant_iff.mpr fun machine tallies => ?_
  show (change machine.session).notices.toList = machine.log.toList.filterMap Event.notice?
  -- The log has not grown either.
  rw [kept]
  exact tallies

/-- Binding a name adds no notice. -/
theorem keeps_bindName_tallied (name : String) (value : Value) :
    tallied.Keeps (bindName name value) (bindName name value) :=
  -- The binding is recorded, but an event of its kind is no notice.
  (keeps_emit_tallied rfl).bind fun _ => keeps_update_tallied _ fun _ => rfl

/-- A picture announces no command, so drawing on it adds no notice. -/
theorem keeps_draw_tallied (op : DrawOp) : tallied.Keeps (draw op) (draw op) := by
  refine keeps_draw_ofInvariant (fun said tallies => tallies.record ?_) id
  -- All that a picture has to say is how many shapes it loses.
  cases op <;> cases said
  rfl

/-- An effect other than a notice adds no notice. -/
theorem keeps_perform_tallied {effect : Effect} (other : ∀ notice, effect ≠ .notify notice) :
    tallied.Keeps (perform effect) (perform effect) := by
  -- Only giving a notice would change their number.
  cases effect with
  | draw op cursor =>
    exact (keeps_draw_tallied op).bind fun _ => keeps_update_tallied _ fun _ => rfl
  | adjust context =>
    exact keeps_update_tallied (fun session => { session with context }) fun _ => rfl
  | bind name value => exact keeps_bindName_tallied name value
  | notify notice => exact (other notice rfl).elim

/-- A command is added to the log, and its notice to the notices if it gives one. -/
theorem keeps_execute_tallied (settings : Settings) (command : Command) :
    tallied.Keeps (execute settings command) (execute settings command) := by
  by_cases noted : command.notice? = none
  · -- The log has no notice for the command, and its effect is none either.
    have named : (Event.executing command).notice? = none := noted
    refine (keeps_emit_tallied named).bind fun _ => ?_
    rintro machine _ ⟨rfl, tallies⟩
    rw [ask_bind_apply]
    cases decided : Effect.ofCommand settings machine.session.store machine.session.context
        command with
    | error error => exact .error ⟨rfl, tallies⟩
    | ok effect =>
      refine (keeps_perform_tallied fun notice same => ?_ :
        tallied.Keeps (perform effect) (perform effect)) machine machine ⟨rfl, tallies⟩
      subst same
      cases Effect.has_of_ofCommand decided with
      | notify chosen =>
        subst chosen
        exact nomatch noted
  · -- A line with none of the known forms adds one entry to the log and one notice.
    refine keeps_ofInvariant_iff.mpr fun machine tallies => ?_
    cases command with
    | unrecognized line =>
      show (machine.session.notices.push (.unrecognized line)).toList =
        ((machine.log.push (.executing (.unrecognized line))).push
          (.noticed (.unrecognized line))).toList.filterMap Event.notice?
      simp only [Array.toList_push, List.filterMap_append]
      rw [← tallies, List.append_assoc]
      rfl
    | _ => exact (noted rfl).elim

/-- A run keeps notices and log in agreement, whether it comes to its end or not. -/
theorem keeps_runScript_tallied (settings : Settings) (fuel : Nat) (lines : List String) :
    tallied.Keeps (runScript settings fuel lines) (runScript settings fuel lines) := by
  -- Apart from its commands, nothing that a script records is a notice.
  have runs : tallied.RunsScripts settings fuel :=
    { store := fun coupled => congrArg (·.session.store) coupled.1
      stops := fun coupled => coupled
      executes := keeps_execute_tallied settings
      binds := keeps_bindName_tallied
      records := fun _ made => keeps_emit_tallied (by cases made <;> rfl)
      scripts := fun _ made => keeps_emit_tallied (by cases made <;> rfl) }
  refine keeps_runScript runs ?_ lines
  -- Neither is the report of an error.
  rintro error event machine _ made ⟨rfl, tallies⟩
  exact ⟨rfl, tallies.record (by cases made <;> rfl)⟩

end Coupling

namespace Script

/-- The lines of a script are the texts of the lines of its file. -/
theorem lines_eq_map_fileLines (text : String) : lines text = (fileLines text).map Line.text := by
  rw [fileLines, List.map_map, lines_eq_map]
  -- The numbers are given and then dropped again.
  conv_lhs => rw [← List.zipIdx_map_fst 1 (Text.scanLines text.toList), List.map_map]
  rfl

/-- A line of a script that is kept as it is has no line end in it. -/
theorem unbroken_of_unrecognized {text line kept : String} (member : line ∈ lines text)
    (same : Command.ofLine line = .unrecognized kept) : Text.Unbroken kept := by
  rw [lines_eq_map_fileLines] at member
  obtain ⟨origin, listed, rfl⟩ := List.mem_map.mp member
  obtain ⟨trimmed, -⟩ := (Command.ofLine_eq_iff _ _).mp same
  -- The text that is kept is the trimmed line, and lines have been trimmed before.
  rw [Text.Unbroken, trimmed, (trim_of_mem_fileLines listed).2]
  exact isLineEnd_of_mem_fileLines listed

/-- The notices of a run are about lines of its script, so none of them has a line end in it. -/
theorem unbroken_of_mem_notices {κ : Type} [Canvas κ] {settings : Settings} {fuel : Nat}
    {text : String} {session : Session κ} (start : session.notices = #[]) :
    ∀ notice ∈ (outcome (runScript settings fuel (lines text)) session).2.notices,
      Text.Unbroken notice.message := by
  have kept : (Conduct.keeping fun later : Session κ => ∀ notice ∈ later.notices,
      Text.Unbroken notice.message).Allows
        ((Request.script (lines text)).action settings fuel) := by
    refine Conduct.keeping_allows_request
      (fun command brought before effect whole decided => ?_) fuel
    obtain ⟨line, member, same⟩ := brought
    cases Effect.has_of_ofCommand decided with
    | notify chosen =>
      -- The notice is about the line that the command was kept from.
      have inner := unbroken_of_unrecognized member (same.trans chosen)
      intro notice listed
      rcases Array.mem_push.mp listed with earlier | rfl
      · exact whole notice earlier
      · exact (by decide : Text.Unbroken "Unrecognized command: ").append inner
    | _ => exact whole
  exact (kept session).1 (by simp [start])

end Script

namespace CommandLine

/-- The line that a notice is printed in. -/
def warning (notice : Notice) : String :=
  -- The text is that of the notice, behind a fixed word.
  "warning: " ++ notice.message

/-- Behind a log, a text prints lines one after the other, each as a line of its own. -/
structure Prints (log text : String) (lines : List String) : Prop where
  /-- The lines follow the log, and other text may follow them. -/
  listed : ∃ back, text = log ++ String.join (lines.map (· ++ "\n")) ++ back
  /-- The log ends where a line ends. -/
  whole : WholeLines log
  /-- None of the lines is broken. -/
  unbroken : ∀ line ∈ lines, Text.Unbroken line

/-- What is printed stays so when more text follows. -/
theorem Prints.append {log text : String} {lines : List String} (prints : Prints log text lines)
    (more : String) : Prints log (text ++ more) lines := by
  -- More text goes behind all that is printed so far.
  obtain ⟨⟨back, rfl⟩, whole, unbroken⟩ := prints
  exact ⟨⟨back ++ more, String.append_assoc⟩, whole, unbroken⟩

/-- The text of the notices prints a warning for each of them. -/
theorem prints_noticeText {log : String} (whole : WholeLines log) {notices : List Notice}
    (inner : ∀ notice ∈ notices, Text.Unbroken notice.message) :
    Prints log (log ++ noticeText notices) (notices.map warning) := by
  -- The notices are printed last, so nothing stands behind them.
  refine ⟨⟨"", ?_⟩, whole, ?_⟩
  · rw [String.append_empty, List.map_map]
    rfl
  · intro line listed
    obtain ⟨notice, member, rfl⟩ := List.mem_map.mp listed
    exact (by decide : Text.Unbroken "warning: ").append (inner notice member)

/-- Printing events adds to the text of a log. -/
theorem exists_printAll_text (log : LogText) (threshold : Option Level) (events : List Event) :
    ∃ back, (log.printAll threshold events).text = log.text ++ back := by
  unfold LogText.printAll
  -- The induction is on the events, each of which adds a line or nothing.
  induction events generalizing log with
  | nil => exact ⟨"", String.append_empty.symm⟩
  | cons event rest ih =>
    rw [List.foldl_cons]
    split
    · obtain ⟨more, added⟩ : ∃ more, (log.print event).text = log.text ++ more := by
        simp only [LogText.print, String.append_assoc]
        exact ⟨_, rfl⟩
      obtain ⟨back, same⟩ := ih (log.print event)
      exact ⟨more ++ back, by rw [same, added, String.append_assoc]⟩
    · exact ih log

variable {arguments : Arguments} {threshold : Option Level} {fuel : Nat} {text : String}
  {result : Outcome}

/-- A report on a batch prints the notices as warnings behind the log. -/
theorem prints_finish (arguments : Arguments) (threshold : Option Level) {log : LogText}
    (whole : WholeLines log.text) {session : Session Picture}
    (inner : ∀ notice ∈ session.notices.toList, Text.Unbroken notice.message) (batch : Batch) :
    Prints log.text (finish arguments threshold log session batch).stderr
      (session.notices.toList.map warning) := by
  have warned := prints_noticeText whole inner
  unfold finish
  by_cases valid : batch.isValid = true
  · -- One more event may follow the warnings.
    rw [if_pos valid]
    obtain ⟨back, same⟩ := exists_printAll_text
      { log with text := log.text ++ noticeText session.notices.toList } threshold
      [.drew session.canvas.shapes.size]
    have printed := warned.append back
    rw [← same] at printed
    cases arguments.output <;> exact printed
  · -- The rejected lines follow the warnings.
    rw [if_neg valid]
    simp only [String.append_assoc]
    rw [← String.append_assoc]
    exact warned.append _

/-- The events of a run of the script, in order. -/
def events (arguments : Arguments) (fuel : Nat) (text : String) : List Event :=
  -- The log belongs to the whole run, whether it ends well or not.
  (Action.written (Action.runScript arguments.settings fuel (Script.lines text))
    (.start arguments.settings arguments.picture)).toList

/--
Every notice of a run is printed as a warning, unless the run fails.

A run has one notice each time that it carries out a line that has none of the known forms. If it
comes to a batch, with rejected lines or without, the warnings are printed in order and each in a
line of its own, even if the picture cannot be written after all. If it fails, there is nothing
behind the log but the report of the failure.
-/
theorem notices_printed_unless_failed
    (rendered : render arguments threshold fuel text = some result)
    {ending : Except Halt Batch} {after : Session Picture}
    (ran : scriptOutcome arguments fuel text = (ending, after)) :
    let events := events arguments fuel text
    let log := (LogText.printAll {} threshold events).text
    after.notices.toList = events.filterMap Event.notice? ∧
    (∀ batch, ending = .ok batch →
      Prints log result.stderr (after.notices.toList.map warning) ∧
      ∀ path reason,
        Prints log (result.writeFailed path reason).stderr (after.notices.toList.map warning)) ∧
    ∀ error, ending = .error (.failure error) →
      result.stderr = log ++ failureText "evaluation error" error.message := by
  intro events log
  -- At the start there are no notices, and the log is empty.
  have tallied := Coupling.keeps_ofInvariant_iff.mp
    (Coupling.keeps_runScript_tallied arguments.settings fuel (Script.lines text))
    { session := .start arguments.settings arguments.picture } rfl
  have start : (Session.start arguments.settings arguments.picture).notices = #[] := rfl
  have inner : ∀ notice ∈ (scriptOutcome arguments fuel text).2.notices.toList,
      Text.Unbroken notice.message := fun notice listed =>
    Script.unbroken_of_mem_notices start notice (Array.mem_toList_iff.mp listed)
  rw [ran] at inner
  dsimp only [render] at rendered
  dsimp only [scriptOutcome, Action.outcome] at ran
  dsimp only [log, events, CommandLine.events, Action.written]
  -- The outcome and the log are both of the one run that is carried out.
  cases done : Action.runScript arguments.settings fuel (Script.lines text)
      { session := .start arguments.settings arguments.picture } with
  | ok given machine =>
    rw [done] at ran rendered tallied
    cases ran
    obtain rfl := Option.some.inj rendered
    have whole := wholeLines_printAll (.inl rfl : WholeLines ({} : LogText).text) threshold
      machine.log.toList
    have printed := prints_finish arguments threshold whole inner given
    exact ⟨tallied, fun _ _ => ⟨printed, fun _ _ => printed.append _⟩, fun _ => nofun⟩
  | error halt machine =>
    rw [done] at ran rendered tallied
    cases ran
    refine ⟨tallied, fun _ => nofun, ?_⟩
    rintro error ⟨⟩
    obtain rfl := Option.some.inj rendered
    rfl

/-- A line in a loop is warned of in each iteration, although another line is rejected. -/
theorem warned_in_each_iteration :
    ∃ (arguments : Arguments) (text : String) (result : Outcome),
      render arguments none 0 text = some result ∧ result.status = 1 ∧
      ∃ log, Prints log result.stderr
        ([.unrecognized "spin", .unrecognized "spin"].map warning) := by
  -- The unrecognized line stands in the loop, so its warning comes once for each round.
  let arguments : Arguments :=
    { input := "in.txt", output := none, width := 640, height := 480, maxIterations := 9 }
  let text := "x = 3\nwhile x > 1\nSpin\nx = x - 1\nendwhile\njump"
  let result : Outcome :=
    { status := 1
      stderr := "warning: Unrecognized command: spin\nwarning: Unrecognized command: spin\n" ++
        "in.txt:6: invalid command: jump\n" ++
        "Error: 1 invalid line(s), queued commands were not run\n" }
  let batch : Batch := { rejected := #[(6, "jump")] }
  obtain ⟨rendered, ending, noticed⟩ : render arguments none 0 text = some result ∧
      (scriptOutcome arguments 0 text).1 = .ok batch ∧
      (scriptOutcome arguments 0 text).2.notices =
        #[.unrecognized "spin", .unrecognized "spin"] := by decide +kernel
  have ran : scriptOutcome arguments 0 text = (.ok batch, (scriptOutcome arguments 0 text).2) := by
    rw [← ending, Prod.mk.eta]
  obtain ⟨-, warned, -⟩ := notices_printed_unless_failed rendered ran
  have printed := (warned _ rfl).1
  rw [noticed] at printed
  exact ⟨arguments, text, result, rendered, rfl, _, printed⟩

/-- A loop that reaches its limit has given notices, and the program prints none of them. -/
theorem notices_lost_on_failure :
    ∃ (arguments : Arguments) (text : String) (result : Outcome),
      render arguments none 0 text = some result ∧
      (scriptOutcome arguments 0 text).1 = .error (.failure (.loopLimit 3)) ∧
      (scriptOutcome arguments 0 text).2.notices =
        #[.unrecognized "x - 1", .unrecognized "x - 1", .unrecognized "x - 1"] ∧
      ∀ log, ¬ Prints log result.stderr
        ((scriptOutcome arguments 0 text).2.notices.toList.map warning) := by
  let arguments : Arguments :=
    { input := "in.txt", output := none, width := 640, height := 480, maxIterations := 3 }
  let text := "x = 5\nwhile x > 3\nx - 1\nendwhile\n"
  let result : Outcome :=
    { status := 1
      stderr := failureText "evaluation error" "while loop still running after 3 iterations" }
  let notice : Notice := .unrecognized "x - 1"
  obtain ⟨rendered, ending, noticed⟩ : render arguments none 0 text = some result ∧
      (scriptOutcome arguments 0 text).1 = .error (.failure (.loopLimit 3)) ∧
      (scriptOutcome arguments 0 text).2.notices = #[notice, notice, notice] := by decide +kernel
  refine ⟨arguments, text, result, rendered, ending, noticed, fun log prints => ?_⟩
  rw [noticed] at prints
  obtain ⟨back, same⟩ := prints.listed
  -- The three warnings alone are longer than all that is printed.
  have printed : result.stderr.length = 84 := by decide +kernel
  have warnings : (String.join (["warning: Unrecognized command: x - 1",
      "warning: Unrecognized command: x - 1", "warning: Unrecognized command: x - 1"].map
        (· ++ "\n"))).length = 111 := by decide +kernel
  have lengths := congrArg String.length same
  rw [printed, String.length_append, String.length_append] at lengths
  have part : 84 = log.length + 111 + back.length := lengths.trans (by rw [← warnings]; rfl)
  omega

end CommandLine

end Plotter
