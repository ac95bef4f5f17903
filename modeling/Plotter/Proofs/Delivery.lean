import Mathlib.Data.Prod.Basic
import Plotter.CommandLine.Program
import Plotter.Proofs.Fuel

/-! The program writes a whole picture or nothing at all. -/

namespace Plotter.CommandLine

/-- The bytes stand for exactly one text, which is the one that they are the encoding of. -/
theorem decodeText_eq_ok_iff (bytes : ByteArray) (text : String) :
    decodeText bytes = .ok text ↔ bytes = text.toUTF8 := by
  unfold decodeText String.fromUTF8?
  -- Bytes that are no encoding at all are refused.
  by_cases valid : bytes.IsValidUTF8
  · rw [dif_pos valid]
    constructor
    · intro same
      rw [← Except.ok.inj same]
      rfl
    · rintro rfl
      rfl
  · rw [dif_neg valid]
    constructor
    · intro same
      cases same
    · -- The encoding of a text is always valid.
      rintro rfl
      exact (valid text.isValidUTF8).elim

/--
The program comes to its end with the outcome.

What is known of the input are its bytes, or the reason why it cannot be read.
-/
def Ends (arguments : Arguments) (threshold : Option Level)
    (contents : Except FileError ByteArray) (outcome : Outcome) : Prop :=
  -- A run gives no outcome if the fuel is too little, so more of it never changes an ending.
  ∃ fuel, run arguments threshold fuel (contents.bind decodeText) = some outcome

/--
The script comes to its end without a rejected line, and leaves the picture.

It starts on an empty picture that has the size of the arguments and the background of a session
without any choices; a limit of zero iterations stands for none.
-/
def Draws (arguments : Arguments) (script : String) (picture : Picture) : Prop :=
  -- A limit of zero on the command line stands for no limit at all.
  let limit := if arguments.maxIterations = 0 then none else some arguments.maxIterations
  let settings : Settings := { loopLimit := limit }
  let size : Size := { width := arguments.width.toFloat, height := arguments.height.toFloat }
  ∃ fuel batch after,
    Action.outcome (Action.runScript settings fuel (Script.lines script))
        (.start settings { size, background := .slategray }) = (.ok batch, after) ∧
      batch.rejected = #[] ∧ after.canvas = picture

namespace Outcome

/-- The program succeeds and writes the document to the one place where it belongs. -/
structure Delivers (outcome : Outcome) (output : Option String) (document : String) : Prop where
  /-- The exit status says so. -/
  status : outcome.status = 0
  /-- The standard output has the document and a line end, unless there is a file for it. -/
  stdout : outcome.stdout = if output.isSome then "" else document ++ "\n"
  /-- The file has the document as it is. -/
  file : outcome.file = output.map (·, document)

/-- The program fails and writes no part of a picture. -/
structure Withholds (outcome : Outcome) : Prop where
  /-- The exit status says so. -/
  status : outcome.status = 1
  /-- Nothing is written to the standard output. -/
  stdout : outcome.stdout = ""
  /-- No file is written. -/
  file : outcome.file = none

end Outcome

section Finish

variable (arguments : Arguments) (threshold : Option Level) (log : LogText)
  (session : Session Picture) {batch : Batch}

/-- A run without a rejected line has its picture delivered. -/
theorem delivers_of_valid (valid : batch.isValid = true) :
    (finish arguments threshold log session batch).Delivers arguments.output
      session.canvas.document := by
  unfold finish
  rw [if_pos valid]
  -- The arguments alone decide where the picture goes.
  cases arguments.output with
  | none => exact ⟨rfl, rfl, rfl⟩
  | some path => exact ⟨rfl, rfl, rfl⟩

/-- A run with a rejected line has its picture withheld. -/
theorem withholds_of_not_valid (invalid : batch.isValid = false) :
    (finish arguments threshold log session batch).Withholds := by
  unfold finish
  -- The picture is written only behind the test for rejected lines.
  rw [if_neg (by simp [invalid])]
  exact ⟨rfl, rfl, rfl⟩

end Finish

/-- What becomes of the script of the arguments, apart from the log. -/
def scriptOutcome (arguments : Arguments) (fuel : Nat) (script : String) :
    Except Halt Batch × Session Picture :=
  -- What the program reports is all taken from this one run.
  Action.outcome (Action.runScript arguments.settings fuel (Script.lines script))
    (.start arguments.settings arguments.picture)

variable {arguments : Arguments} {threshold : Option Level} {fuel : Nat} {outcome : Outcome}

/-- What the program makes of a script: the outcome that there is in each way of ending. -/
inductive Reports (arguments : Arguments) (threshold : Option Level) (fuel : Nat)
    (script : String) : Option Outcome → Prop
  /-- The script comes to its end, and there is a report on its batch. -/
  | finished {batch : Batch} {after : Session Picture}
      (ran : scriptOutcome arguments fuel script = (.ok batch, after)) (log : LogText) :
      Reports arguments threshold fuel script (some (finish arguments threshold log after batch))
  /-- The script fails, and nothing is written of what it leaves. -/
  | failed {error : Error} {after : Session Picture} {outcome : Outcome}
      (ran : scriptOutcome arguments fuel script = (.error (.failure error), after))
      (withholds : outcome.Withholds) : Reports arguments threshold fuel script (some outcome)
  /-- The script is not followed to its end. -/
  | dry {after : Session Picture}
      (ran : scriptOutcome arguments fuel script = (.error .outOfFuel, after)) :
      Reports arguments threshold fuel script none

/-- The program reports on every script in one of the three ways. -/
theorem render_reports (arguments : Arguments) (threshold : Option Level) (fuel : Nat)
    (script : String) :
    Reports arguments threshold fuel script (render arguments threshold fuel script) := by
  dsimp only [render]
  -- The outcome of the run is what is left of its result without the log.
  cases ran : Action.runScript arguments.settings fuel (Script.lines script)
      { session := .start arguments.settings arguments.picture } with
  | ok batch machine =>
    exact .finished (by rw [scriptOutcome, Action.outcome, ran, Action.seen]) _
  | error halt machine =>
    have stopped : scriptOutcome arguments fuel script = (.error halt, machine.session) := by
      rw [scriptOutcome, Action.outcome, ran, Action.seen]
    cases halt with
    | failure error => exact .failed stopped ⟨rfl, rfl, rfl⟩
    | outOfFuel => exact .dry stopped

/-- A script comes to one end at most, however far it is followed. -/
theorem scriptOutcome_unique {script : String} {one two : Except Halt Batch × Session Picture}
    {more : Nat} (ran : scriptOutcome arguments fuel script = one)
    (also : scriptOutcome arguments more script = two) (ended : one.1 ≠ .error .outOfFuel)
    (other : two.1 ≠ .error .outOfFuel) : one = two := by
  -- Two runs that come to an end are runs of one script, with fuel enough for both.
  subst ran also
  exact Action.outcome_runScript_unique ended other

/-- A script that draws a picture has it delivered, however far it is followed. -/
theorem delivers_of_draws {script : String} {picture : Picture}
    (draws : Draws arguments script picture)
    (rendered : render arguments threshold fuel script = some outcome) :
    outcome.Delivers arguments.output picture.document := by
  obtain ⟨enough, batch, after, drawn, none, rfl⟩ := draws
  -- The program may have followed the script with other fuel, but it has come to the same end.
  have reports := render_reports arguments threshold fuel script
  rw [rendered] at reports
  cases reports with
  | finished ran log =>
    -- The batch and the session are those of the run that draws the picture.
    obtain ⟨⟩ := scriptOutcome_unique ran drawn nofun nofun
    exact delivers_of_valid arguments threshold log after (by simp [Batch.isValid, none])
  | failed ran withholds => exact nomatch scriptOutcome_unique ran drawn nofun nofun

/-- A script draws a picture, or what it leaves is withheld. -/
theorem draws_or_withholds {script : String}
    (rendered : render arguments threshold fuel script = some outcome) :
    (∃ picture, Draws arguments script picture) ∨ outcome.Withholds := by
  have reports := render_reports arguments threshold fuel script
  rw [rendered] at reports
  -- A run that comes to its end draws, unless it has rejected a line.
  cases reports with
  | failed ran withholds => exact .inr withholds
  | @finished batch after ran log =>
    cases valid : batch.isValid with
    | true =>
      have none : batch.rejected = #[] := by simpa [Batch.isValid] using valid
      exact .inl ⟨after.canvas, fuel, batch, after, ran, none, rfl⟩
    | false => exact .inr (withholds_of_not_valid arguments threshold log after valid)

/-- A program with a limit of iterations always comes to its end. -/
theorem exists_ends_of_limit (limited : arguments.maxIterations ≠ 0) (threshold : Option Level)
    (contents : Except FileError ByteArray) :
    ∃ outcome, Ends arguments threshold contents outcome := by
  -- Only a script that is read can go on for ever, and only without a limit.
  cases read : contents.bind decodeText with
  | error reason => exact ⟨_, 0, by rw [read]; rfl⟩
  | ok text =>
    have bounded : arguments.settings = Settings.withLimit {} (some arguments.maxIterations) := by
      simp [Arguments.settings, Settings.withLimit, limited]
    have ends := (Conduct.ending_covers {} arguments.maxIterations
      (Script.lines text)).allows_runScript 0 (.start arguments.settings arguments.picture)
    rw [← bounded] at ends
    have reports := render_reports arguments threshold 0 text
    generalize rendered : render arguments threshold 0 text = report at reports
    cases reports with
    | finished ran log => exact ⟨_, 0, by rw [read]; exact rendered⟩
    | failed ran withholds => exact ⟨_, 0, by rw [read]; exact rendered⟩
    | dry ran => exact (ends.2 _ (congrArg Prod.fst ran) rfl).elim

/--
The program writes a whole picture or nothing at all.

Suppose that it comes to its end. The exit status is zero exactly if the input can be read, its
bytes are a text, and the script of that text comes to its end without a rejected line. Then the
document of the picture that the script leaves goes to the file as it is, or without a file to the
standard output with a line end, and nowhere else. Otherwise the status is one, the standard output
is empty, and no file is written, whatever has been drawn before the failure.
-/
theorem picture_all_or_nothing {contents : Except FileError ByteArray}
    (ended : Ends arguments threshold contents outcome) :
    (outcome.status = 0 ↔
      ∃ text picture, contents = .ok text.toUTF8 ∧ Draws arguments text picture) ∧
    (∀ text picture, contents = .ok text.toUTF8 → Draws arguments text picture →
      outcome.Delivers arguments.output picture.document) ∧
    (outcome.status ≠ 0 → outcome.Withholds) := by
  obtain ⟨fuel, ran⟩ := ended
  have delivers : ∀ text picture, contents = .ok text.toUTF8 → Draws arguments text picture →
      outcome.Delivers arguments.output picture.document := by
    rintro text picture rfl draws
    have decoded : decodeText text.toUTF8 = .ok text := (decodeText_eq_ok_iff _ text).mpr rfl
    simp only [Except.bind, decoded] at ran
    exact delivers_of_draws draws ran
  -- An input that is no text is the third way to fail.
  have either : (∃ text picture, contents = .ok text.toUTF8 ∧ Draws arguments text picture) ∨
      outcome.Withholds := by
    cases read : contents.bind decodeText with
    | error reason =>
      rw [read] at ran
      obtain rfl := Option.some.inj ran
      exact .inr ⟨rfl, rfl, rfl⟩
    | ok text =>
      rw [read] at ran
      refine (draws_or_withholds ran).imp_left ?_
      rintro ⟨picture, draws⟩
      cases contents with
      | error reason => cases read
      | ok bytes =>
        obtain rfl := (decodeText_eq_ok_iff bytes text).mp read
        exact ⟨text, picture, rfl, draws⟩
  -- What is delivered has status zero, and what is withheld has status one.
  refine ⟨⟨fun success => ?_, ?_⟩, delivers, fun failure => ?_⟩
  · rcases either with drawn | withholds
    · exact drawn
    · rw [withholds.status] at success
      cases success
  · rintro ⟨text, picture, same, draws⟩
    exact (delivers text picture same draws).status
  · rcases either with ⟨text, picture, same, draws⟩ | withholds
    · exact (failure (delivers text picture same draws).status).elim
    · exact withholds

/--
A circle that a block has drawn is delivered, and is withheld if a later line is rejected.

The two scripts differ in that line alone, and the circle is there when the second one fails.
-/
theorem half_drawn_picture_withheld :
    ∃ (arguments : Arguments) (script spoiled : String) (success failure : Outcome)
      (picture : Picture) (circle : Shape),
      spoiled = script ++ "\nspin" ∧
      Ends arguments none (.ok script.toUTF8) success ∧ picture.shapes = #[circle] ∧
      success.Delivers (some "out.svg") picture.document ∧
      Ends arguments none (.ok spoiled.toUTF8) failure ∧
      (scriptOutcome arguments 0 spoiled).2.canvas.shapes = #[circle] ∧ failure.Withholds := by
  let arguments : Arguments :=
    { input := "in.txt", output := some "out.svg", width := 640, height := 480, maxIterations := 9 }
  let script := "IF 1 == 1\r\nCircle 4\nEndIf"
  let spoiled := "IF 1 == 1\r\nCircle 4\nEndIf\nspin"
  let circle : Shape := .circle ⟨0, 0⟩ 4 ⟨⟨.black, 2⟩, ⟨false, .black⟩⟩
  have ends : ∀ contents, ∃ outcome, Ends arguments none contents outcome :=
    exists_ends_of_limit (by decide) none
  obtain ⟨success, ended⟩ := ends (.ok script.toUTF8)
  obtain ⟨failure, spoiledEnded⟩ := ends (.ok spoiled.toUTF8)
  -- The two runs are carried out; the block has drawn its circle in both of them.
  have ran : (scriptOutcome arguments 0 script).1 = .ok {} := by decide +kernel
  have drawn : (scriptOutcome arguments 0 script).2.canvas.shapes = #[circle] := by decide +kernel
  have rejected : (scriptOutcome arguments 0 spoiled).1 =
      .ok { rejected := #[(4, "spin")] } := by decide +kernel
  have also : (scriptOutcome arguments 0 spoiled).2.canvas.shapes = #[circle] := by
    decide +kernel
  have draws : Draws arguments script (scriptOutcome arguments 0 script).2.canvas :=
    ⟨0, {}, _, Prod.fst_eq_iff.mp ran, rfl, rfl⟩
  have delivered := (picture_all_or_nothing ended).2.1 script _ rfl draws
  obtain ⟨status, -, withheld⟩ := picture_all_or_nothing spoiledEnded
  refine ⟨arguments, script, spoiled, success, failure, _, circle, rfl, ended, drawn, delivered,
    spoiledEnded, also, withheld fun zero => ?_⟩
  -- Status zero would mean that the spoiled script has no rejected line.
  obtain ⟨text, picture, same, fuel, batch, after, complete, none, -⟩ := status.mp zero
  have decoded := (decodeText_eq_ok_iff spoiled.toUTF8 text).mpr (Except.ok.inj same)
  rw [(decodeText_eq_ok_iff spoiled.toUTF8 spoiled).mpr rfl] at decoded
  obtain rfl := Except.ok.inj decoded
  have spoils : scriptOutcome arguments 0 spoiled =
      (.ok { rejected := #[(4, "spin")] }, (scriptOutcome arguments 0 spoiled).2) :=
    Prod.fst_eq_iff.mp rejected
  obtain ⟨⟩ := scriptOutcome_unique complete spoils nofun nofun
  cases none

end Plotter.CommandLine
