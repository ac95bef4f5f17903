import Plotter.Action.Script
import Plotter.Canvas.Picture
import Plotter.CommandLine.Arguments
import Plotter.CommandLine.LogText
import Plotter.Script

/-! The program: a script goes in, a picture or a report of what is wrong comes out. -/

namespace Plotter.CommandLine

/-- Why a file cannot be read or written. -/
inductive FileError where
  /-- There is no such file. -/
  | notFound
  /-- The path names a directory. -/
  | isDirectory
  /-- The path leads through something that is not a directory. -/
  | notDirectory
  /-- The file is closed to the user. -/
  | denied
  /-- The bytes of the file are not a text. -/
  | notText
  /-- Another reason, in the words of the system. -/
  | other (message : String)
  deriving DecidableEq, Repr

/-- The text of the reason. -/
def FileError.message : FileError → String
  -- The numbers are those that the system has for these errors.
  | notFound => "No such file or directory (os error 2)"
  | isDirectory => "Is a directory (os error 21)"
  | notDirectory => "Not a directory (os error 20)"
  | denied => "Permission denied (os error 13)"
  | notText => "stream did not contain valid UTF-8"
  | other message => message

/-- The text that the bytes of a file stand for. -/
def decodeText (bytes : ByteArray) : Except FileError String :=
  -- A text is read in whole or not at all, so there is no script that is half known.
  match String.fromUTF8? bytes with
  | some text => .ok text
  | none => .error .notText

/-- What the program leaves behind. -/
structure Outcome where
  /-- The exit status. -/
  status : Nat
  /-- What was written to the standard output. -/
  stdout : String := ""
  /-- What was written to the standard error. -/
  stderr : String := ""
  /-- The path and the content of the file to write. -/
  file : Option (String × String) := none
  deriving DecidableEq, Repr

/-- The report of a failure that has a cause. -/
def failureText (what cause : String) : String :=
  -- The cause stands behind the failure, in a paragraph of its own.
  "Error: " ++ what ++ "\n\nCaused by:\n    " ++ cause ++ "\n"

/-- The outcome of wrong arguments, apart from the explanation of how to use the program. -/
def Outcome.badUsage : Outcome :=
  -- No script has been read, so there is nothing else to tell.
  { status := 2 }

/-- The outcome if the file cannot be written after all. -/
def Outcome.writeFailed (outcome : Outcome) (path : String) (error : FileError) : Outcome :=
  -- What was printed before the file was written stays printed.
  { status := 1
    stdout := outcome.stdout
    stderr := outcome.stderr ++ failureText ("failed to write " ++ path) error.message }

/-- The settings that the arguments ask for. -/
def Arguments.settings (arguments : Arguments) : Settings :=
  -- Zero stands for no limit, as a limit of zero would keep every loop from running.
  { loopLimit := if arguments.maxIterations = 0 then none else some arguments.maxIterations }

/-- The empty picture that the arguments ask for. -/
def Arguments.picture (arguments : Arguments) : Picture :=
  -- A picture starts with the background that a clear would give it.
  { size := { width := arguments.width.toFloat, height := arguments.height.toFloat }
    background := arguments.settings.background }

/-- One line for each notice. -/
def noticeText (notices : List Notice) : String :=
  -- Notices are printed in the order in which they were given.
  String.join (notices.map fun notice => "warning: " ++ notice.message ++ "\n")

/-- One line for each rejected line, with its place in the script. -/
def rejectionText (input : String) (rejected : List (Nat × String)) : String :=
  -- The path and the number are separated by colons, as in reports of other programs.
  String.join (rejected.map fun (number, text) =>
    input ++ ":" ++ Number.decimal number ++ ": invalid command: " ++ text ++ "\n")

/-- The outcome of a run that ended with a batch. -/
def finish (arguments : Arguments) (threshold : Option Level) (log : LogText)
    (session : Session Picture) (batch : Batch) : Outcome :=
  -- The log of the run comes first, then the warnings, and the rest behind them.
  let warnings := noticeText session.notices.toList
  if batch.isValid then
    let events := [Event.drew session.canvas.shapes.size]
    let rest := { log with text := log.text ++ warnings }.printAll threshold events
    let document := session.canvas.document
    match arguments.output with
    | some path => { status := 0, stderr := rest.text, file := some (path, document) }
    | none => { status := 0, stderr := rest.text, stdout := document ++ "\n" }
  else
    let count := Number.decimal batch.rejected.size
    { status := 1
      stderr := log.text ++ warnings ++ rejectionText arguments.input batch.rejected.toList ++
        "Error: " ++ count ++ " invalid line(s), queued commands were not run\n" }

/-- Runs the script and reports on it; without a limit, a loop is followed as far as the fuel. -/
def render (arguments : Arguments) (threshold : Option Level) (fuel : Nat) (script : String) :
    Option Outcome :=
  let machine : Machine Picture := { session := .start arguments.settings arguments.picture }
  match Action.runScript arguments.settings fuel (Script.lines script) machine with
  | .ok batch machine =>
    let log := LogText.printAll {} threshold machine.log.toList
    some (finish arguments threshold log machine.session batch)
  | .error (.failure error) machine =>
    let log := LogText.printAll {} threshold machine.log.toList
    some { status := 1, stderr := log.text ++ failureText "evaluation error" error.message }
  -- The loop goes on, so there is nothing to report yet.
  | .error .outOfFuel _ => none

/-- The whole program on a script that was read, or could not be. -/
def run (arguments : Arguments) (threshold : Option Level) (fuel : Nat)
    (script : Except FileError String) : Option Outcome :=
  -- A script that cannot be read is never run, so there is no log either.
  match script with
  | .ok text => render arguments threshold fuel text
  | .error error =>
    some {
      status := 1
      stderr := failureText ("failed to open input file " ++ arguments.input) error.message }

end Plotter.CommandLine
