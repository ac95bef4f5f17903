import Plotter.CommandLine.Program

/-! The command line: files, streams and the exit status around the program. -/

namespace Plotter.CommandLine

/-- The name of the environment variable that holds the level of the log. -/
def levelVariable : String :=
  -- The level is no argument, as it is not about the picture.
  "RUST_LOG"

/-- How many iterations a loop without a limit is followed for. -/
def ampleFuel : Nat :=
  -- No loop comes that far while anyone waits for it.
  Nat.pow 2 62

/-- The words for an error of the system. -/
def fileError (error : IO.Error) : FileError :=
  match error with
  | .noFileOrDirectory _ _ _ => .notFound
  | .permissionDenied _ _ _ => .denied
  -- A wrong kind of file is a directory, or something else where one is needed.
  | .inappropriateType _ _ details =>
    if details == "Is a directory" then .isDirectory else .notDirectory
  | error => .other (toString error)

/-- Reads a script. -/
def readScript (path : String) : IO (Except FileError String) := do
  -- The file is read as bytes, so that one that is no text is told apart from a missing one.
  try
    return decodeText (← IO.FS.readBinFile path)
  catch error => return .error (fileError error)

/-- Writes the file of an outcome, if it has one. -/
def writeFile (outcome : Outcome) : IO Outcome := do
  match outcome.file with
  -- A picture for the standard output needs no file.
  | none => return outcome
  | some (path, content) =>
    try
      IO.FS.writeFile path content
      return outcome
    catch error => return outcome.writeFailed path (fileError error)

/-- Runs the program with the given arguments. -/
def runProgram (arguments : Arguments) : IO Outcome := do
  let level := ((← IO.getEnv levelVariable).bind threshold?).getD (some .error)
  let script ← readScript arguments.input
  match run arguments level ampleFuel script with
  -- Without a level, only errors are logged.
  | some outcome => writeFile outcome
  | none => return { status := 1 }

end Plotter.CommandLine

open Plotter.CommandLine in
/-- The entry point of the program. -/
def main (arguments : List String) : IO UInt32 := do
  -- A picture that goes to a file is written before anything is printed.
  match Arguments.parse? arguments with
  | none =>
    IO.eprintln "usage: [-o FILE] [--width N] [--height N] [--max-iterations N] INPUT"
    return 2
  | some arguments =>
    let outcome ← runProgram arguments
    IO.eprint outcome.stderr
    IO.print outcome.stdout
    return outcome.status.toUInt32
