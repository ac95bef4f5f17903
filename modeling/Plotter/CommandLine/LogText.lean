import Plotter.Event

/-! The lines that a log is printed in. -/

namespace Plotter.CommandLine

/-- The events of a log that are printed: those at least as important as the given level. -/
def isPrinted (threshold : Option Level) (event : Event) : Bool :=
  -- The threshold itself is printed, too.
  match threshold with
  | none => false
  | some level => event.level.rank ≤ level.rank

/-- A text with spaces after it, up to the given length. -/
def padRight (length : Nat) (text : String) : String :=
  -- A text that is long enough already gets no spaces.
  text ++ String.ofList (List.replicate (length - text.length) ' ')

/-- The printed part of a log. -/
structure LogText where
  /-- The length of the longest source printed so far. -/
  width : Nat := 0
  /-- The lines printed so far. -/
  text : String := ""

namespace LogText

/-- Prints an event; sources are padded to the longest one printed so far. -/
def print (log : LogText) (event : Event) : LogText :=
  -- The width never shrinks, so a later line is at least as wide as those before it.
  let width := max log.width event.source.name.length
  { width
    text := log.text ++ " " ++ padRight 5 event.level.name ++ " " ++
      padRight width event.source.name ++ " > " ++ event.message ++ "\n" }

/-- Prints the events that are important enough. -/
def printAll (log : LogText) (threshold : Option Level) (events : List Event) : LogText :=
  -- An event that is not printed leaves no trace, not even in the width.
  events.foldl (fun log event => if isPrinted threshold event then log.print event else log) log

end LogText

/-- The level that a name stands for, in lower case; `off` stands for none. -/
def threshold? (name : String) : Option (Option Level) :=
  -- Any other word is no level, and leaves the choice to the program.
  match name with
  | "off" => some none
  | "error" => some (some .error)
  | "warn" => some (some .warn)
  | "info" => some (some .info)
  | "debug" => some (some .debug)
  | "trace" => some (some .trace)
  | _ => none

end Plotter.CommandLine
