import Plotter.Command.Form
import Plotter.Condition

/-! Events, the records that a log is made of. -/

namespace Plotter

/-- How important an event is, the most important first. -/
inductive Level where
  | error
  | warn
  | info
  | debug
  | trace
  deriving DecidableEq, Repr

namespace Level

/-- What a level is called in a log. -/
def name : Level → String
  -- The names are those that a log line starts with.
  | error => "ERROR"
  | warn => "WARN"
  | info => "INFO"
  | debug => "DEBUG"
  | trace => "TRACE"

/-- The position of a level, counted from the most important one. -/
def rank : Level → Nat
  -- The rank grows as the importance shrinks.
  | error => 1
  | warn => 2
  | info => 3
  | debug => 4
  | trace => 5

end Level

/-- The part of the program that an event comes from. -/
inductive Source where
  /-- The recognition of lines. -/
  | recognition
  /-- The variables. -/
  | store
  /-- The pass over a script. -/
  | script
  /-- The execution of commands. -/
  | execution
  /-- The picture that is drawn on. -/
  | picture
  /-- The command line. -/
  | commandLine
  deriving DecidableEq, Repr

/-- What a source is called in a log. -/
def Source.name : Source → String
  -- These names tell the parts of the program apart, the last two being the outermost.
  | recognition => "pencmd::parse"
  | store => "pencmd::vars"
  | script => "pencmd::collect"
  | execution => "pencmd::exec"
  | picture => "pencmd_host"
  | commandLine => "pencmd"

/-- Something that happened. -/
inductive Event where
  /-- A line has a form. -/
  | recognized (line : String) (form : Form)
  /-- A variable has a new value. -/
  | assigned (name : String) (value : Value)
  /-- A command is about to be carried out. -/
  | executing (command : Command)
  /-- A notice was given. -/
  | noticed (notice : Notice)
  /-- An iteration of a loop starts. -/
  | iteration (condition : Condition) (count : Nat)
  /-- A loop has come to its end. -/
  | loopFinished (condition : Condition) (count : Nat)
  /-- The condition of a branch was decided. -/
  | branched (condition : Condition) (taken : Bool)
  /-- A block was closed and is about to run. -/
  | blockClosed (kind : BlockKind) (line size : Nat)
  /-- A line outside of blocks has none of the known forms. -/
  | rejected (line : Nat) (text : String)
  /-- The queue of a script was not carried out. -/
  | queueSkipped (rejected : Nat)
  /-- A line stopped the pass over a script. -/
  | lineFailed (line : Nat) (error : Error)
  /-- The end of a script was wrong. -/
  | endFailed (error : Error)
  /-- A picture loses its shapes. -/
  | clearing (shapes : Nat)
  /-- A picture is complete. -/
  | drew (shapes : Nat)
  deriving DecidableEq, Repr

namespace Event

/-- How important an event is. -/
def level : Event → Level
  -- Only what ends a pass is an error; a rejected line is no more than a warning.
  | lineFailed _ _ | endFailed _ => .error
  | noticed _ | rejected _ _ | queueSkipped _ => .warn
  | drew _ => .info
  | executing _ | loopFinished _ _ | branched _ _ | blockClosed _ _ _ | clearing _ => .debug
  | recognized _ _ | assigned _ _ | iteration _ _ => .trace

/-- Where an event comes from. -/
def source : Event → Source
  -- A notice comes from execution, even though it is about a line.
  | recognized _ _ => .recognition
  | assigned _ _ => .store
  | executing _ | noticed _ | iteration _ _ | loopFinished _ _ | branched _ _ => .execution
  | blockClosed _ _ _ | rejected _ _ | queueSkipped _ | lineFailed _ _ | endFailed _ => .script
  | clearing _ => .picture
  | drew _ => .commandLine

/-- The word for a truth value. -/
def truthText (value : Bool) : String :=
  -- Conditions have no text for their value anywhere else.
  if value then "true" else "false"

/-- The text of an event. -/
def message : Event → String
  -- Texts of the script are quoted, commands and conditions are printed anew.
  | recognized line form => Text.quote line ++ " matched " ++ form.name
  | assigned name value => name ++ " = " ++ value.shown
  | executing command => "executing " ++ command.text
  | noticed notice => notice.message
  | iteration condition count =>
    "while " ++ condition.text ++ ": iteration " ++ Number.decimal count
  | loopFinished condition count =>
    "while " ++ condition.text ++ ": finished after " ++ Number.decimal count ++ " iterations"
  | branched condition taken => "if " ++ condition.text ++ ": " ++ truthText taken
  | blockClosed kind line size =>
    "running " ++ kind.keyword ++ " block from line " ++ Number.decimal line ++ " (" ++
      Number.decimal size ++ " lines)"
  | rejected line text =>
    "line " ++ Number.decimal line ++ ": unrecognized command " ++ Text.quote text
  | queueSkipped count =>
    Number.decimal count ++ " invalid line(s), not executing the queued commands"
  | lineFailed line error => "line " ++ Number.decimal line ++ ": " ++ error.message
  | endFailed error => error.message
  | clearing shapes => "clearing " ++ Number.decimal shapes ++ " shapes"
  | drew shapes => "drew " ++ Number.decimal shapes ++ " shapes"

end Event

end Plotter
