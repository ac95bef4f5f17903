import Plotter.Number

/-! The arguments of the program. -/

namespace Plotter.CommandLine

/-- What the program is asked to do. -/
structure Arguments where
  /-- The path of the script. -/
  input : String
  /-- The path that the picture goes to, in place of the standard output. -/
  output : Option String
  /-- The width of the picture. -/
  width : Nat
  /-- The height of the picture. -/
  height : Nat
  /-- How many iterations a loop may have; zero is no limit. -/
  maxIterations : Nat
  deriving DecidableEq, Repr

/-- The arguments as far as they were given, each at most once. -/
structure Given where
  /-- The path of the script. -/
  input : Option String := none
  /-- The path of the picture. -/
  output : Option String := none
  /-- The width of the picture. -/
  width : Option Nat := none
  /-- The height of the picture. -/
  height : Option Nat := none
  /-- The limit of loops. -/
  maxIterations : Option Nat := none
  deriving DecidableEq, Repr

/-- An option that takes a value. -/
inductive Flag where
  | output
  | width
  | height
  | maxIterations
  deriving DecidableEq, Repr

namespace Flag

/-- The long name of an option. -/
def name : Flag → String
  -- Only the output has a short name too.
  | output => "output"
  | width => "width"
  | height => "height"
  | maxIterations => "max-iterations"

/-- The option with a long name. -/
def ofName? (name : String) : Option Flag :=
  -- A long name cannot be cut short.
  [output, width, height, maxIterations].find? (·.name == name)

end Flag

/-- A path, which must not be empty. -/
def path? (text : String) : Option String :=
  -- Whether there is such a file is found out later.
  if text.isEmpty then none else some text

/-- A length of at most 32 bits; a sign is allowed as long as the value is not negative. -/
def length? (text : String) : Option Nat := do
  -- A minus sign is allowed in front of zero, which is why it is looked at last.
  let (negative, size) ← Scan.whole? (return (← Number.readSign, ← Number.readDigits)) text.toList
  if size < Nat.pow 2 32 ∧ (negative → size = 0) then some size else none

/-- A count of at most 64 bits; a minus sign is not allowed. -/
def count? (text : String) : Option Nat := do
  -- A plus sign is allowed, as it changes nothing.
  let (negative, size) ← Scan.whole? (return (← Number.readSign, ← Number.readDigits)) text.toList
  if size < Nat.pow 2 64 ∧ !negative then some size else none

/-- Fills in a value that must not have been given before. -/
def once {α : Type} : Option α → Option α → Option (Option α)
  -- A second value is wrong even if it is the same.
  | none, some value => some (some value)
  | _, _ => none

namespace Given

/-- Takes the path of the script. -/
def takeInput (given : Given) (value : String) : Option Given := do
  -- There is one script, so a second path is one too many.
  return { given with input := ← once given.input (path? value) }

/-- Takes the value of an option. -/
def takeFlag (given : Given) (value : String) : Flag → Option Given
  -- Each option checks its own value and fills in its own field.
  | .output => do return { given with output := ← once given.output (path? value) }
  | .width => do return { given with width := ← once given.width (length? value) }
  | .height => do return { given with height := ← once given.height (length? value) }
  | .maxIterations => do
    return { given with maxIterations := ← once given.maxIterations (count? value) }

/-- Whether an argument looks like an option, and so is never taken for a value. -/
def looksLikeFlag (argument : String) : Bool :=
  -- A single minus sign is a path, however odd.
  argument.startsWith "-" && argument != "-"

/-- The option that an argument names, and its value if the argument holds that too. -/
def flag? (argument : String) : Option (Flag × Option String) :=
  match argument.toList with
  | '-' :: '-' :: long =>
    -- The first equals sign divides a long option from its value.
    let (name, rest) := long.span (· ≠ '=')
    let value := if rest.isEmpty then none else some (String.ofList rest.tail)
    (Flag.ofName? (String.ofList name)).map (·, value)
  | ['-', 'o'] => some (.output, none)
  | '-' :: 'o' :: '=' :: value => some (.output, some (String.ofList value))
  | '-' :: 'o' :: value => some (.output, some (String.ofList value))
  | _ => none

/-- Takes the arguments after the one that ends the options. -/
def takeInputs (given : Given) : List String → Option Given
  -- Behind the end of the options, nothing is an option, whatever it looks like.
  | [] => some given
  | argument :: rest => do
    let given ← given.takeInput argument
    given.takeInputs rest

/-- Takes arguments in order; none of them may be wrong. -/
def takeAll (given : Given) : List String → Option Given
  | [] => some given
  | argument :: rest =>
    if argument = "--" then given.takeInputs rest
    else if !looksLikeFlag argument then do
      let given ← given.takeInput argument
      given.takeAll rest
    else
      match flag? argument, rest with
      | some (flag, some value), rest => do
        let given ← given.takeFlag value flag
        given.takeAll rest
      | some (flag, none), value :: rest => do
        -- The next argument is the value, unless it looks like an option.
        guard !looksLikeFlag value
        let given ← given.takeFlag value flag
        given.takeAll rest
      | _, _ => none

end Given

/-- The arguments of the program, if they are right. -/
def Arguments.parse? (arguments : List String) : Option Arguments := do
  -- The script is the one argument that has no default.
  let given ← Given.takeAll {} arguments
  return {
    input := ← given.input
    output := given.output
    width := given.width.getD 640
    height := given.height.getD 480
    maxIterations := given.maxIterations.getD 100000 }

end Plotter.CommandLine
