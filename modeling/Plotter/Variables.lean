import Plotter.Error
import Plotter.Operand
import Plotter.Text.Blank

/-! Variables: names bound to positive numbers or texts that are not empty. -/

namespace Plotter

/-- What a variable holds; scripts themselves only store numbers. -/
inductive Value where
  /-- A number. -/
  | int (value : Number)
  /-- A text. -/
  | text (value : String)
  deriving DecidableEq, Repr

namespace Value

/-- A value as it is shown; texts stand in quotes. -/
def shown : Value → String
  -- Quotes tell a text that looks like a number from the number.
  | int value => value.text
  | text value => Text.quote value

/-- The number that a value holds, if it holds one. -/
def int? : Value → Option Number
  -- A text is never read as a number, whatever it spells.
  | int value => some value
  | text _ => none

end Value

/-- What looking up a name comes to. -/
inductive Lookup where
  /-- The name is bound to a value. -/
  | found (value : Value)
  /-- The name is not bound, and is handed back. -/
  | missing (name : String)
  deriving DecidableEq, Repr

/-- Bindings of names to values, in ascending order of the names. -/
structure Variables where
  /-- The bindings, each name at most once. -/
  entries : List (String × Value) := []
  deriving DecidableEq, Repr

namespace Variables

/-- No bindings at all. -/
def empty : Variables :=
  -- Nothing is ever taken out of a store, so only a fresh one is empty.
  {}

/-- Binds a name in a list of bindings, in place of what it was bound to. -/
def insertEntry (name : String) (value : Value) : List (String × Value) → List (String × Value)
  | [] => [(name, value)]
  | (key, held) :: rest =>
    -- The list stays in ascending order.
    if name = key then (name, value) :: rest
    else if name < key then (name, value) :: (key, held) :: rest
    else (key, held) :: insertEntry name value rest

/-- Binds a name without any check. -/
def insert (store : Variables) (name : String) (value : Value) : Variables :=
  -- Whoever binds a name this way has checked it before.
  { entries := insertEntry name value store.entries }

/-- The value that a name is bound to. -/
def get? (store : Variables) (name : String) : Option Value :=
  -- Names are compared character by character, upper and lower case apart.
  store.entries.lookup name

/-- Looks up a name. -/
def lookup (store : Variables) (name : String) : Lookup :=
  -- The name is handed back, as the caller may want to report it.
  match store.get? name with
  | some value => .found value
  | none => .missing name

/-- The number that a name is bound to. -/
def int? (store : Variables) (name : String) : Option Number :=
  -- A name that is bound to a text counts as one without a number.
  (store.get? name).bind Value.int?

/-- The number of bindings. -/
def size (store : Variables) : Nat :=
  -- A name that is bound again is not counted again.
  store.entries.length

/-- Checks that a name can be bound to a value: the name first, then the value. -/
def check (name : String) (value : Value) : Except Error Unit :=
  -- A bad name is reported whatever the value is.
  if !Identifier.isValid name then .error (.badName name)
  else
    match value with
    | .int number => if number ≤ 0 then .error (.notPositive name number) else .ok ()
    | .text content => if content.isEmpty then .error (.emptyText name) else .ok ()

/-- Binds a name to a value, if the two pass the check. -/
def assign (store : Variables) (name : String) (value : Value) : Except Error Variables := do
  -- A store that refuses a binding is left as it was.
  check name value
  return store.insert name value

/-- The number that a token stands for: itself, or what the variable of that name holds. -/
def resolveToken (store : Variables) (token : String) : Except Error Number :=
  let token := Text.trim token
  -- A token that spells a number is never looked up.
  match (Number.parse? token).or (store.int? token) with
  | some number => .ok number
  | none => .error (.unresolved token)

/-- The number that an operand stands for. -/
def resolve (store : Variables) : Operand → Except Error Number
  -- A number needs no variable, so it is never unresolved.
  | .lit value => .ok value
  | .var name => store.resolveToken name

end Variables

end Plotter
