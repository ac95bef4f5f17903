/-! Readers that take a value from the front of a text and hand back the rest. -/

namespace Plotter

/-- A reader: it fails, or gives a value and the characters after it. -/
abbrev Scan :=
  -- A failure has no message, as another reader may still take the text.
  StateT (List Char) Option

namespace Scan

/-- Reads the given text and nothing else. -/
def literal (text : String) : Scan Unit :=
  -- What follows the text is not looked at.
  fun input => (text.toList.isPrefixOf? input).map ((), ·)

/-- Reads the longest run of characters that pass the test. -/
def many (test : Char → Bool) : Scan (List Char) :=
  -- The run may be empty, so this never fails.
  fun input => some (input.takeWhile test, input.dropWhile test)

/-- Reads the longest run of characters that pass the test, which must not be empty. -/
def many1 (test : Char → Bool) : Scan (List Char) := do
  -- A run of one character is enough.
  let found ← many test
  if found.isEmpty then failure else return found

/-- Reads the first of the options whose spelling stands at the front. -/
def oneOf {α : Type} (spelling : α → String) (options : List α) : Scan α :=
  -- The first option that fits is taken, even if a later one is longer.
  options.firstM fun option => do
    literal (spelling option)
    return option

/-- Whether a character separates the words of a line. -/
def isSpace (c : Char) : Bool :=
  -- Other blanks do not separate words inside a line.
  c == ' ' || c == '\t'

/-- Reads any number of spaces and tabs. -/
def spaces : Scan Unit :=
  -- What the run is made of is of no interest.
  discard (many isSpace)

/-- Reads at least one space or tab. -/
def spaces1 : Scan Unit :=
  -- Words that stand next to each other without a space are one word.
  discard (many1 isSpace)

/-- Reads a value with spaces allowed on both sides of it. -/
def spaced {α : Type} (reader : Scan α) : Scan α := do
  -- The spaces behind the value are gone even if nothing follows them.
  spaces
  let value ← reader
  spaces
  return value

/-- Reads a word and the spaces that must follow it. -/
def keyword (word : String) : Scan Unit := do
  -- Without a space behind it, the word is only the start of another one.
  literal word
  spaces1

/-- Reads everything that is left. -/
def rest : Scan (List Char) :=
  -- This never fails, and leaves nothing for another reader.
  fun input => some (input, [])

/-- The value of a text that the reader takes in whole. -/
def whole? {α : Type} (reader : Scan α) (input : List Char) : Option α :=
  -- Whatever the reader leaves over spoils the match.
  match reader input with
  | some (value, []) => some value
  | _ => none

end Scan

end Plotter
