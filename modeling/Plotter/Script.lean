import Plotter.Text.Blank
import Plotter.Text.Lowercase

/-! The lines of a script, whichever of the three line ends it uses. -/

namespace Plotter

namespace Text

/-- Whether a character ends a line on its own. -/
def isLineEnd (c : Char) : Bool :=
  -- The other line breaks of Unicode are blanks like any other.
  c == '\r' || c == '\n'

/-- Puts a character in front of the first of a list of lines. -/
def consFirst (c : Char) : List (List Char) → List (List Char)
  -- Where no line has been started, the character starts one.
  | [] => [[c]]
  | line :: lines => (c :: line) :: lines

/-- Splits a text at each carriage return and line feed that stand together. -/
def splitPairs : List Char → List (List Char)
  -- A text without a pair is one line, also if it is empty.
  | [] => [[]]
  | '\r' :: '\n' :: rest => [] :: splitPairs rest
  | c :: rest => consFirst c (splitPairs rest)

/-- Splits a text at each carriage return and at each line feed. -/
def splitSingles : List Char → List (List Char)
  | [] => [[]]
  | c :: rest =>
    -- A text with n line ends has n + 1 lines, the last of which may be empty.
    if isLineEnd c then [] :: splitSingles rest else consFirst c (splitSingles rest)

/-- Splits a text at each line feed, carriage return, or carriage return and line feed. -/
def splitLines (text : List Char) : List (List Char) :=
  -- The pairs come first, so that none of them counts as two line ends.
  (splitPairs text).flatMap splitSingles

end Text

namespace Script

/-- The lines of a script: lower-case and without the blanks around them. -/
def lines (text : String) : List String :=
  -- Empty lines are kept, because they count.
  (Text.splitLines (Text.lowercase text.toList)).map fun line =>
    String.ofList (Text.trimChars line)

end Script

end Plotter
