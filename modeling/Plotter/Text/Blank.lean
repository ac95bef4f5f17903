/-! Sets of characters, the blank ones among them, and texts stripped of blanks at both ends. -/

namespace Plotter.Text

/-- A set of code points, as a list of inclusive ranges in ascending order. -/
abbrev CodePoints := List (Nat × Nat)

namespace CodePoints

/-- Whether a character's code point lies in one of the ranges. -/
def covers (ranges : CodePoints) (c : Char) : Bool :=
  -- Both ends of a range belong to it.
  ranges.any fun range => range.1 ≤ c.toNat && c.toNat ≤ range.2

end CodePoints

/-- The characters with the Unicode property White_Space. -/
def blankPoints : CodePoints :=
  -- Controls and the space, then the wider spaces and the two separators.
  [(0x9, 0xd), (0x20, 0x20), (0x85, 0x85), (0xa0, 0xa0), (0x1680, 0x1680), (0x2000, 0x200a),
   (0x2028, 0x2029), (0x202f, 0x202f), (0x205f, 0x205f), (0x3000, 0x3000)]

/-- Whether a character is blank. -/
def isBlank (c : Char) : Bool :=
  -- Line ends are blank too, so a stripped text neither starts nor ends with one.
  blankPoints.covers c

/-- A list of characters without the blanks at its end. -/
def trimEnd (text : List Char) : List Char :=
  -- The end is the front of the reversed text.
  (text.reverse.dropWhile isBlank).reverse

/-- A list of characters without the blanks at either end. -/
def trimChars (text : List Char) : List Char :=
  -- Blanks between other characters stay where they are.
  trimEnd (text.dropWhile isBlank)

/-- A text without the blanks at either end. -/
def trim (text : String) : String :=
  -- A text of nothing but blanks becomes empty.
  String.ofList (trimChars text.toList)

end Plotter.Text
