import Plotter.Text.GraphemeExtend
import Plotter.Text.Unprintable

/-! Texts between double quotes, with every character that would not show written as an escape. -/

namespace Plotter.Text

/-- The characters with the Unicode property Default_Ignorable_Code_Point. -/
def defaultIgnorablePoints : CodePoints :=
  -- Joiners, direction marks, variation selectors, tags and the fillers of Hangul.
  [(0xad, 0xad), (0x34f, 0x34f), (0x61c, 0x61c), (0x115f, 0x1160), (0x17b4, 0x17b5),
   (0x180b, 0x180f), (0x200b, 0x200f), (0x202a, 0x202e), (0x2060, 0x206f), (0x3164, 0x3164),
   (0xfe00, 0xfe0f), (0xfeff, 0xfeff), (0xffa0, 0xffa0), (0xfff0, 0xfff8), (0x1bca0, 0x1bca3),
   (0x1d173, 0x1d17a), (0xe0000, 0xe0fff)]

/-- Whether a character may be left out where it is not supported. -/
def isDefaultIgnorable (c : Char) : Bool :=
  -- The fillers of Hangul are letters, and are left out all the same.
  defaultIgnorablePoints.covers c

/-- The escape of a character by its code point, in hexadecimal without padding. -/
def codePointEscape (c : Char) : List Char :=
  -- The braces mark where the digits end, so none of them has to be filled up.
  "\\u\x7b".toList ++ Nat.toDigits 16 c.toNat ++ ['\x7d']

/-- Whether a character is drawn on the one before it instead of in a place of its own. -/
def isOverlaid (c : Char) : Bool :=
  -- The two halfwidth voicing marks extend a character too, but stand in a cell of their own.
  isGraphemeExtend c && c != '\uff9e' && c != '\uff9f'

/-- Whether a quoted text shows the character as it is. -/
def isShown (c : Char) : Bool :=
  -- The printable part of ASCII needs no look at the tables.
  if c.toNat < 0x7f then 0x20 ≤ c.toNat
  else !isOverlaid c && !isDefaultIgnorable c && !isUnprintable c

/-- How a quoted text writes one character. -/
def escapeChar (c : Char) : List Char :=
  match c with
  | '"' => ['\\', '"']
  | '\\' => ['\\', '\\']
  | '\t' => ['\\', 't']
  | '\r' => ['\\', 'r']
  | '\n' => ['\\', 'n']
  | '\x00' => ['\\', '0']
  -- All other characters are shown or given by their number.
  | c => if isShown c then [c] else codePointEscape c

/-- A text in double quotes. -/
def quote (text : String) : String :=
  -- Every character is escaped on its own, whatever stands next to it.
  String.ofList ('"' :: text.toList.flatMap escapeChar ++ ['"'])

end Plotter.Text
