import Plotter.Scan

/-! The numbers of a script: signed, 32 bits wide, never wrapping, and how texts spell them. -/

namespace Plotter

/-- A number of a script. -/
abbrev Number := Int32

namespace Number

/-- The number with a given exact value, if there is one. -/
def ofInt? (value : Int) : Option Number :=
  -- Values outside the range have no number; nothing wraps around.
  if Int32.minValue.toInt ≤ value ∧ value ≤ Int32.maxValue.toInt then some (Int32.ofInt value)
  else none

/-- The decimal digits of an integer, after a minus sign if it is negative. -/
def digits (value : Int) : List Char :=
  -- Zero has a digit of its own, and no sign.
  if value < 0 then '-' :: Nat.toDigits 10 value.natAbs else Nat.toDigits 10 value.natAbs

/-- An integer in decimal notation. -/
def decimal (value : Int) : String :=
  -- The integer need not be a number of a script.
  String.ofList (digits value)

/-- A number in decimal notation. -/
def text (n : Number) : String :=
  -- There is no plus sign, no leading zero and no other spelling.
  decimal n.toInt

/-- Reads the longest run of decimal digits, as the natural number that it spells. -/
def readDigits : Scan Nat := do
  -- The run is read in full before its size is looked at.
  let run ← Scan.many1 Char.isDigit
  return Nat.ofDigitChars 10 run 0

/-- Reads an optional sign, and tells whether it was a minus. -/
def readSign : Scan Bool
  -- A second sign is left for whoever reads on.
  | '-' :: rest => some (true, rest)
  | '+' :: rest => some (false, rest)
  | input => some (false, input)

/-- Reads a signed number; a run of digits that is out of range does not match. -/
def read : Scan Number := do
  -- No shorter run is tried in place of one that is out of range.
  let negative ← readSign
  let size ← readDigits
  ofInt? (if negative then -(size : Int) else size)

/-- Reads a number without a sign; a run of digits that is out of range does not match. -/
def readUnsigned : Scan Number := do
  -- There is one more number below zero, but none of them can be spelled here.
  let size ← readDigits
  ofInt? size

/-- The number with one more digit behind it, if that is a digit and the result is a number. -/
def withDigit? (negative : Bool) (number : Number) (digit : Char) : Option Number := do
  guard digit.isDigit
  let size : Int := digit.toNat - '0'.toNat
  let tens ← ofInt? (number.toInt * 10)
  -- Below zero, digits count downwards, as there is one number more on that side.
  ofInt? (if negative then tens.toInt - size else tens.toInt + size)

/-- The number that digits spell behind a sign, if there are any and nothing else. -/
def ofDigits? (negative : Bool) : List Char → Option Number
  -- No digits at all spell nothing, not even zero.
  | [] => none
  | run => run.foldlM (withDigit? negative) 0

/-- The number that a text spells, if the whole text spells one. -/
def parse? (text : String) : Option Number :=
  -- One sign is taken off; a second one is no digit, and spoils the text.
  match text.toList with
  | '-' :: run => ofDigits? true run
  | '+' :: run => ofDigits? false run
  | run => ofDigits? false run

end Number

end Plotter
