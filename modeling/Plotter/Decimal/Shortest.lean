/-! The decimal with the fewest digits among those that read back as a given binary number. -/

namespace Plotter.Decimal

/-- A positive binary number `mantissa * 2 ^ exponent`, as floating point arithmetic knows it. -/
structure Binary where
  /-- The significant bits. -/
  mantissa : Nat
  /-- The weight of the last of them. -/
  exponent : Int
  /-- Whether the next smaller number is only half as far away as the next larger one. -/
  narrowBelow : Bool

/-- A positive decimal number `digits * 10 ^ exponent`. -/
structure Scientific where
  /-- The significant digits, read as a number. -/
  digits : Nat
  /-- The weight of the last of them. -/
  exponent : Int
  deriving DecidableEq, Repr

namespace Binary

/-- A quarter of the weight of the last bit, as a quotient of two natural numbers. -/
def quarter (x : Binary) : Nat × Nat :=
  -- At least one of the two is one, as only one of the exponents is above zero.
  (Nat.pow 2 (x.exponent - 2).toNat, Nat.pow 2 (2 - x.exponent).toNat)

/-- Whether a number of quarters, given as a quotient, is rounded to the binary number. -/
def reads (x : Binary) (num den : Nat) : Bool :=
  -- Numbers halfway to a neighbour are rounded to the even mantissa.
  let low := (4 * x.mantissa - if x.narrowBelow then 1 else 2) * den
  let high := (4 * x.mantissa + 2) * den
  if x.mantissa % 2 = 0 then low ≤ num && num ≤ high else low < num && num < high

/--
The multiple of `10 ^ exponent` that is nearest among those that read back, if there is one.

Of two multiples at the same distance it is the larger one.
-/
def nearest? (x : Binary) (exponent : Int) : Option Nat :=
  let (up, down) := x.quarter
  -- In quarters, a multiple `d` of the power of ten is `d * step / scale`.
  let step := Nat.pow 10 exponent.toNat * down
  let scale := Nat.pow 10 (-exponent).toNat * up
  let below := 4 * x.mantissa * scale / step
  let excess := 4 * x.mantissa * scale % step
  -- If any multiple reads back, one of the two neighbours does.
  match x.reads (below * step) scale, x.reads ((below + 1) * step) scale with
  | true, true => some (if 2 * excess < step then below else below + 1)
  | true, false => some below
  | false, true => some (below + 1)
  | false, false => none

/-- Tries the given exponent and then ever smaller ones. -/
def search (x : Binary) (exponent : Int) : Nat → Option Scientific
  -- The first exponent at which a multiple reads back has the fewest digits.
  | 0 => none
  | tries + 1 =>
    match x.nearest? exponent with
    | some digits => some { digits, exponent }
    | none => x.search (exponent - 1) tries

/-- The decimal with the fewest digits that reads back as the binary number. -/
def shortest? (x : Binary) : Option Scientific :=
  -- No double is above 10 ^ 309, and none has more than 1074 digits after the point.
  x.search 309 1384

end Binary

/-- A decimal without an exponent. -/
def Scientific.positional (x : Scientific) : String :=
  let digits := Nat.toDigits 10 x.digits
  if 0 ≤ x.exponent then String.ofList (digits ++ List.replicate x.exponent.toNat '0')
  else
    -- At least one digit stands in front of the point.
    let places := x.exponent.natAbs
    let padded := List.replicate (places + 1 - digits.length) '0' ++ digits
    let whole := padded.length - places
    String.ofList (padded.take whole ++ '.' :: padded.drop whole)

/-- The binary number that the magnitude of a double is, if it is positive and finite. -/
def Binary.ofBits? (bits : Nat) : Option Binary :=
  let biased : Nat := bits / Nat.pow 2 52 % Nat.pow 2 11
  let fraction : Nat := bits % Nat.pow 2 52
  if biased = 0x7ff then none
  else if biased = 0 then
    -- Numbers below the least normal one have no hidden bit.
    if fraction = 0 then none
    else some { mantissa := fraction, exponent := -1074, narrowBelow := false }
  else
    some {
      mantissa := fraction + Nat.pow 2 52
      exponent := (biased : Int) - 1075
      narrowBelow := fraction = 0 && 1 < biased }

/-- A finite double with the fewest digits that read back, without an exponent. -/
def ofFloat (value : Float) : String :=
  -- Zero and what is no number at all are both written as zero.
  let bits := value.toBits.toNat
  let sign := if Nat.pow 2 63 ≤ bits then "-" else ""
  match (Binary.ofBits? bits).bind Binary.shortest? with
  | some decimal => sign ++ decimal.positional
  | none => sign ++ "0"

end Plotter.Decimal
