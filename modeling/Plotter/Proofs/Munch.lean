import Mathlib.Data.Nat.Digits.Defs
import Plotter.Proofs.Stepwise

/-!
Operands at the front of a text.

An operand is read as the longest token that the text starts with. How long that is depends on the
characters alone, and not on whether the number is in range.
-/

namespace Plotter

open Plotter.Scan

namespace Number

/-- The value of a run of digits by their places, of which the last one counts once. -/
def placeValue (run : List Char) : Nat :=
  -- The last digit counts ones, so the run is reversed before the digits are weighed.
  Nat.ofDigits 10 (run.reverse.map fun c => c.toNat - '0'.toNat)

/-- Digits that are added one after the other make the value that they have by their places. -/
theorem ofDigitChars_eq_placeValue (run : List Char) :
    Nat.ofDigitChars 10 run 0 = placeValue run := by
  induction run with
  | nil => rfl
  | cons c rest ih =>
    -- The first digit stands in the place behind which all others are.
    rw [Nat.ofDigitChars_cons, Nat.ofDigitChars_eq_ofDigitChars_zero, ih, placeValue, placeValue,
      List.reverse_cons, List.map_append, Nat.ofDigits_append]
    simp [Nat.add_comm]

/-- The text has the form `[+-]?[0-9]+`, and the value is that of its digits behind its sign. -/
inductive Spells : List Char → Int → Prop
  | unsigned {run : List Char} (filled : run ≠ []) (digits : ∀ c ∈ run, Identifier.Digit c) :
    Spells run (placeValue run)
  | plus {run : List Char} (filled : run ≠ []) (digits : ∀ c ∈ run, Identifier.Digit c) :
    Spells ('+' :: run) (placeValue run)
  | minus {run : List Char} (filled : run ≠ []) (digits : ∀ c ∈ run, Identifier.Digit c) :
    Spells ('-' :: run) (-placeValue run)

/-- The value is one that a number of 32 bits can have. -/
def InRange (value : Int) : Prop :=
  -- The bounds are those of 32 bits, written as powers.
  -2 ^ 31 ≤ value ∧ value ≤ 2 ^ 31 - 1

instance : DecidablePred InRange := fun value =>
  -- Both comparisons can be evaluated.
  inferInstanceAs (Decidable (-2 ^ 31 ≤ value ∧ value ≤ 2 ^ 31 - 1))

/-- A run of digits has the value that it has by its places. -/
theorem mem_digits_iff_placeValue (run : List Char) (value : Int) :
    run ∈ Grammar.digits value ↔
      run ≠ [] ∧ (∀ c ∈ run, Identifier.Digit c) ∧ (placeValue run : Int) = value := by
  -- The two values of a run of digits agree, so the grammar may use either.
  rw [← ofDigitChars_eq_placeValue]
  rfl

/-- A text spells the value of a number exactly if it is one of the ways to write the number. -/
theorem spells_toInt_iff (token : List Char) (number : Number) :
    Spells token number.toInt ↔ token ∈ Grammar.integer number := by
  simp only [mem_integer, mem_digits_iff_placeValue]
  -- The ways to spell a number and those to write it differ in the sign that stands in front.
  constructor
  · generalize same : number.toInt = value
    intro spells
    cases spells with
    | unsigned filled digits => exact .inl ⟨filled, digits, rfl⟩
    | plus filled digits => exact .inr (.inl ⟨_, ⟨filled, digits, rfl⟩, rfl⟩)
    | minus filled digits => exact .inr (.inr ⟨_, ⟨filled, digits, by simp⟩, rfl⟩)
  · intro written
    rcases written with ⟨filled, digits, value⟩ | ⟨run, ⟨filled, digits, value⟩, rfl⟩ |
      ⟨run, ⟨filled, digits, value⟩, rfl⟩
    · exact value ▸ .unsigned filled digits
    · exact value ▸ .plus filled digits
    · rw [← Int.neg_neg number.toInt, ← value]
      exact .minus filled digits

/-- The values in range are those that numbers have. -/
theorem ofInt?_of_inRange {value : Int} (inRange : InRange value) :
    ofInt? value = some (Int32.ofInt value) := by
  -- In the range, going to a machine integer and back loses nothing.
  obtain ⟨least, most⟩ := inRange
  exact (ofInt?_eq_some_iff value _).mpr (Int32.toInt_ofInt_of_le (by omega) (by omega))

/-- No number has a value that is out of range. -/
theorem ofInt?_of_not_inRange {value : Int} (outside : ¬ InRange value) : ofInt? value = none := by
  refine Option.eq_none_iff_forall_ne_some.mpr fun number found => outside ?_
  -- A number that could be made would put the value in the range.
  obtain ⟨least, most⟩ := (exists_ofInt?_iff value).mp ⟨number, found⟩
  exact ⟨by omega, by omega⟩

/-- Behind its sign, a run of digits is read as the number with its value, if there is one. -/
theorem readSigned_of_digits (negative : Bool) {run rest : List Char} (filled : run ≠ [])
    (digits : ∀ c ∈ run, Identifier.Digit c) (stops : Stops Char.isDigit rest) :
    (readDigits >>= fun size => liftM (ofInt? (if negative then -(size : Int) else size)) :
      Scan Number) (run ++ rest) = (ofInt? (signed negative (placeValue run))).map (·, rest) := by
  -- The digits are read first, and whether their value fits is asked afterwards.
  have size : readDigits (run ++ rest) = some (placeValue run, rest) :=
    (takes_readDigits _ _ _).mpr
      ⟨run, (mem_digits_iff_placeValue _ _).mpr ⟨filled, digits, rfl⟩, rfl, stops⟩
  show (readDigits (run ++ rest)).bind _ = _
  rw [size]
  cases negative <;> exact (Option.map_eq_bind ..).symm

/--
A text that spells a value is read as a whole or not at all.

It is the range that decides between the two, once all the digits have been read.
-/
theorem read_of_spells {token rest : List Char} {value : Int} (spells : Spells token value)
    (stops : Stops Char.isDigit rest) : read (token ++ rest) = (ofInt? value).map (·, rest) := by
  show (readSign (token ++ rest)).bind _ = _
  cases spells with
  | unsigned filled digits =>
    -- A run of digits does not start with a sign.
    have member := (mem_digits_iff_placeValue token _).mpr ⟨filled, digits, rfl⟩
    have noSign := (breaks_isSign _).stops member rest
    rw [(readSign_eq_some_iff false _ _).mpr (.inr (.inr ⟨rfl, rfl, noSign⟩))]
    exact readSigned_of_digits false filled digits stops
  | plus filled digits => exact readSigned_of_digits false filled digits stops
  | minus filled digits => exact readSigned_of_digits true filled digits stops

/-- No text that spells a value starts like a name. -/
theorem Spells.stops_isStart {token : List Char} {value : Int} (spells : Spells token value)
    (rest : List Char) : Stops Identifier.isStart (token ++ rest) := by
  -- A literal begins with a digit or a sign, and no name does.
  cases spells with
  | unsigned filled digits =>
    have member := (mem_digits_iff_placeValue token _).mpr ⟨filled, digits, rfl⟩
    exact (breaks_digits (fun _ => Identifier.isStart_of_digit) _).stops member rest
  | plus => exact (stops_cons _ _ _).mpr (by decide)
  | minus => exact (stops_cons _ _ _).mpr (by decide)

end Number

namespace Operand

/-- The longest operand at the front of a text, and what is left behind it. -/
inductive MaximalMunch : List Char → Operand → List Char → Prop
  | lit {token rest : List Char} {value : Int} (spells : Number.Spells token value)
      (inRange : Number.InRange value) (ends : ∀ c ∈ rest.head?, ¬ Identifier.Digit c) :
    MaximalMunch (token ++ rest) (.lit (Int32.ofInt value)) rest
  | var {name : String} {rest : List Char} (spelled : Identifier.Spelled name)
      (ends : ∀ c ∈ rest.head?, ¬ (Identifier.Letter c ∨ Identifier.Digit c)) :
    MaximalMunch (name.toList ++ rest) (.var name) rest

/-- A reader of operands that takes the longest token, whatever stands in the text. -/
structure TakesLongest (reader : Scan Operand) : Prop where
  /-- It reads the longest operand at the front of the text and nothing else. -/
  reads : ∀ input operand rest,
    reader input = some (operand, rest) ↔ MaximalMunch input operand rest
  /-- It fails exactly on the texts that no operand stands in front of. -/
  fails : ∀ input, reader input = none ↔ ∀ operand rest, ¬ MaximalMunch input operand rest
  /-- It fails on a number out of range, even if some digits fewer would make one in range. -/
  outOfRange : ∀ token value rest, Number.Spells token value → ¬ Number.InRange value →
    (∀ c ∈ rest.head?, ¬ Identifier.Digit c) → reader (token ++ rest) = none
  /-- It reads what is written for an operand, up to what cannot go on with a name or a number. -/
  written : ∀ operand : Operand, operand.WellFormed → ∀ rest : List Char,
    (∀ c ∈ rest.head?, ¬ (Identifier.Letter c ∨ Identifier.Digit c)) →
      reader (operand.text.toList ++ rest) = some (operand, rest)

/-- A number ends where no digit follows. -/
theorem stops_isDigit_iff (rest : List Char) :
    Stops Char.isDigit rest ↔ ∀ c ∈ rest.head?, ¬ Identifier.Digit c := by
  -- Only the first character of the rest is asked about.
  simp only [Stops, ← Grammar.isDigit_iff, Bool.not_eq_true]

/-- A name ends where neither a letter nor a digit follows. -/
theorem stops_isPart_iff (rest : List Char) :
    Stops Identifier.isPart rest ↔
      ∀ c ∈ rest.head?, ¬ (Identifier.Letter c ∨ Identifier.Digit c) := by
  -- Only the first character of the rest is asked about.
  simp only [Stops, ← Identifier.isPart_iff, Bool.not_eq_true]

/-- The longest operand is the token that the readers take. -/
theorem maximalMunch_iff (input : List Char) (operand : Operand) (rest : List Char) :
    MaximalMunch input operand rest ↔
      ∃ token ∈ Grammar.operand operand, token ++ rest = input ∧ Stops operand.goesOn rest := by
  constructor
  · intro munch
    cases munch with
    | lit spells inRange ends =>
      have value := (Number.ofInt?_eq_some_iff _ _).mp (Number.ofInt?_of_inRange inRange)
      rw [← value] at spells
      exact ⟨_, (Number.spells_toInt_iff _ _).mp spells, rfl, (stops_isDigit_iff rest).mpr ends⟩
    | var spelled ends => exact ⟨_, ⟨rfl, spelled⟩, rfl, (stops_isPart_iff rest).mpr ends⟩
  · intro taken
    obtain ⟨token, member, rfl, stops⟩ := taken
    cases operand with
    | lit number =>
      have spells := (Number.spells_toInt_iff token number).mpr member
      -- The value of a number is in range, and there is no other number with that value.
      have inRange : Number.InRange number.toInt :=
        ⟨Int32.le_toInt number, Int.le_sub_one_of_lt (Int32.toInt_lt number)⟩
      have munch := MaximalMunch.lit spells inRange ((stops_isDigit_iff rest).mp stops)
      rwa [Int32.ofInt_toInt] at munch
    | var name =>
      obtain ⟨rfl, spelled⟩ := member
      exact .var spelled ((stops_isPart_iff rest).mp stops)

/-- The reader of operands reads the longest one. -/
theorem read_eq_some_iff (input : List Char) (operand : Operand) (rest : List Char) :
    read input = some (operand, rest) ↔ MaximalMunch input operand rest :=
  -- The grammar of operands and the longest match take the same tokens.
  (takes_read input operand rest).trans (maximalMunch_iff input operand rest).symm

/-- A text that spells a value out of range is no operand, as it is no name either. -/
theorem read_of_not_inRange {token rest : List Char} {value : Int}
    (spells : Number.Spells token value) (outside : ¬ Number.InRange value)
    (stops : Stops Char.isDigit rest) : read (token ++ rest) = none := by
  have noNumber : Number.read (token ++ rest) = none := by
    rw [Number.read_of_spells spells stops, Number.ofInt?_of_not_inRange outside]
    rfl
  have noName := Identifier.read_of_stops (spells.stops_isStart rest)
  -- An operand is read as a number, or else as a name.
  show ((Number.read (token ++ rest)).bind _ <|> (Identifier.read (token ++ rest)).bind _) = none
  rw [noNumber, noName]
  rfl

/-- What is written for an operand is read back up to the first character that is no part of it. -/
theorem read_text_append {operand : Operand} (wellFormed : operand.WellFormed) {rest : List Char}
    (stops : Stops Identifier.isPart rest) :
    read (operand.text.toList ++ rest) = some (operand, rest) := by
  refine (takes_read _ _ _).mpr ⟨_, text_mem_operand wellFormed, rfl, fun c first => ?_⟩
  have noPart := stops c first
  cases operand with
  | lit number =>
    -- A digit could go on with a name as well.
    rw [Bool.eq_false_iff, Ne, Identifier.isPart_iff, not_or, ← Grammar.isDigit_iff] at noPart
    exact Bool.eq_false_iff.mpr noPart.2
  | var name => exact noPart

/--
Operands are read as the longest tokens at the front of a text.

Whatever the text is, an operand and the rest are read from it exactly if it starts with a number in
range that no digit follows, or with an identifier that neither a letter nor a digit follows. Every
other text fails, with digits that make too large a number among them. The operand that is written
for a value is read back in front of everything that does not make it longer. Digit by digit, with
every step checked, and piece by piece, the same is read.
-/
theorem read_takes_longest_token : TakesLongest read ∧ readStepwise = read := by
  -- Both readers are settled by what counts as the longest token.
  refine ⟨⟨read_eq_some_iff, fun input => ?_, ?_, ?_⟩, readStepwise_eq⟩
  · simp only [Option.eq_none_iff_forall_ne_some, Prod.forall, ne_eq, read_eq_some_iff]
  · intro token value rest spells outside ends
    exact read_of_not_inRange spells outside ((stops_isDigit_iff rest).mpr ends)
  · intro operand wellFormed rest ends
    exact read_text_append wellFormed ((stops_isPart_iff rest).mpr ends)

/--
A digit more makes no number, even if all the others make one.

The least number is read behind a zero and in front of a letter, and a name up to the sign that
follows it.
-/
theorem read_takes_longest_token_edges :
    Number.Spells "+2147483648".toList 2147483648 ∧ ¬ Number.InRange 2147483648 ∧
    read "+2147483648,".toList = none ∧ readStepwise "+2147483648,".toList = none ∧
    read "+214748364,".toList = some (.lit 214748364, [',']) ∧
    read "-02147483648x".toList = some (.lit (-2147483648), ['x']) ∧
    (Operand.var "_tmp2").WellFormed ∧
    read ((Operand.var "_tmp2").text.toList ++ "-1".toList) = some (.var "_tmp2", "-1".toList) ∧
    ∀ operand rest, ¬ MaximalMunch "-+1".toList operand rest := by
  obtain ⟨longest, same⟩ := read_takes_longest_token
  -- One literal just too large, and two that end where the next character forbids more.
  have digits : ∀ run : List Char, run.all Char.isDigit = true → ∀ c ∈ run, Identifier.Digit c :=
    fun run all c member => (Grammar.isDigit_iff c).mp (List.all_eq_true.mp all c member)
  have tooLarge : Number.Spells "+2147483648".toList 2147483648 :=
    @Number.Spells.plus "2147483648".toList (by decide) (digits _ (by decide))
  have fits : Number.Spells "+214748364".toList 214748364 :=
    @Number.Spells.plus "214748364".toList (by decide) (digits _ (by decide))
  have least : Number.Spells "-02147483648".toList (-2147483648) :=
    @Number.Spells.minus "02147483648".toList (by decide) (digits _ (by decide))
  have outside : ¬ Number.InRange 2147483648 := by decide
  have comma := (stops_isDigit_iff [',']).mp ((stops_cons _ _ _).mpr (by decide))
  have letter := (stops_isDigit_iff ['x']).mp ((stops_cons _ _ _).mpr (by decide))
  have minus := (stops_isPart_iff ['-', '1']).mp ((stops_cons _ _ _).mpr (by decide))
  have noMatch := longest.outOfRange _ _ [','] tooLarge outside comma
  refine ⟨tooLarge, outside, noMatch, ?_, ?_, ?_, ?_, ?_, ?_⟩
  · rw [same]
    exact noMatch
  · exact (longest.reads _ _ _).mpr (.lit fits (by decide) comma)
  · exact (longest.reads _ _ _).mpr (.lit least (by decide) letter)
  · decide
  · exact longest.written (.var "_tmp2") (by decide) ['-', '1'] minus
  · exact (longest.fails _).mp (by decide)

end Operand

end Plotter
