import Plotter.Proofs.Grammar
import Plotter.Proofs.Scan

/-! The readers of words, spaces, names, numbers, operands and colours take exactly their tokens. -/

namespace Plotter

open Plotter.Grammar
open scoped Computability

namespace Grammar

/-- A word is written as itself. -/
theorem mem_word (text : String) (token : List Char) : token ∈ word text ↔ token = text.toList :=
  -- A word has one spelling.
  Iff.rfl

/-- A space is one of the two characters that separate words. -/
theorem mem_space (token : List Char) :
    token ∈ space ↔ ∃ c, Scan.isSpace c = true ∧ token = [c] := by
  -- A word of one character is that character alone.
  have blank : token ∈ word " " ↔ token = [' '] := mem_word " " token
  have tab : token ∈ word "\t" ↔ token = ['\t'] := mem_word "\t" token
  simp only [space, Language.mem_add, blank, tab, Scan.isSpace, Bool.or_eq_true, beq_iff_eq]
  grind

/-- Any number of spaces is a text of nothing else. -/
theorem mem_kstar_space (token : List Char) :
    token ∈ space∗ ↔ ∀ c ∈ token, Scan.isSpace c = true := by
  rw [Language.mem_kstar]
  constructor
  · intro read c member
    obtain ⟨parts, rfl, each⟩ := read
    obtain ⟨part, listed, inside⟩ := List.mem_flatten.mp member
    obtain ⟨found, passes, rfl⟩ := (mem_space part).mp (each part listed)
    rw [List.mem_singleton.mp inside]
    exact passes
  · intro all
    -- Each character is a part of its own.
    have whole : token = (token.map fun c => [c]).flatten := by
      induction token with
      | nil => rfl
      | cons c rest ih => simpa using ih fun other member => all other (by simp [member])
    refine ⟨token.map fun c => [c], whole, ?_⟩
    intro part listed
    obtain ⟨c, member, rfl⟩ := List.mem_map.mp listed
    exact (mem_space _).mpr ⟨c, all c member, rfl⟩

/-- A gap is a text of spaces that is not empty. -/
theorem mem_gap (token : List Char) :
    token ∈ gap ↔ token ≠ [] ∧ ∀ c ∈ token, Scan.isSpace c = true := by
  -- A gap is one space and then any number of them.
  simp only [gap, Language.mem_mul, mem_space, mem_kstar_space]
  constructor
  · intro read
    obtain ⟨_, ⟨c, passes, rfl⟩, rest, all, rfl⟩ := read
    simpa using ⟨passes, all⟩
  · intro listed
    obtain ⟨filled, all⟩ := listed
    cases token with
    | nil => exact (filled rfl).elim
    | cons c rest =>
      rw [List.forall_mem_cons] at all
      exact ⟨[c], ⟨c, all.1, rfl⟩, rest, all.2, rfl⟩

/-- A word starts with its first character. -/
theorem breaks_word {test : Char → Bool} {text : String}
    (first : (text.toList.head?.map test) = some false) : Scan.Breaks test (word text) := by
  intro token same
  obtain rfl := same
  -- The premise has a first character, so the word is not empty.
  cases spelled : text.toList with
  | nil => simp [spelled] at first
  | cons c rest => simpa [spelled] using first

/-- A sign starts with a space or with its own first character. -/
theorem breaks_sign {test : Char → Bool} {text : String}
    (first : (text.toList.head?.map test) = some false)
    (blank : ∀ c, Scan.isSpace c = true → test c = false) : Scan.Breaks test (sign text) := by
  unfold sign
  rw [mul_assoc]
  intro token member
  obtain ⟨before, spaces, other, behind, rfl⟩ := Language.mem_mul.mp member
  -- Either there are spaces in front of the sign, or the sign comes first.
  cases before with
  | nil => exact (breaks_word first).mul _ other behind
  | cons c rest =>
    have space := (mem_kstar_space _).mp spaces c (by simp)
    exact ⟨by simp, by simpa using blank c space⟩

/-- The two spaces are no part of an identifier. -/
theorem isPart_of_isSpace {c : Char} (blank : Scan.isSpace c = true) :
    Identifier.isPart c = false := by
  -- There are two spaces to try.
  simp only [Scan.isSpace, Bool.or_eq_true, beq_iff_eq] at blank
  rcases blank with rfl | rfl <;> decide

/-- The two spaces are blank. -/
theorem isBlank_of_isSpace {c : Char} (space : Scan.isSpace c = true) :
    Text.isBlank c = true := by
  -- There are two spaces to try.
  simp only [Scan.isSpace, Bool.or_eq_true, beq_iff_eq] at space
  rcases space with rfl | rfl <;> decide

/-- No part of an identifier is a space. -/
theorem isSpace_of_isPart {c : Char} (part : Identifier.isPart c = true) :
    Scan.isSpace c = false := by
  rw [Bool.eq_false_iff]
  -- Otherwise the character would be a space and a part of a name.
  intro blank
  rw [isPart_of_isSpace blank] at part
  exact nomatch part

/-- The digits of the readers are those of the grammar. -/
theorem isDigit_iff (c : Char) : c.isDigit = true ↔ Identifier.Digit c := by
  -- The test of the library asks for the same range.
  have digit : c.isDigit = (decide ('0' ≤ c) && decide (c ≤ '9')) := rfl
  simp only [digit, Identifier.Digit, Bool.and_eq_true, decide_eq_true_eq]

end Grammar

namespace Scan

variable {α : Type}

/-- A literal takes its own text. -/
theorem takes_literal (text : String) : Takes (literal text) (fun _ => word text) never := by
  intro input value rest
  -- A literal is a fixed front of the text.
  simp only [literal, Option.map_eq_some_iff, Prod.mk.injEq, mem_word,
    List.isPrefixOf?_eq_some_iff_append_eq]
  constructor
  · intro read
    obtain ⟨_, whole, -, rfl⟩ := read
    exact ⟨_, rfl, whole, stops_never _ _⟩
  · intro listed
    obtain ⟨_, rfl, whole, -⟩ := listed
    exact ⟨rest, whole, trivial, rfl⟩

/-- A run takes all the characters that pass its test. -/
theorem takes_many (test : Char → Bool) :
    Takes (many test) (fun found => {token | token = found ∧ ∀ c ∈ token, test c = true})
      (fun _ => test) := by
  intro input found rest
  simp only [many, Option.some.injEq, Prod.mk.injEq]
  constructor
  · intro read
    obtain ⟨rfl, rfl⟩ := read
    -- The longest run splits the text, and what follows it stops it.
    have passes : ∀ c ∈ input.takeWhile test, test c = true :=
      List.all_eq_true.mp List.all_takeWhile
    exact ⟨_, ⟨rfl, passes⟩, List.takeWhile_append_dropWhile, stops_dropWhile test input⟩
  · intro listed
    obtain ⟨_, ⟨rfl, all⟩, rfl, stops⟩ := listed
    exact takeWhile_of_stops all stops

/-- A run that must not be empty takes all the characters that pass its test. -/
theorem takes_many1 (test : Char → Bool) :
    Takes (many1 test)
      (fun found => {token | token = found ∧ token ≠ [] ∧ ∀ c ∈ token, test c = true})
      (fun _ => test) := by
  intro input found rest
  unfold many1
  -- The run is read first, and only then found to be empty or not.
  simp only [bind_eq_some_iff, takes_many test _ _ _]
  constructor
  · intro taken
    obtain ⟨run, middle, ⟨_, ⟨rfl, all⟩, whole, stops⟩, read⟩ := taken
    split at read
    · exact nomatch read
    · rename_i filled
      obtain ⟨rfl, rfl⟩ := (pure_eq_some_iff _ _ _ _).mp read
      exact ⟨_, ⟨rfl, by simpa using filled, all⟩, whole, stops⟩
  · intro listed
    obtain ⟨_, ⟨rfl, filled, all⟩, whole, stops⟩ := listed
    refine ⟨_, rest, ⟨_, ⟨rfl, all⟩, whole, stops⟩, ?_⟩
    rw [if_neg (by simpa using filled)]
    rfl

/-- Spaces take any number of spaces and tabs. -/
theorem takes_spaces : Takes spaces (fun _ => space∗) (fun _ => isSpace) := by
  have same : spaces = many isSpace >>= fun _ => pure () := by
    rw [bind_pure_comp]
    rfl
  rw [same]
  -- What the run consists of is forgotten; only that all of it is spaces matters.
  refine (takes_many isSpace).map _ (fun _ => rfl) fun value text => ?_
  rw [mem_kstar_space]
  exact ⟨fun all => ⟨text, rfl, rfl, all⟩, fun ⟨_, _, _, all⟩ => all⟩

/-- A gap takes at least one space or tab. -/
theorem takes_spaces1 : Takes spaces1 (fun _ => gap) (fun _ => isSpace) := by
  -- A gap is a run of spaces whose text is thrown away.
  have same : spaces1 = many1 isSpace >>= fun _ => pure () := by
    rw [bind_pure_comp]
    rfl
  rw [same]
  refine (takes_many1 isSpace).map _ (fun _ => rfl) fun value text => ?_
  rw [mem_gap]
  exact ⟨fun all => ⟨text, rfl, rfl, all⟩, fun ⟨_, _, _, all⟩ => all⟩

/-- A keyword takes its word and the gap after it. -/
theorem takes_keyword (text : String) :
    Takes (keyword text) (fun _ => word text * gap) (fun _ => isSpace) := by
  -- Nothing can make a literal longer, so the gap may follow it at once.
  refine (takes_literal text).bind (fun _ => takes_spaces1) (fun _ _ _ _ _ _ => stops_never _ _) ?_
  intro _ token
  simp

/-- A reader of signs takes them with the spaces around them. -/
theorem takes_spaced {reader : Scan α} {tokens : α → Language Char}
    (takes : Takes reader tokens never)
    (apart : ∀ value, Breaks isSpace (tokens value)) :
    Takes (spaced reader) (fun value => space∗ * tokens value * space∗) (fun _ => isSpace) := by
  have behind : ∀ value : α, Takes (spaces >>= fun _ => pure value)
      (fun other => {text | value = other ∧ text ∈ space∗}) (fun _ => isSpace) := fun value =>
    takes_spaces.map _ (fun _ => rfl) fun other text =>
      ⟨fun listed => ⟨(), listed⟩, fun ⟨_, listed⟩ => listed⟩
  have inner : Takes (reader >>= fun value => spaces >>= fun _ => pure value)
      (fun value => tokens value * space∗) (fun _ => isSpace) := by
    refine takes.bind behind (fun _ _ _ _ _ _ => stops_never _ _) fun other text => ?_
    simp only [Language.mem_mul]
    constructor
    · intro read
      obtain ⟨token, member, after, blank, rfl⟩ := read
      exact ⟨other, token, member, after, ⟨rfl, blank⟩, rfl⟩
    · intro listed
      obtain ⟨_, token, member, after, ⟨rfl, blank⟩, rfl⟩ := listed
      exact ⟨token, member, after, blank, rfl⟩
  -- The spaces in front end at the token, which does not start with one.
  refine takes_spaces.bind (fun _ => inner) ?_ fun other text => ?_
  · intro _ value token member rest _
    exact ((apart value).mul _).stops member rest
  · simp [mul_assoc]

/-- A reader between spaces takes a token of its value and the spaces around it. -/
theorem append_of_spaced {reader : Scan α} {tokens : α → Language Char} {goesOn : α → Char → Bool}
    (takes : Takes reader tokens goesOn) {input rest : List Char} {value : α}
    (read : spaced reader input = some (value, rest)) :
    ∃ text ∈ space∗ * tokens value * space∗, text ++ rest = input := by
  simp only [spaced, bind_eq_some_iff, pure_eq_some_iff, takes_spaces _ _ _, takes _ _ _] at read
  obtain ⟨_, _, ⟨before, ahead, rfl, -⟩, _, _, ⟨token, member, rfl, -⟩, _, _,
    ⟨after, behind, rfl, -⟩, rfl, rfl⟩ := read
  -- Spaces, token and spaces follow each other, so they make one product.
  have product := Language.append_mem_mul (Language.append_mem_mul ahead member) behind
  exact ⟨_, product, by simp⟩

/-- The first reader that matches decides. -/
theorem orElse_eq_some_iff (first second : Scan α) (input rest : List Char) (value : α) :
    (first <|> second) input = some (value, rest) ↔
      first input = some (value, rest) ∨
        first input = none ∧ second input = some (value, rest) := by
  -- The second reader is asked only if the first one fails.
  show (first input <|> second input) = _ ↔ _
  cases first input <;> simp

/-- An optional value is taken from no text at all. -/
theorem lift_eq_some_iff (given : Option α) (value : α) (input rest : List Char) :
    (liftM given : Scan α) input = some (value, rest) ↔ given = some value ∧ input = rest := by
  -- A given value reads nothing.
  show given.bind (fun found => some (found, input)) = some (value, rest) ↔ _
  cases given <;> simp

/-- An option is read if its spelling stands at the front. -/
theorem option_eq_some_iff (spelling : α → String) (option found : α) (input left : List Char) :
    (literal (spelling option) >>= fun _ => pure option : Scan α) input = some (found, left) ↔
      option = found ∧ (spelling option).toList ++ left = input := by
  simp only [bind_eq_some_iff, pure_eq_some_iff, takes_literal _ _ _ _, mem_word]
  -- A literal is there or not, and nothing behind it matters.
  constructor
  · intro read
    obtain ⟨_, _, ⟨_, rfl, whole, -⟩, same, rfl⟩ := read
    exact ⟨same, whole⟩
  · intro given
    obtain ⟨same, whole⟩ := given
    exact ⟨(), left, ⟨_, rfl, whole, stops_never _ _⟩, same, rfl⟩

/-- The first of several options is tried before the others. -/
theorem oneOf_cons_eq_some_iff (spelling : α → String) (option : α) (others : List α)
    (input rest : List Char) (value : α) :
    oneOf spelling (option :: others) input = some (value, rest) ↔
      (option = value ∧ (spelling option).toList ++ rest = input) ∨
        (literal (spelling option) >>= fun _ => pure option : Scan α) input = none ∧
          oneOf spelling others input = some (value, rest) := by
  show ((literal (spelling option) >>= fun _ => pure option) <|> oneOf spelling others) input =
    _ ↔ _
  -- The options are tried from the front.
  rw [orElse_eq_some_iff, option_eq_some_iff]

/-- The option that is read stands at the front, whatever the others are. -/
theorem append_of_oneOf {spelling : α → String} {options : List α} {input rest : List Char}
    {value : α} (read : oneOf spelling options input = some (value, rest)) :
    (spelling value).toList ++ rest = input := by
  -- The first option that can be read decides.
  induction options with
  | nil => exact nomatch read
  | cons option others ih =>
    rcases (oneOf_cons_eq_some_iff ..).mp read with ⟨rfl, whole⟩ | ⟨-, later⟩
    · exact whole
    · exact ih later

/-- Options none of which is spelled like the start of another one are all recognized. -/
theorem takes_oneOf (spelling : α → String) (options : List α)
    (apart : ∀ first ∈ options, ∀ second ∈ options,
      (spelling first).toList <+: (spelling second).toList → first = second) :
    Takes (oneOf spelling options) (fun option => {token | option ∈ options ∧
      token ∈ word (spelling option)}) never := by
  intro input value rest
  -- The induction is on the options; the first one that stands at the front is taken.
  induction options with
  | nil =>
    constructor
    · exact fun read => nomatch read
    · intro given
      obtain ⟨_, ⟨listed, -⟩, -⟩ := given
      exact nomatch listed
  | cons option others ih =>
    have later := ih fun first one second two => apart first (by simp [one]) second (by simp [two])
    rw [oneOf_cons_eq_some_iff, later]
    constructor
    · intro taken
      rcases taken with ⟨rfl, whole⟩ | ⟨-, token, ⟨listed, spelled⟩, whole, -⟩
      · exact ⟨_, ⟨by simp, rfl⟩, whole, stops_never _ _⟩
      · exact ⟨token, ⟨by simp [listed], spelled⟩, whole, stops_never _ _⟩
    · intro given
      obtain ⟨_, ⟨listed, rfl⟩, whole, -⟩ := given
      by_cases same : option = value
      · exact .inl ⟨same, by rw [same]; exact whole⟩
      · -- Two different options cannot both stand at the front.
        have fails :
            (literal (spelling option) >>= fun _ => pure option : Scan α) input = none := by
          refine Option.eq_none_iff_forall_ne_some.mpr fun ⟨found, left⟩ read => same ?_
          obtain ⟨-, front⟩ := (option_eq_some_iff ..).mp read
          rcases List.prefix_or_prefix_of_prefix ⟨left, front⟩ ⟨rest, whole⟩ with less | more
          · exact apart option (by simp) value listed less
          · exact (apart value listed option (by simp) more).symm
        refine .inr ⟨fails, _, ⟨?_, rfl⟩, whole, stops_never _ _⟩
        exact (List.mem_cons.mp listed).resolve_left (Ne.symm same)

end Scan

namespace Identifier

/-- An identifier is read up to the first character that cannot be a part of it. -/
theorem takes_read : Scan.Takes read identifier (fun _ => isPart) := by
  intro input name rest
  constructor
  · intro found
    -- The first character decides whether there is an identifier, and the run how long it is.
    cases input with
    | nil => exact nomatch found
    | cons c tail =>
      simp only [read] at found
      split at found
      · rename_i starts
        simp only [Option.some.injEq, Prod.mk.injEq] at found
        obtain ⟨rfl, rfl⟩ := found
        have parts : ∀ d ∈ tail.takeWhile isPart, Letter d ∨ Digit d := fun d member =>
          (isPart_iff d).mp (List.all_eq_true.mp List.all_takeWhile d member)
        have spelled : Spelled (String.ofList (c :: tail.takeWhile isPart)) :=
          ⟨c, tail.takeWhile isPart, by simp, (isStart_iff c).mp starts, parts⟩
        exact ⟨c :: tail.takeWhile isPart, ⟨by simp, spelled⟩, by simp,
          Scan.stops_dropWhile isPart tail⟩
      · exact nomatch found
  · intro listed
    obtain ⟨_, ⟨rfl, first, others, spelled, letter, parts⟩, rfl, stops⟩ := listed
    have passes : ∀ d ∈ others, isPart d = true := fun d member =>
      (isPart_iff d).mpr (parts d member)
    -- What follows the name cannot go on with it.
    obtain ⟨taken, left⟩ := Scan.takeWhile_of_stops passes stops
    have same : String.ofList (first :: others) = name := by
      rw [← spelled, String.ofList_toList]
    rw [spelled, List.cons_append, read, if_pos ((isStart_iff first).mpr letter), taken, left, same]

/-- An identifier starts with a letter. -/
theorem breaks_identifier {test : Char → Bool} (fails : ∀ c, Letter c → test c = false)
    (name : String) : Scan.Breaks test (identifier name) := by
  intro token member
  obtain ⟨rfl, first, others, spelled, letter, -⟩ := member
  -- The letter in front is the one character that is looked at.
  rw [spelled]
  exact ⟨by simp, by simpa using fails first letter⟩

/-- An identifier does not start with a space. -/
theorem breaks_isSpace (name : String) : Scan.Breaks Scan.isSpace (identifier name) :=
  -- A name begins with a letter, which is no space.
  breaks_identifier (fun c letter => isSpace_of_isPart ((isPart_iff c).mpr (.inl letter))) name

end Identifier

namespace Number

open Scan

/-- A number has exactly one value. -/
theorem ofInt?_eq_some_iff (value : Int) (number : Number) :
    ofInt? value = some number ↔ number.toInt = value := by
  have least : Int32.minValue.toInt = -2 ^ 31 := by decide
  have most : Int32.maxValue.toInt = 2 ^ 31 - 1 := by decide
  unfold ofInt?
  split
  · rename_i fits
    rw [least, most] at fits
    -- In the range, the number of a value and the value of a number undo each other.
    rw [Option.some.injEq]
    constructor
    · intro same
      obtain rfl := same
      exact Int32.toInt_ofInt_of_le (by omega) (by omega)
    · intro same
      obtain rfl := same
      exact Int32.ofInt_toInt number
  · rename_i misses
    constructor
    · exact fun found => nomatch found
    · -- The value of a number is always in the range.
      intro same
      obtain rfl := same
      exact absurd ⟨Int32.minValue_le_toInt number, Int32.toInt_le number⟩ misses

/-- An integer is the value of a number exactly if it is in range. -/
theorem exists_ofInt?_iff (value : Int) :
    (∃ number, ofInt? value = some number) ↔ -2147483648 ≤ value ∧ value ≤ 2147483647 := by
  simp only [ofInt?_eq_some_iff]
  -- The bounds are those of the machine integers.
  constructor
  · rintro ⟨number, rfl⟩
    exact ⟨Int32.le_toInt number, Int.le_of_lt_add_one (Int32.toInt_lt number)⟩
  · rintro ⟨least, most⟩
    exact ⟨Int32.ofInt value, Int32.toInt_ofInt_of_le least (Int.lt_add_one_of_le most)⟩

/-- A run of digits is read as the natural number that it spells. -/
theorem takes_readDigits :
    Takes readDigits (fun size => Grammar.digits size) (fun _ => Char.isDigit) := by
  -- Runs of digits with the same value are different ways to write one number.
  refine (takes_many1 Char.isDigit).map _ (fun _ => rfl) fun size text => ?_
  simp only [Grammar.digits, isDigit_iff]
  constructor
  · intro taken
    obtain ⟨filled, all, value⟩ := taken
    exact ⟨text, Int.ofNat.inj value, rfl, filled, all⟩
  · intro listed
    obtain ⟨_, rfl, rfl, filled, all⟩ := listed
    exact ⟨filled, all, rfl⟩

/-- A run of digits is read as the number that it spells behind a sign. -/
theorem takes_readSigned (negative : Bool) :
    Takes (readDigits >>= fun size => liftM (ofInt? (if negative then -(size : Int) else size)))
      (fun number => Grammar.digits (if negative then -number.toInt else number.toInt))
      (fun _ => Char.isDigit) := by
  intro input number rest
  -- The digits are read as a natural number, which may be too large for a number.
  simp only [bind_eq_some_iff, lift_eq_some_iff, takes_readDigits _ _ _, ofInt?_eq_some_iff]
  constructor
  · intro taken
    obtain ⟨size, _, ⟨token, member, whole, stops⟩, value, rfl⟩ := taken
    refine ⟨token, ?_, whole, stops⟩
    rw [value]
    cases negative <;> simpa using member
  · intro listed
    obtain ⟨token, ⟨filled, all, value⟩, whole, stops⟩ := listed
    refine ⟨_, rest, ⟨token, ⟨filled, all, rfl⟩, whole, stops⟩, ?_, rfl⟩
    cases negative <;> simp_all

/-- A number without a sign is read as the number that it spells. -/
theorem takes_readUnsigned :
    Takes readUnsigned (fun number => Grammar.digits number.toInt) (fun _ => Char.isDigit) :=
  -- Without a sign, the digits are those of the number itself.
  takes_readSigned false

/-- The ways to write a number, one after the other. -/
theorem mem_integer (number : Number) (token : List Char) :
    token ∈ integer number ↔ token ∈ Grammar.digits number.toInt ∨
      (∃ run ∈ Grammar.digits number.toInt, token = '+' :: run) ∨
        ∃ run ∈ Grammar.digits (-number.toInt), token = '-' :: run := by
  -- Behind a sign stands a run of digits, and nothing between the two.
  have signed : ∀ (sign : String) (value : Int), token ∈ word sign * Grammar.digits value ↔
      ∃ run ∈ Grammar.digits value, token = sign.toList ++ run := by
    intro sign value
    simp only [Language.mem_mul, mem_word, exists_eq_left, eq_comm]
  simp only [integer, Language.mem_add, signed, or_assoc]
  rfl

/-- A run of digits starts with one. -/
theorem breaks_digits {test : Char → Bool} (fails : ∀ c, Identifier.Digit c → test c = false)
    (value : Int) : Breaks test (Grammar.digits value) := by
  intro token member
  obtain ⟨filled, all, -⟩ := member
  -- A run of digits is not empty, and its first character is a digit like all others.
  cases token with
  | nil => exact (filled rfl).elim
  | cons c rest => exact ⟨filled, by simpa using fails c (all c (by simp))⟩

/-- A number starts with a digit or a sign. -/
theorem breaks_integer {test : Char → Bool} (fails : ∀ c, Identifier.Digit c → test c = false)
    (plus : test '+' = false) (minus : test '-' = false) (number : Number) :
    Breaks test (integer number) := by
  intro token member
  -- A number has no sign, a plus or a minus in front.
  rcases (mem_integer number token).mp member with run | ⟨run, -, rfl⟩ | ⟨run, -, rfl⟩
  · exact breaks_digits fails _ token run
  · exact ⟨by simp, by simpa using plus⟩
  · exact ⟨by simp, by simpa using minus⟩

/-- Whether a character is a sign of a number. -/
def isSign (c : Char) : Bool :=
  -- Both signs are read, also the one that changes nothing.
  c == '-' || c == '+'

/-- A sign is read if there is one. -/
theorem readSign_eq_some_iff (negative : Bool) (input rest : List Char) :
    readSign input = some (negative, rest) ↔
      negative = true ∧ input = '-' :: rest ∨ negative = false ∧ input = '+' :: rest ∨
        negative = false ∧ input = rest ∧ Stops isSign rest := by
  unfold readSign
  -- The three cases are a minus, a plus, and a text without a sign.
  split
  · cases negative with
    | true => simp
    | false =>
      -- A text that starts with a sign is not one without a sign.
      simp only [reduceCtorEq, false_and, true_and, false_or, Option.some.injEq, Prod.mk.injEq,
        List.cons.injEq, Char.reduceEq]
      refine ⟨False.elim, fun ⟨same, stops⟩ => ?_⟩
      simp [← same, isSign] at stops
  · cases negative with
    | true => simp
    | false =>
      simp only [true_and, Option.some.injEq, Prod.mk.injEq, List.cons.injEq, reduceCtorEq,
        false_and, false_or]
      refine ⟨.inl, fun found => found.resolve_right fun ⟨same, stops⟩ => ?_⟩
      simp [← same, isSign] at stops
  · rename_i noMinus noPlus
    have stops : Stops isSign input := by
      cases input with
      | nil => simp
      | cons c tail =>
        have minus : c ≠ '-' := fun same => noMinus tail (by rw [same])
        have plus : c ≠ '+' := fun same => noPlus tail (by rw [same])
        simp [isSign, minus, plus]
    constructor
    · intro found
      simp only [Option.some.injEq, Prod.mk.injEq] at found
      obtain ⟨rfl, rfl⟩ := found
      exact .inr (.inr ⟨rfl, rfl, stops⟩)
    · intro listed
      rcases listed with ⟨-, rfl⟩ | ⟨-, rfl⟩ | ⟨rfl, rfl, -⟩
      · simp [isSign] at stops
      · simp [isSign] at stops
      · rfl

/-- A run of digits does not start with a sign. -/
theorem breaks_isSign (value : Int) : Breaks isSign (Grammar.digits value) := by
  refine breaks_digits (fun c digit => ?_) value
  rw [← isDigit_iff] at digit
  -- Both signs fail the test of the digits.
  have minus : c ≠ '-' := fun same => absurd digit (by rw [same]; decide)
  have plus : c ≠ '+' := fun same => absurd digit (by rw [same]; decide)
  simp [isSign, minus, plus]

/-- A number is read up to the first character that is not a digit. -/
theorem takes_read : Takes read integer (fun _ => Char.isDigit) := by
  intro input number rest
  unfold read
  -- The sign decides which value the digits have to have.
  simp only [bind_eq_some_iff readSign, readSign_eq_some_iff, takes_readSigned _ _ _ _, mem_integer]
  constructor
  · intro read
    rcases read with ⟨_, _, ⟨rfl, rfl⟩ | ⟨rfl, rfl⟩ | ⟨rfl, rfl, -⟩, run, member, rfl, stops⟩
    · exact ⟨'-' :: run, .inr (.inr ⟨run, member, rfl⟩), rfl, stops⟩
    · exact ⟨'+' :: run, .inr (.inl ⟨run, member, rfl⟩), rfl, stops⟩
    · exact ⟨run, .inl member, rfl, stops⟩
  · intro listed
    rcases listed with ⟨token, member | ⟨run, member, rfl⟩ | ⟨run, member, rfl⟩, rfl, stops⟩
    · -- A run of digits does not start with a sign.
      have first := (breaks_isSign _).stops member rest
      exact ⟨false, _, .inr (.inr ⟨rfl, rfl, first⟩), token, member, rfl, stops⟩
    · exact ⟨false, _, .inr (.inl ⟨rfl, rfl⟩), run, member, rfl, stops⟩
    · exact ⟨true, _, .inl ⟨rfl, rfl⟩, run, member, rfl, stops⟩

/-- A number does not start with a letter. -/
theorem breaks_isStart (number : Number) : Breaks Identifier.isStart (integer number) :=
  -- Neither of the signs is a letter, and no digit is one.
  breaks_integer (fun _ => Identifier.isStart_of_digit) (by decide) (by decide) number

/-- A number does not start with a space. -/
theorem breaks_isSpace (number : Number) : Breaks isSpace (integer number) := by
  -- A literal begins with a digit or a sign, and neither is a space.
  refine breaks_integer (fun c digit => ?_) (by decide) (by decide) number
  exact isSpace_of_isPart ((Identifier.isPart_iff c).mpr (.inr digit))

end Number

namespace Operand

/-- The characters that can make the token of an operand longer. -/
def goesOn : Operand → Char → Bool
  -- A literal would be longer with another digit, and a name with another of its parts.
  | lit _ => Char.isDigit
  | var _ => Identifier.isPart

/-- An operand is read up to the first character that cannot be a part of it. -/
theorem takes_read : Scan.Takes read operand goesOn := by
  have number : Scan.Takes (lit <$> Number.read)
      (fun value => {text | ∃ given, lit given = value ∧ text ∈ integer given}) goesOn := by
    rw [← bind_pure_comp]
    exact Number.takes_read.map lit (fun _ => rfl) fun _ _ => Iff.rfl
  have name : Scan.Takes (var <$> Identifier.read)
      (fun value => {text | ∃ given, var given = value ∧ text ∈ identifier given}) goesOn := by
    rw [← bind_pure_comp]
    exact Identifier.takes_read.map var (fun _ => rfl) fun _ _ => Iff.rfl
  intro input value rest
  unfold read
  -- A number is tried first, and a name only if there is none.
  rw [Scan.orElse_eq_some_iff, number, name]
  constructor
  · intro read
    rcases read with ⟨token, ⟨_, rfl, member⟩, whole, stops⟩ |
      ⟨-, token, ⟨_, rfl, member⟩, whole, stops⟩
    · exact ⟨token, member, whole, stops⟩
    · exact ⟨token, member, whole, stops⟩
  · intro listed
    obtain ⟨token, member, whole, stops⟩ := listed
    cases value with
    | lit given => exact .inl ⟨token, ⟨given, rfl, member⟩, whole, stops⟩
    | var given =>
      refine .inr ⟨?_, token, ⟨given, rfl, member⟩, whole, stops⟩
      -- A number would start with a digit or a sign, and not with a letter.
      refine Option.eq_none_iff_forall_ne_some.mpr fun ⟨other, left⟩ found => ?_
      obtain ⟨run, ⟨_, -, spelled⟩, front, -⟩ := (number input other left).mp found
      have noLetter := (Number.breaks_isStart _).stops spelled left
      obtain ⟨rfl, c, others, same, letter, -⟩ := member
      rw [front, ← whole, same, List.cons_append, Scan.stops_cons] at noLetter
      rw [← Identifier.isStart_iff, noLetter] at letter
      exact nomatch letter

/-- An operand starts with a part of an identifier or with a sign. -/
theorem breaks_operand {test : Char → Bool}
    (fails : ∀ c, Identifier.isPart c = true → test c = false) (plus : test '+' = false)
    (minus : test '-' = false) (value : Operand) : Scan.Breaks test (operand value) := by
  -- A literal begins with a digit or a sign, and a name with a letter.
  cases value with
  | lit number =>
    refine Number.breaks_integer (fun c digit => ?_) plus minus number
    exact fails c ((Identifier.isPart_iff c).mpr (.inr digit))
  | var name =>
    refine Identifier.breaks_identifier (fun c letter => ?_) name
    exact fails c ((Identifier.isPart_iff c).mpr (.inl letter))

/-- An operand does not start with a space. -/
theorem breaks_isSpace (value : Operand) : Scan.Breaks Scan.isSpace (operand value) :=
  -- Neither kind of operand begins with a space.
  breaks_operand (fun _ => isSpace_of_isPart) (by decide) (by decide) value

/-- A space is no part of an operand. -/
theorem goesOn_of_isSpace (value : Operand) {c : Char} (blank : Scan.isSpace c = true) :
    value.goesOn c = false := by
  -- A space continues neither a literal nor a name.
  simp only [Scan.isSpace, Bool.or_eq_true, beq_iff_eq] at blank
  cases value <;> rcases blank with rfl | rfl <;> rfl

end Operand

namespace Form

/-- A palette colour is found by its name. -/
theorem ofPalette?_eq_some_iff (name : String) (color : Color) :
    Color.ofPalette? name = some color ↔ color.name = name ∧ color ∈ Color.palette := by
  have found : ∀ color ∈ Color.palette, Color.ofPalette? color.name = some color := by decide
  -- No two colours of the palette have one name, so the first with a name is the only one.
  constructor
  · intro read
    exact ⟨by simpa using List.find?_some read, List.mem_of_find?_eq_some read⟩
  · intro given
    obtain ⟨rfl, listed⟩ := given
    exact found color listed

/-- The name of a palette colour is read up to the first character that is not a letter. -/
theorem takes_readColor : Scan.Takes readColor color (fun _ => Char.isAlpha) := by
  have letters : ∀ color ∈ Color.palette,
      color.name.toList ≠ [] ∧ color.name.toList.all Char.isAlpha = true := by decide
  intro input chosen rest
  unfold readColor
  -- The whole word is read before it is looked up in the palette.
  simp only [Scan.bind_eq_some_iff, Scan.lift_eq_some_iff, Scan.takes_many1 _ _ _ _,
    ofPalette?_eq_some_iff]
  constructor
  · intro taken
    obtain ⟨_, _, ⟨run, ⟨rfl, -, -⟩, whole, stops⟩, ⟨named, listed⟩, rfl⟩ := taken
    exact ⟨run, ⟨by simp [named], listed⟩, whole, stops⟩
  · intro given
    obtain ⟨_, ⟨rfl, listed⟩, whole, stops⟩ := given
    obtain ⟨filled, all⟩ := letters chosen listed
    have run := List.all_eq_true.mp all
    exact ⟨_, rest, ⟨_, ⟨rfl, filled, run⟩, whole, stops⟩, ⟨by simp, listed⟩, rfl⟩

/-- The equals sign of an assignment is read with the spaces around it. -/
theorem takes_readEquals : Scan.Takes readEquals (fun _ => sign "=") (fun _ => Scan.isSpace) :=
  -- The word cannot begin with a space, so the spaces before it are read in full.
  Scan.takes_spaced (Scan.takes_literal "=") fun _ => breaks_word (by decide)

end Form

end Plotter
