import Plotter.Proofs.Readers

/-!
Readers that go through the text step by step.

A number is made digit by digit with every step checked, and a name piece by piece. Both take what
the readers of whole runs take, so that it does not matter when a number is found to be too large
or where a name is cut.
-/

namespace Plotter

namespace Scan

variable {α : Type}

/-- Two readers that take the same tokens are one. -/
theorem Takes.eq {first second : Scan α} {tokens : α → Language Char} {goesOn : α → Char → Bool}
    (one : Takes first tokens goesOn) (two : Takes second tokens goesOn) : first = second := by
  funext input
  -- What a reader gives is fixed by the tokens that it takes.
  refine Option.ext fun ⟨value, rest⟩ => ?_
  exact (one input value rest).trans (two input value rest).symm

/-- A run that must not be empty is the longest one. -/
theorem many1_eq (test : Char → Bool) (input : List Char) :
    many1 test input = if (input.takeWhile test).isEmpty then none
      else some (input.takeWhile test, input.dropWhile test) := by
  show (if (input.takeWhile test).isEmpty then failure else pure (input.takeWhile test) :
    Scan (List Char)) (input.dropWhile test) = _
  -- An empty run is refused, and a longer one is given whole.
  split <;> rfl

/--
Reads values one after the other until there is none.

A value that takes nothing would be read for ever, so it spoils the match.
-/
def repeated (reader : Scan α) (input : List Char) : Option (List α × List Char) :=
  match reader input with
  | none => some ([], input)
  | some (value, rest) =>
    if rest.length < input.length then
      (repeated reader rest).map fun (others, left) => (value :: others, left)
    -- A reader that takes nothing would be repeated for ever.
    else none
termination_by input.length

/-- The reader takes parts of runs: wherever characters pass the test, it takes some of them. -/
structure TakesPieces (reader : Scan (List Char)) (test : Char → Bool) : Prop where
  /-- A piece is a part of the run at the front of the text. -/
  sound : ∀ input piece rest, reader input = some (piece, rest) →
    piece ≠ [] ∧ (∀ c ∈ piece, test c = true) ∧ piece ++ rest = input
  /-- There is a piece wherever there is a run. -/
  found : ∀ input, ¬ Stops test input → ∃ piece rest, reader input = some (piece, rest)

namespace TakesPieces

variable {reader : Scan (List Char)} {test : Char → Bool}

/-- There is no piece where no run is. -/
theorem eq_none_of_stops (takes : TakesPieces reader test) {input : List Char}
    (stops : Stops test input) : reader input = none := by
  refine Option.eq_none_iff_forall_ne_some.mpr fun ⟨piece, rest⟩ read => ?_
  -- The first character of the piece would be that of the text.
  obtain ⟨filled, all, rfl⟩ := takes.sound input piece rest read
  cases piece with
  | nil => exact filled rfl
  | cons c others =>
    rw [List.cons_append, stops_cons, all c (by simp)] at stops
    exact nomatch stops

/-- All the pieces in a row are the longest run. -/
theorem repeated_eq (takes : TakesPieces reader test) (input : List Char) :
    ∃ pieces, repeated reader input = some (pieces, input.dropWhile test) ∧
      pieces.flatten = input.takeWhile test := by
  -- The induction is along the loop, which ends where the run is stopped.
  fun_induction repeated reader input with
  | case1 input read =>
    have stops : Stops test input := by
      by_contra goesOn
      obtain ⟨piece, rest, some⟩ := takes.found input goesOn
      exact nomatch read.symm.trans some
    obtain ⟨run, left⟩ := takeWhile_of_stops (List.forall_mem_nil _) stops
    rw [List.nil_append] at run left
    exact ⟨[], by rw [left], run.symm⟩
  | case2 input piece rest read _ ih =>
    obtain ⟨-, all, rfl⟩ := takes.sound input piece rest read
    obtain ⟨pieces, others, run⟩ := ih
    -- The run goes on behind the piece, all of which is a part of it.
    refine ⟨piece :: pieces, ?_, ?_⟩
    · rw [others, List.dropWhile_append_of_pos all]
      rfl
    · rw [List.flatten_cons, run, List.takeWhile_append_of_pos all]
  | case3 input piece rest read longer =>
    obtain ⟨filled, -, rfl⟩ := takes.sound input piece rest read
    have shorter := List.length_pos_of_ne_nil filled
    simp only [List.length_append] at longer
    omega

end TakesPieces

end Scan

namespace Identifier

open Scan

/-- Reads a run of characters that pass the test, or a single underscore. -/
def readPiece (test : Char → Bool) : Scan (List Char) :=
  -- The underscore is no letter for the first reader, so it gets a piece of its own.
  many1 test <|> do
    literal "_"
    return ['_']

/-- The pieces of an identifier are runs of one kind of characters, with underscores among them. -/
theorem takesPieces_readPiece (test : Char → Bool) :
    TakesPieces (readPiece test) (fun c => test c || c == '_') where
  sound input piece rest read := by
    simp only [readPiece, orElse_eq_some_iff, takes_many1 _ _ _ _, bind_eq_some_iff,
      takes_literal _ _ _ _, pure_eq_some_iff] at read
    rcases read with ⟨_, ⟨rfl, filled, all⟩, whole, -⟩ | ⟨-, _, _, ⟨_, rfl, whole, -⟩, rfl, rfl⟩
    · exact ⟨filled, fun c member => by simp [all c member], whole⟩
    · exact ⟨by simp, by simp, whole⟩
  found input goesOn := by
    cases input with
    | nil => exact (goesOn (stops_nil _)).elim
    | cons c tail =>
      rw [stops_cons, Bool.not_eq_false, Bool.or_eq_true, beq_iff_eq] at goesOn
      -- A run is tried first, and is there if the first character passes.
      by_cases passes : test c = true
      · have run : many1 test (c :: tail) =
            some ((c :: tail).takeWhile test, (c :: tail).dropWhile test) := by
          rw [many1_eq, List.takeWhile_cons_of_pos passes]
          rfl
        exact ⟨_, _, (orElse_eq_some_iff _ _ _ _ _).mpr (.inl run)⟩
      · obtain rfl := goesOn.resolve_left passes
        have noRun : many1 test ('_' :: tail) = none := by
          rw [many1_eq, List.takeWhile_cons_of_neg passes]
          rfl
        exact ⟨['_'], tail, (orElse_eq_some_iff _ _ _ _ _).mpr (.inr ⟨noRun, rfl⟩)⟩

/-- Reads an identifier piece by piece: letters first, then letters and digits in turn. -/
def readStepwise : Scan String := do
  -- A first piece may not begin with a digit, and all others may.
  let first ← readPiece Char.isAlpha
  let others ← repeated (readPiece Char.isAlphanum)
  return String.ofList (first ++ others.flatten)

/-- There is no identifier without a letter in front. -/
theorem read_of_stops {input : List Char} (stops : Stops isStart input) : read input = none := by
  -- Without a first character that starts a name there is none.
  cases input with
  | nil => rfl
  | cons c rest => rw [read, (stops_cons isStart c rest).mp stops, if_neg Bool.false_ne_true]

/-- Behind a letter, the identifier is the longest run of letters and digits. -/
theorem read_of_not_stops {input : List Char} (starts : ¬ Stops isStart input) :
    read input = some (String.ofList (input.takeWhile isPart), input.dropWhile isPart) := by
  cases input with
  | nil => exact (starts (stops_nil _)).elim
  | cons c rest =>
    rw [stops_cons, Bool.not_eq_false] at starts
    -- A character that starts a name is one of its parts, so the run begins with it.
    have part : isPart c = true := (isPart_iff c).mpr (.inl ((isStart_iff c).mp starts))
    rw [read, if_pos starts, List.takeWhile_cons_of_pos part, List.dropWhile_cons_of_pos part]

/-- An identifier that is read piece by piece is the longest one. -/
theorem readStepwise_eq : readStepwise = read := by
  have letters : TakesPieces (readPiece Char.isAlpha) isStart := takesPieces_readPiece _
  have parts : TakesPieces (readPiece Char.isAlphanum) isPart := takesPieces_readPiece _
  funext input
  by_cases stops : Stops isStart input
  · rw [read_of_stops stops]
    show (readPiece Char.isAlpha input).bind _ = _
    rw [letters.eq_none_of_stops stops]
    rfl
  · obtain ⟨first, rest, taken⟩ := letters.found input stops
    obtain ⟨-, all, rfl⟩ := letters.sound input first rest taken
    obtain ⟨others, left, run⟩ := parts.repeated_eq rest
    -- All that the first piece consists of belongs to the run.
    have inside : ∀ c ∈ first, isPart c = true := fun c member =>
      (isPart_iff c).mpr (.inl ((isStart_iff c).mp (all c member)))
    rw [read_of_not_stops stops, List.takeWhile_append_of_pos inside,
      List.dropWhile_append_of_pos inside, ← run]
    show (readPiece Char.isAlpha (first ++ rest)).bind _ = _
    rw [taken]
    show (repeated (readPiece Char.isAlphanum) rest).bind _ = _
    rw [left]
    rfl

end Identifier

namespace Number

open Scan

/-- Reads the digits behind a number one by one, and fails as soon as they make no number. -/
def readOn (negative : Bool) : Number → Scan Number
  -- A digit that would leave the range makes the whole literal fail.
  | number, [] => some (number, [])
  | number, c :: rest =>
    if c.isDigit then (withDigit? negative number c).bind fun next => readOn negative next rest
    else some (number, c :: rest)

/-- Reads at least one digit behind a sign. -/
def readBehind (negative : Bool) : Scan Number
  -- A sign alone is no literal.
  | [] => none
  | c :: rest => if c.isDigit then readOn negative 0 (c :: rest) else none

/-- Reads a number digit by digit, upwards or downwards from zero. -/
def readStepwise : Scan Number := do
  -- Without a sign the number counts as positive.
  let negative ← readSign
  readBehind negative

/-- Digit by digit, the longest run is read. -/
theorem readOn_eq (negative : Bool) (number : Number) (input : List Char) :
    readOn negative number input =
      ((input.takeWhile Char.isDigit).foldlM (withDigit? negative) number).map
        (·, input.dropWhile Char.isDigit) := by
  -- The induction is on the text, for every number that stands before it.
  induction input generalizing number with
  | nil => rfl
  | cons c rest ih =>
    rw [readOn]
    by_cases digit : c.isDigit = true
    · rw [if_pos digit, List.takeWhile_cons_of_pos digit, List.dropWhile_cons_of_pos digit,
        List.foldlM_cons, Option.bind_eq_bind, Option.map_bind]
      simp only [ih]
      rfl
    · rw [if_neg digit, List.takeWhile_cons_of_neg digit, List.dropWhile_cons_of_neg digit]
      rfl

/-- Behind a sign, the number is read that the whole run of digits spells. -/
theorem readBehind_eq (negative : Bool) (input : List Char) :
    readBehind negative input =
      (ofDigits? negative (input.takeWhile Char.isDigit)).map
        (·, input.dropWhile Char.isDigit) := by
  cases input with
  | nil => rfl
  | cons c rest =>
    -- Reading goes on to the last digit in both, and needs one to begin with.
    by_cases digit : c.isDigit = true
    · rw [readBehind, if_pos digit, readOn_eq, List.takeWhile_cons_of_pos digit,
        ofDigits?.eq_2 _ _ (by simp)]
    · rw [readBehind, if_neg digit, List.takeWhile_cons_of_neg digit]
      rfl

/-- Behind a sign, digit by digit, the tokens of the longest run are taken. -/
theorem takes_readBehind (negative : Bool) :
    Takes (readBehind negative)
      (fun number => Grammar.digits (if negative then -number.toInt else number.toInt))
      (fun _ => Char.isDigit) := by
  intro input number rest
  simp only [readBehind_eq, Option.map_eq_some_iff, Prod.mk.injEq, ofDigits?_eq_some_iff]
  constructor
  · intro read
    obtain ⟨_, member, rfl, rfl⟩ := read
    exact ⟨_, member, List.takeWhile_append_dropWhile, stops_dropWhile Char.isDigit input⟩
  · intro listed
    obtain ⟨token, member, rfl, stops⟩ := listed
    have digits : ∀ c ∈ token, c.isDigit = true := fun c inside =>
      (Grammar.isDigit_iff c).mpr (member.2.1 c inside)
    -- The token is the longest run, as what follows it is no digit.
    obtain ⟨taken, left⟩ := takeWhile_of_stops digits stops
    exact ⟨number, by rwa [taken], rfl, left⟩

/-- A number that is made digit by digit is the one that the whole run spells. -/
theorem readStepwise_eq : readStepwise = read := by
  -- Digit by digit or all at once, the same literals are taken.
  have behind : ∀ negative, readBehind negative = readDigits >>= fun size =>
      liftM (ofInt? (if negative then -(size : Int) else size)) := fun negative =>
    (takes_readBehind negative).eq (takes_readSigned negative)
  unfold readStepwise read
  simp only [behind]

end Number

/-- Reads an operand step by step: a number if one stands at the front, else an identifier. -/
def Operand.readStepwise : Scan Operand :=
  -- The literal is tried first, as it is in the other reader.
  lit <$> Number.readStepwise <|> var <$> Identifier.readStepwise

/-- An operand that is read step by step is the one that is read at once. -/
theorem Operand.readStepwise_eq : readStepwise = read := by
  -- Both alternatives agree with those of the other reader.
  rw [readStepwise, read, Number.readStepwise_eq, Identifier.readStepwise_eq]

end Plotter
