import Mathlib.Computability.Language
import Plotter.Scan

/-! Readers that take exactly the texts of a language, as long as nothing goes on behind them. -/

namespace Plotter.Scan

variable {α β : Type}

/-- The text is empty or starts with a character that fails the test. -/
def Stops (test : Char → Bool) (text : List Char) : Prop :=
  -- At the end of the text there is nothing that could go on.
  ∀ c ∈ text.head?, test c = false

/-- The empty text stops every run. -/
@[simp] theorem stops_nil (test : Char → Bool) : Stops test [] := by
  -- There is no first character.
  simp [Stops]

/-- A text stops a run by its first character. -/
@[simp] theorem stops_cons (test : Char → Bool) (c : Char) (rest : List Char) :
    Stops test (c :: rest) ↔ test c = false := by
  -- The first character is the only one that is asked about.
  simp [Stops]

/-- A text that is not empty stops a run whatever comes after it. -/
theorem Stops.append_of_ne_nil {test : Char → Bool} {first : List Char} (stops : Stops test first)
    (filled : first ≠ []) (second : List Char) : Stops test (first ++ second) := by
  -- The first character is that of the first text.
  cases first with
  | nil => exact (filled rfl).elim
  | cons c rest => simpa using stops

/-- What follows the longest run stops it. -/
theorem stops_dropWhile (test : Char → Bool) (text : List Char) :
    Stops test (text.dropWhile test) := by
  -- The first character behind the longest run is the one that ended it.
  have first := List.head?_dropWhile_not test text
  cases left : text.dropWhile test with
  | nil => simp
  | cons c rest =>
    rw [left] at first
    simpa using first

/-- A run that is stopped is the longest one. -/
theorem takeWhile_of_stops {test : Char → Bool} {run rest : List Char}
    (all : ∀ c ∈ run, test c = true) (stops : Stops test rest) :
    (run ++ rest).takeWhile test = run ∧ (run ++ rest).dropWhile test = rest := by
  -- The run passes the test throughout, so only its first follower decides.
  rw [List.takeWhile_append_of_pos all, List.dropWhile_append_of_pos all]
  cases rest with
  | nil => simp
  | cons c rest =>
    have fails : test c = false := by simpa using stops
    simp [fails]

/-- The texts of the language start with a character that fails the test. -/
def Breaks (test : Char → Bool) (language : Language Char) : Prop :=
  -- An empty text would leave the question to what stands behind it.
  ∀ text ∈ language, text ≠ [] ∧ Stops test text

/-- What comes after the texts of a language does not change how they start. -/
theorem Breaks.mul {test : Char → Bool} {language : Language Char} (breaks : Breaks test language)
    (others : Language Char) : Breaks test (language * others) := by
  intro whole product
  obtain ⟨text, member, other, -, rfl⟩ := Language.mem_mul.mp product
  -- The product starts as its first factor does, which is not empty.
  have own := breaks text member
  exact ⟨by simp [own.1], own.2.append_of_ne_nil own.1 other⟩

/-- A text of the language stops a run whatever comes after it. -/
theorem Breaks.stops {test : Char → Bool} {language : Language Char} (breaks : Breaks test language)
    {text : List Char} (member : text ∈ language) (rest : List Char) : Stops test (text ++ rest) :=
  -- The text is not empty, so its own first character decides.
  (breaks text member).2.append_of_ne_nil (breaks text member).1 rest

/--
The reader takes exactly the tokens of its values from the front of a text.

A token ends where the text does not go on with one of the characters that could make it longer.
-/
def Takes (reader : Scan α) (tokens : α → Language Char) (goesOn : α → Char → Bool) : Prop :=
  -- Stopping at the rest makes the token the longest one.
  ∀ input value rest, reader input = some (value, rest) ↔
    ∃ token ∈ tokens value, token ++ rest = input ∧ Stops (goesOn value) rest

/-- Nothing can make a token longer. -/
def never (_ : α) (_ : Char) : Bool :=
  -- A token of fixed length is not made longer by what follows.
  false

/-- Nothing goes on, whatever comes. -/
@[simp] theorem stops_never (value : α) (text : List Char) : Stops (never value) text := by
  -- No character passes the test.
  simp [Stops, never]

/-- A whole text is one that leaves nothing over. -/
theorem whole?_eq_some_iff (reader : Scan α) (input : List Char) (value : α) :
    reader.whole? input = some value ↔ reader input = some (value, []) := by
  unfold whole?
  -- A reader that leaves something over, and one that fails, have no whole text.
  split <;> simp_all

/-- Two readers in a row read one after the other. -/
theorem bind_eq_some_iff (reader : Scan α) (next : α → Scan β) (input rest : List Char)
    (value : β) :
    (reader >>= next) input = some (value, rest) ↔
      ∃ first middle, reader input = some (first, middle) ∧
        next first middle = some (value, rest) := by
  -- The second reader goes on with what the first one has left.
  show (reader input).bind (fun read => next read.1 read.2) = _ ↔ _
  rw [Option.bind_eq_some_iff]
  simp only [Prod.exists]

/-- Giving a value takes nothing from the text. -/
theorem pure_eq_some_iff (given value : α) (input rest : List Char) :
    (pure given : Scan α) input = some (value, rest) ↔ given = value ∧ input = rest := by
  -- Nothing is read, so all of the input is left.
  show some (given, input) = some (value, rest) ↔ _
  simp

namespace Takes

variable {reader : Scan α} {tokens : α → Language Char} {goesOn : α → Char → Bool}

/-- The value of a reader can be changed if that does not change what makes its tokens longer. -/
theorem map (takes : Takes reader tokens goesOn) (change : α → β) {texts : β → Language Char}
    {later : β → Char → Bool} (same : ∀ value, later (change value) = goesOn value)
    (listed : ∀ value text,
      text ∈ texts value ↔ ∃ given, change given = value ∧ text ∈ tokens given) :
    Takes (reader >>= fun value => pure (change value)) texts later := by
  intro input value rest
  -- The change of the value reads nothing, so the token is that of the reader.
  simp only [bind_eq_some_iff, pure_eq_some_iff, takes _ _ _, listed]
  constructor
  · intro read
    obtain ⟨given, middle, ⟨token, member, whole, stops⟩, rfl, rfl⟩ := read
    exact ⟨token, ⟨given, rfl, member⟩, whole, same given ▸ stops⟩
  · intro known
    obtain ⟨token, ⟨given, rfl, member⟩, whole, stops⟩ := known
    exact ⟨given, rest, ⟨token, member, whole, same given ▸ stops⟩, rfl, rfl⟩

/--
Two readers in a row take the tokens of both.

The second token, with what may follow it, must not make the first one longer.
-/
theorem bind {next : α → Scan β} {others : α → β → Language Char} {texts : β → Language Char}
    {later : β → Char → Bool} (first : Takes reader tokens goesOn)
    (second : ∀ value, Takes (next value) (others value) later)
    (apart : ∀ value other, ∀ token ∈ others value other, ∀ rest, Stops (later other) rest →
      Stops (goesOn value) (token ++ rest))
    (listed : ∀ other text,
      text ∈ texts other ↔ ∃ value, text ∈ tokens value * others value other) :
    Takes (reader >>= next) texts later := by
  intro input other rest
  -- Each reader takes its own token, and the whole token is both of them in a row.
  simp only [bind_eq_some_iff, first _ _ _, second _ _ _ _, listed, Language.mem_mul]
  constructor
  · intro read
    obtain ⟨value, middle, ⟨token, member, rfl, _⟩, follower, followed, rfl, stops⟩ := read
    exact ⟨token ++ follower, ⟨value, token, member, follower, followed, rfl⟩, by simp, stops⟩
  · intro known
    obtain ⟨_, ⟨value, token, member, follower, followed, rfl⟩, rfl, stops⟩ := known
    -- The first token ends where the second one starts.
    have ends := apart value other follower followed rest stops
    exact ⟨value, follower ++ rest, ⟨token, member, by simp, ends⟩,
      follower, followed, rfl, stops⟩

end Takes

end Plotter.Scan
