import Plotter.Proofs.Resolve
import Plotter.Proofs.RoundTrip
import Plotter.Proofs.Store

/-! The two readers of operands: what a token stands for is what its operand stands for. -/

namespace Plotter

/-- A reader takes in whole the texts of its language. -/
theorem Scan.Takes.whole?_eq_some_iff {α : Type} {reader : Scan α} {tokens : α → Language Char}
    {goesOn : α → Char → Bool} (takes : Takes reader tokens goesOn) (input : List Char)
    (value : α) : reader.whole? input = some value ↔ input ∈ tokens value := by
  rw [Scan.whole?_eq_some_iff, takes]
  -- Nothing is left over that could make the token longer.
  simp

namespace Number

/-- The value of a size on one side of zero. -/
def signed : Bool → Nat → Int
  -- Zero is one value under either sign.
  | true, size => -size
  | false, size => size

/-- What is nearer to zero than a number on the same side is a number. -/
theorem exists_toInt_eq_signed {negative : Bool} {number : Number} {small large : Nat}
    (value : number.toInt = signed negative large) (nearer : small ≤ large) :
    ∃ other : Number, other.toInt = signed negative small := by
  have least := Int32.le_toInt number
  have most := Int32.toInt_lt number
  rw [value] at least most
  -- The range goes on from zero to the number, on whichever side that is.
  refine ⟨Int32.ofInt (signed negative small), Int32.toInt_ofInt_of_le ?_ ?_⟩
  · cases negative <;> simp only [signed] at least ⊢ <;> omega
  · cases negative <;> simp only [signed] at most ⊢ <;> omega

/-- A digit goes behind the others, as long as that makes a number. -/
theorem withDigit?_eq_some_iff {negative : Bool} {number : Number} {size : Nat}
    (value : number.toInt = signed negative size) (digit : Char) (next : Number) :
    withDigit? negative number digit = some next ↔
      digit.isDigit = true ∧
        next.toInt = signed negative (10 * size + (digit.toNat - '0'.toNat)) := by
  have tenfold : number.toInt * 10 = signed negative (10 * size) := by
    rw [value]
    cases negative <;> simp only [signed] <;> omega
  unfold withDigit?
  by_cases isDigit : digit.isDigit = true
  · have above := ((Identifier.digit_iff_toNat digit).mp ((Grammar.isDigit_iff digit).mp isDigit)).1
    have zero : '0'.toNat = 48 := rfl
    simp only [isDigit, tenfold, true_and, guard, if_true, pure_bind, Option.bind_eq_bind,
      Option.bind_eq_some_iff, ofInt?_eq_some_iff, zero]
    constructor
    · intro made
      obtain ⟨tens, exact, behind⟩ := made
      rw [behind, exact]
      cases negative <;> simp [signed] <;> omega
    · intro last
      -- Ten times the size comes before the digit is added, and is a number if the result is.
      obtain ⟨tens, exact⟩ := exists_toInt_eq_signed last (Nat.le_add_right (10 * size) _)
      refine ⟨tens, exact, ?_⟩
      rw [last, exact]
      cases negative <;> simp [signed] <;> omega
  · simp [isDigit, guard]

/-- Digits are added one by one to give what they spell together, as long as that is a number. -/
theorem foldlM_withDigit?_eq_some_iff {negative : Bool} (run : List Char) {number : Number}
    {size : Nat} (value : number.toInt = signed negative size) (result : Number) :
    run.foldlM (withDigit? negative) number = some result ↔
      (∀ c ∈ run, c.isDigit = true) ∧
        result.toInt = signed negative (Nat.ofDigitChars 10 run size) := by
  -- The induction is on the digits that are left, for every number that stands before them.
  induction run generalizing number size with
  | nil =>
    rw [Nat.ofDigitChars_nil, ← value, Int32.toInt_inj, eq_comm]
    exact ⟨fun same => ⟨nofun, (Option.some.inj same).symm ▸ rfl⟩, fun same => same.2 ▸ rfl⟩
  | cons digit rest ih =>
    rw [List.foldlM_cons, Option.bind_eq_bind, Option.bind_eq_some_iff, Nat.ofDigitChars_cons,
      List.forall_mem_cons, and_assoc]
    constructor
    · intro made
      obtain ⟨next, added, others⟩ := made
      obtain ⟨isDigit, grown⟩ := (withDigit?_eq_some_iff value digit next).mp added
      exact ⟨isDigit, (ih grown).mp others⟩
    · intro spelled
      obtain ⟨isDigit, digits, last⟩ := spelled
      -- No digit takes the size back, so what is made on the way is a number as well.
      have grows : 10 * size + (digit.toNat - '0'.toNat) ≤
          Nat.ofDigitChars 10 rest (10 * size + (digit.toNat - '0'.toNat)) := by
        rw [Nat.ofDigitChars_eq_ofDigitChars_zero]
        have tenfold := Nat.le_mul_of_pos_left (10 * size + (digit.toNat - '0'.toNat))
          (Nat.pow_pos (n := rest.length) (by decide : 0 < 10))
        omega
      obtain ⟨next, grown⟩ := exists_toInt_eq_signed last grows
      refine ⟨next, ?_, (ih grown).mpr ⟨digits, last⟩⟩
      exact (withDigit?_eq_some_iff value digit next).mpr ⟨isDigit, grown⟩

/-- Behind a sign, the digits are read that spell the number on that side of zero. -/
theorem ofDigits?_eq_some_iff (negative : Bool) (run : List Char) (number : Number) :
    ofDigits? negative run = some number ↔
      run ∈ Grammar.digits (if negative then -number.toInt else number.toInt) := by
  have zero : (0 : Number).toInt = signed negative 0 := by
    cases negative <;> rfl
  cases run with
  | nil =>
    constructor
    · exact fun found => nomatch found
    · exact fun listed => (listed.1 rfl).elim
  | cons digit rest =>
    rw [ofDigits?.eq_2 _ _ (by simp), foldlM_withDigit?_eq_some_iff _ zero]
    simp only [Grammar.isDigit_iff]
    -- The value behind the sign is the number, so without the sign it is what the digits spell.
    constructor
    · intro spelled
      refine ⟨by simp, spelled.1, ?_⟩
      rw [spelled.2]
      cases negative <;> simp [signed]
    · intro listed
      refine ⟨listed.2.1, ?_⟩
      have value := listed.2.2
      cases negative <;> simp_all [signed]

/-- A text is cut into its sign and what comes behind it. -/
theorem parse?_eq (text : String) :
    parse? text = (readSign text.toList).bind fun (negative, run) => ofDigits? negative run := by
  unfold parse? readSign
  -- The sign is told by the first character, if there is one.
  split <;> rfl

/-- A whole text is read as a number exactly if it is one of the ways to write it. -/
theorem parse?_eq_some_iff (text : String) (number : Number) :
    parse? text = some number ↔ text.toList ∈ Grammar.integer number := by
  simp only [parse?_eq, Option.bind_eq_some_iff, Prod.exists, readSign_eq_some_iff,
    ofDigits?_eq_some_iff, mem_integer]
  constructor
  · intro read
    rcases read with ⟨_, run, ⟨rfl, same⟩ | ⟨rfl, same⟩ | ⟨rfl, same, -⟩, digits⟩
    · exact .inr (.inr ⟨run, digits, same⟩)
    · exact .inr (.inl ⟨run, digits, same⟩)
    · exact .inl (same ▸ digits)
  · intro listed
    rcases listed with digits | ⟨run, digits, same⟩ | ⟨run, digits, same⟩
    · -- A run of digits does not start with a sign.
      have first := (breaks_isSign _ _ digits).2
      exact ⟨false, _, .inr (.inr ⟨rfl, rfl, first⟩), digits⟩
    · exact ⟨false, run, .inr (.inl ⟨rfl, same⟩), digits⟩
    · exact ⟨true, run, .inl ⟨rfl, same⟩, digits⟩

/-- The two readers of numbers take in whole the same texts, for the same numbers. -/
theorem whole?_read (text : String) : read.whole? text.toList = parse? text := by
  -- The reader and the parser accept the same texts, with the same numbers.
  refine Option.ext fun number => ?_
  rw [takes_read.whole?_eq_some_iff, parse?_eq_some_iff]

/-- No identifier is a number. -/
theorem parse?_of_spelled {name : String} (spelled : Identifier.Spelled name) :
    parse? name = none := by
  refine Option.eq_none_iff_forall_ne_some.mpr fun number found => ?_
  -- A number does not start with a letter.
  have start := (breaks_isStart number _ ((parse?_eq_some_iff name number).mp found)).2
  obtain ⟨first, rest, same, letter, -⟩ := spelled
  rw [same, Scan.stops_cons] at start
  rw [← Identifier.isStart_iff, start] at letter
  exact nomatch letter

end Number

namespace Variables

/-- The store after an assignment, which is the one before it if that is refused. -/
def afterAssign (store : Variables) (call : String × Value) : Variables :=
  -- A refused call changes nothing.
  match store.assign call.1 call.2 with
  | .ok next => next
  | .error _ => store

/-- The store after any number of assignments, of which some may be refused. -/
def assigned (calls : List (String × Value)) : Variables :=
  -- The calls are made one after the other, on the empty store.
  calls.foldl afterAssign .empty

/-- Whatever is assigned, the store stays sound. -/
theorem Sound.afterAssign {store : Variables} (sound : store.Sound) (call : String × Value) :
    (store.afterAssign call).Sound := by
  rw [Variables.afterAssign]
  -- Either the checked binding is made or the store stays.
  cases passed : check call.1 call.2 with
  | ok _ =>
    rw [assign_of_check_ok store passed]
    exact sound.insert passed
  | error error =>
    rw [assign_of_check_error store passed]
    exact sound

/-- Every store that assignments make is sound. -/
theorem sound_assigned (calls : List (String × Value)) : (assigned calls).Sound := by
  -- The induction is on the assignments, from any sound store on.
  have general : ∀ store : Variables, store.Sound → (calls.foldl afterAssign store).Sound := by
    induction calls with
    | nil => exact fun _ sound => sound
    | cons call rest ih => exact fun store sound => ih _ (sound.afterAssign call)
  exact general .empty sound_empty

/-- In a sound store everything that is bound has passed the check. -/
theorem Sound.check_of_get? {store : Variables} (sound : store.Sound) {name : String}
    {value : Value} (bound : store.get? name = some value) : check name value = .ok () := by
  -- What a look at a name finds is one of the entries, and those are checked.
  obtain ⟨before, after, split, -⟩ := List.lookup_eq_some_iff.mp bound
  exact sound.checked name value (by simp [split])

/-- In a sound store only identifiers are bound. -/
theorem Sound.spelled {store : Variables} (sound : store.Sound) {name : String} {value : Value}
    (bound : store.get? name = some value) : Identifier.Spelled name :=
  -- The check includes the name.
  ((check_eq_ok_iff name value).mp (sound.check_of_get? bound)).1

/-- In a sound store only values are bound that may be stored. -/
theorem Sound.storable {store : Variables} (sound : store.Sound) {name : String} {value : Value}
    (bound : store.get? name = some value) : value.Storable :=
  -- The check includes the value.
  ((check_eq_ok_iff name value).mp (sound.check_of_get? bound)).2

/-- A name that stands for a number is bound to it. -/
theorem int?_eq_some_iff (store : Variables) (name : String) (number : Number) :
    store.int? name = some number ↔ store.get? name = some (.int number) := by
  rw [int?, Option.bind_eq_some_iff]
  constructor
  · intro held
    obtain ⟨value, bound, same⟩ := held
    -- A name that is bound to a text stands for no number.
    cases value with
    | int found => rwa [← Option.some.inj same]
    | text _ => cases same
  · intro bound
    exact ⟨.int number, bound, rfl⟩

/-- A token stands for a number if it spells it, or if it spells none and is bound to it. -/
theorem resolveToken_eq_ok_iff (store : Variables) (token : String) (number : Number) :
    store.resolveToken token = .ok number ↔
      Number.parse? (Text.trim token) = some number ∨
        Number.parse? (Text.trim token) = none ∧
          store.get? (Text.trim token) = some (.int number) := by
  -- The literal is tried first, and the name only if there is none.
  rw [resolveToken_eq, ← int?_eq_some_iff, ← Option.or_eq_some_iff]
  cases (Number.parse? (Text.trim token)).or (store.int? (Text.trim token)) <;> simp

/-- An identifier stands for the number that it is bound to. -/
theorem resolveToken_of_spelled (store : Variables) {name : String}
    (spelled : Identifier.Spelled name) (number : Number) :
    store.resolveToken name = .ok number ↔ store.get? name = some (.int number) := by
  -- An identifier is neither trimmed nor read as a literal.
  rw [resolveToken_eq_ok_iff, Grammar.trim_of_spelled spelled, Number.parse?_of_spelled spelled]
  simp

/-- There is one error for all tokens that stand for no number. -/
theorem resolveToken_of_ne_ok {store : Variables} {token : String}
    (unknown : ∀ number, store.resolveToken token ≠ .ok number) :
    store.resolveToken token = .error (.unresolved (Text.trim token)) := by
  rw [resolveToken_eq] at unknown ⊢
  -- If neither reading gives a number, there is one error left.
  cases found : (Number.parse? (Text.trim token)).or (store.int? (Text.trim token)) with
  | none => rfl
  | some number =>
    rw [found] at unknown
    exact (unknown number rfl).elim

/-- An operand that is a whole text resolves as the text does. -/
theorem resolve_of_whole? {store : Variables} {token : String} {operand : Operand}
    (read : Operand.read.whole? (Text.trim token).toList = some operand) (number : Number) :
    store.resolve operand = .ok number ↔ store.resolveToken token = .ok number := by
  rw [Operand.takes_read.whole?_eq_some_iff] at read
  rw [resolveToken_eq_ok_iff]
  cases operand with
  | lit value =>
    -- The text spells the number, so that nothing is looked up.
    rw [(Number.parse?_eq_some_iff _ value).mpr read]
    simp [resolve]
  | var name =>
    obtain ⟨same, spelled⟩ := read
    rw [String.toList_inj.mp same, resolve, resolveToken_of_spelled store spelled,
      Number.parse?_of_spelled spelled]
    simp

/-- Where only identifiers are bound, a token that stands for a number is an operand. -/
theorem Sound.exists_operand {store : Variables} (sound : store.Sound) {token : String}
    {number : Number} (resolved : store.resolveToken token = .ok number) :
    ∃ operand, Operand.read.whole? (Text.trim token).toList = some operand := by
  simp only [Operand.takes_read.whole?_eq_some_iff]
  -- The token spells a number, or it is bound and hence an identifier.
  rcases (resolveToken_eq_ok_iff store token number).mp resolved with spells | ⟨-, bound⟩
  · exact ⟨.lit number, (Number.parse?_eq_some_iff _ number).mp spells⟩
  · exact ⟨.var (Text.trim token), rfl, sound.spelled bound⟩

/--
The two readers of operands agree.

Whatever was assigned, a token stands for a number exactly if what is left of it without blanks is
a whole operand that does, and every other token is reported without its blanks. The two readers of
numbers take the same texts for the same numbers, which are all the ways to write these and no other
texts. No name that is bound spells a number, so each stands for what it is bound to, if that is a
number. A token that is neither a number nor an identifier stands for nothing.
-/
theorem operand_readers_agree (calls : List (String × Value)) (token : String) :
    let store := assigned calls
    let trimmed := Text.trim token
    (∀ number, store.resolveToken token = .ok number ↔
      ∃ operand, Operand.read.whole? trimmed.toList = some operand ∧
        store.resolve operand = .ok number) ∧
    ((¬ ∃ operand number, Operand.read.whole? trimmed.toList = some operand ∧
        store.resolve operand = .ok number) →
      store.resolveToken token = .error (.unresolved trimmed)) ∧
    (∀ text : String, Number.read.whole? text.toList = Number.parse? text ∧
      ∀ number, Number.parse? text = some number ↔ text.toList ∈ Grammar.integer number) ∧
    (∀ name value, store.get? name = some value → Number.parse? name = none ∧
      ∀ number, store.resolveToken name = .ok number ↔ value = .int number) ∧
    (Number.parse? trimmed = none → ¬ Identifier.Spelled trimmed →
      store.resolveToken token = .error (.unresolved trimmed)) := by
  intro store trimmed
  have sound : store.Sound := sound_assigned calls
  have agree : ∀ number, store.resolveToken token = .ok number ↔
      ∃ operand, Operand.read.whole? trimmed.toList = some operand ∧
        store.resolve operand = .ok number := by
    intro number
    constructor
    · intro resolved
      obtain ⟨operand, read⟩ := sound.exists_operand resolved
      exact ⟨operand, read, (resolve_of_whole? read number).mpr resolved⟩
    · intro found
      obtain ⟨operand, read, resolved⟩ := found
      exact (resolve_of_whole? read number).mp resolved
  refine ⟨agree, ?_, ?_, ?_, ?_⟩
  · intro unread
    refine resolveToken_of_ne_ok fun number resolved => unread ?_
    obtain ⟨operand, found⟩ := (agree number).mp resolved
    exact ⟨operand, number, found⟩
  · intro text
    exact ⟨Number.whole?_read text, Number.parse?_eq_some_iff text⟩
  · intro name value bound
    have spelled := sound.spelled bound
    refine ⟨Number.parse?_of_spelled spelled, fun number => ?_⟩
    rw [resolveToken_of_spelled store spelled, bound, Option.some.injEq]
  · intro noNumber noName
    refine resolveToken_of_ne_ok fun number resolved => ?_
    -- Only an identifier could be bound to the number.
    rcases (resolveToken_eq_ok_iff store token number).mp resolved with spells | ⟨-, bound⟩
    · exact nomatch noNumber.symm.trans spells
    · exact noName (sound.spelled bound)

/--
The least number is read in spite of zeros in front, and the one behind the greatest is not.

Of three assignments the one to a number is refused, so that `3` goes on standing for itself. The
text under another name is not taken for the number that it spells.
-/
theorem operand_readers_agree_edges :
    let store := assigned [("x", .int 7), ("3", .int 9), ("t", .text "5")]
    store.get? "x" = some (.int 7) ∧ Number.parse? "x" = none ∧
    store.resolveToken "-002147483648" = .ok (-2147483648) ∧
    store.resolveToken " +2147483648\t" = .error (.unresolved "+2147483648") ∧
    store.resolveToken " 3" = .ok 3 ∧
    store.resolveToken "t" = .error (.unresolved "t") := by
  intro store
  -- Numbers at both ends of the range, a digit that is no name, and a text among the values.
  have bound : store.get? "x" = some (.int 7) := by decide +kernel
  have agree := operand_readers_agree [("x", .int 7), ("3", .int 9), ("t", .text "5")]
  refine ⟨bound, ((agree "x").2.2.2.1 "x" _ bound).1, ?_, ?_, ?_, ?_⟩
  · exact ((agree "-002147483648").1 _).mpr ⟨.lit (-2147483648), by decide +kernel, rfl⟩
  · have trimmed : Text.trim " +2147483648\t" = "+2147483648" := by decide +kernel
    rw [← trimmed]
    exact (agree " +2147483648\t").2.2.2.2 (by decide +kernel) (by decide +kernel)
  · exact ((agree " 3").1 _).mpr ⟨.lit 3, by decide +kernel, rfl⟩
  · refine (agree "t").2.1 ?_
    intro found
    obtain ⟨operand, number, read, resolved⟩ := found
    have name : Operand.read.whole? (Text.trim "t").toList = some (.var "t") := by decide +kernel
    obtain rfl := Option.some.inj (name.symm.trans read)
    have unknown : store.resolve (.var "t") = .error (.unresolved "t") := by decide +kernel
    exact nomatch unknown.symm.trans resolved

end Variables

end Plotter
