import Mathlib.Order.Nat
import Plotter.Proofs.Arithmetic
import Plotter.Proofs.Comparison
import Plotter.Proofs.LoopLimit
import Plotter.Proofs.Reachable

/-! Loops that count to a bound: how often they go round, and what can stop them before that. -/

namespace Plotter

open Plotter.Action

/-- The two ways to count. -/
inductive Direction where
  /-- In steps that are added. -/
  | up
  /-- In steps that are taken away. -/
  | down

/-- The comparison with the bound that keeps a loop going. -/
def Direction.comparison : Direction → CmpOp
  -- The comparison is strict, so the loop stops as soon as the bound is met.
  | up => .lt
  | down => .gt

/-- The operation that makes a step. -/
def Direction.operation : Direction → ArithOp
  -- The counter runs towards the bound.
  | up => .add
  | down => .sub

/-- What a loop is made of that counts a variable to a bound. -/
structure Counter where
  /-- Whether it counts up or down. -/
  direction : Direction
  /-- The variable that counts. -/
  name : String
  /-- The size of a step. -/
  step : Number
  /-- The number that is counted to. -/
  bound : Number
  /-- The commands in front of the step. -/
  ahead : List Command := []
  /-- The commands behind the step. -/
  behind : List Command := []

namespace Counter

/-- The condition of a loop that has not counted to the bound yet. -/
def condition (counter : Counter) : Condition where
  -- The bound is written out in the text, so no other command can move it.
  left := .var counter.name
  op := counter.direction.comparison
  right := .lit counter.bound

/-- The command that makes a step. -/
def command (counter : Counter) : Command :=
  -- The counter is source and target of the same computation.
  .compute counter.name counter.name counter.direction.operation counter.step

/-- The body of the loop. -/
def body (counter : Counter) : List Command :=
  -- The step may stand anywhere in the body.
  counter.ahead ++ counter.command :: counter.behind

/-- The exact integer after a number of steps. -/
def value (counter : Counter) (start : Int) (count : Nat) : Int :=
  -- The integers have room for values that a variable could no longer hold.
  match counter.direction with
  | .up => start + count * counter.step.toInt
  | .down => start - count * counter.step.toInt

/-- So many steps are enough to come to the bound. -/
def Reaches (counter : Counter) (start : Int) (count : Nat) : Prop :=
  -- This is the negation of the condition, read with exact integers.
  match counter.direction with
  | .up => counter.bound.toInt ≤ counter.value start count
  | .down => counter.value start count ≤ counter.bound.toInt

/-- So many steps lead beyond the largest number, or out of the numbers above zero. -/
def Leaves (counter : Counter) (start : Int) (count : Nat) : Prop :=
  -- Counting up runs out of the number range, counting down runs into the values below one.
  match counter.direction with
  | .up => 2147483647 < counter.value start count
  | .down => counter.value start count ≤ 0

/-- The error of a step that starts from an integer and leads beyond what a variable can hold. -/
def refusal (counter : Counter) (current : Int) : Error :=
  -- Upwards the operation itself fails, downwards the variable does not take its result.
  match counter.direction with
  | .up => .overflow (.ofInt current) .add counter.step
  | .down => .notPositive counter.name (.ofInt (current - counter.step.toInt))

/-- A step that is refused is refused for the range of a number. -/
theorem kind_refusal (counter : Counter) (current : Int) :
    (counter.refusal current).kind = .outOfRange := by
  unfold refusal
  -- Either refusal is about a number that has gone too far.
  cases counter.direction <;> rfl

variable {counter : Counter} {start : Int} {count more : Nat}

/-- Nothing has been counted before the first step. -/
@[simp] theorem value_zero (counter : Counter) (start : Int) : counter.value start 0 = start := by
  -- No step is a product with zero.
  unfold value
  cases counter.direction <;> simp

/-- A step leads from each integer to the next one, exactly. -/
theorem yields_value (counter : Counter) (start : Int) (count : Nat) :
    counter.direction.operation.Yields (counter.value start count) counter.step.toInt
      (counter.value start (count + 1)) := by
  -- A product with a count is not linear, so it is taken apart before the rest.
  have next : ((count + 1 : Nat) : Int) * counter.step.toInt =
      count * counter.step.toInt + counter.step.toInt := by
    rw [Int.natCast_add, Int.add_mul, Int.natCast_one, Int.one_mul]
  unfold value
  cases counter.direction <;> simp only [Direction.operation, ArithOp.Yields] <;> omega

/-- More steps lead at least as far. -/
theorem travel_mono (positive : 1 ≤ counter.step.toInt) (less : count ≤ more) :
    (count : Int) * counter.step.toInt ≤ more * counter.step.toInt :=
  -- The way covered grows with the steps, as a step never goes back.
  Int.mul_le_mul_of_nonneg_right (Int.ofNat_le.mpr less) (by omega)

/-- Every step leads on by one at least. -/
theorem le_travel (positive : 1 ≤ counter.step.toInt) (count : Nat) :
    (count : Int) ≤ count * counter.step.toInt := by
  -- One is the smallest number that a step can be.
  have further := Int.mul_le_mul_of_nonneg_left positive (Int.natCast_nonneg count)
  rwa [Int.mul_one] at further

/-- A number of steps that leads too far does so with more steps as well. -/
theorem Leaves.mono (leaves : counter.Leaves start count) (positive : 1 ≤ counter.step.toInt)
    (less : count ≤ more) : counter.Leaves start more := by
  -- Going on only leads further away from the range.
  have further := travel_mono positive less
  unfold Leaves value at leaves ⊢
  cases direction : counter.direction <;> simp only [direction] at leaves ⊢ <;> omega

/-- Sooner or later the bound is reached, wherever it is. -/
theorem exists_reaches (positive : 1 ≤ counter.step.toInt) (start : Int) :
    ∃ count, counter.Reaches start count := by
  -- Each step leads on by at least one, so as many as lie in between are enough.
  refine ⟨(counter.bound.toInt - start).natAbs, ?_⟩
  have far := le_travel positive (counter.bound.toInt - start).natAbs
  unfold Reaches value
  cases counter.direction <;> simp only <;> omega

/-- The first value has not left what a variable can hold. -/
theorem not_leaves_zero (low : 0 < start) (high : start ≤ 2147483647) :
    ¬ counter.Leaves start 0 := by
  -- A stored value is in the range to begin with.
  unfold Leaves
  cases counter.direction <;> simp only [value_zero] <;> omega

/-- What has not left the numbers that a variable can hold is one of them. -/
theorem exists_number_of_not_leaves (positive : 1 ≤ counter.step.toInt) (low : 0 < start)
    (high : start ≤ 2147483647) (stays : ¬ counter.Leaves start count) :
    ∃ number : Number, number.toInt = counter.value start count ∧ 0 < number.toInt := by
  have far := le_travel positive count
  -- One end of the range is kept by the steps so far, and the other one by where they started.
  have between : 0 < counter.value start count ∧ counter.value start count ≤ 2147483647 := by
    unfold Leaves at stays
    unfold value at stays ⊢
    cases direction : counter.direction <;> simp only [direction] at stays ⊢ <;> omega
  have same : (Int32.ofInt (counter.value start count)).toInt = counter.value start count :=
    Int32.toInt_ofInt_of_le (by omega) (by omega)
  exact ⟨.ofInt (counter.value start count), same, by omega⟩

end Counter

/-- The variable of the name holds the integer. -/
def Session.Holds {κ : Type} (session : Session κ) (name : String) (value : Int) : Prop :=
  -- The store keeps machine numbers; the claim is about the integer that one of them stands for.
  ∃ number : Number, session.store.get? name = some (.int number) ∧ number.toInt = value

/-- A session in which the variable is bound as before holds the same integer. -/
theorem Session.Holds.congr {κ : Type} {before after : Session κ} {name : String} {value : Int}
    (holds : before.Holds name value) (same : (Part.binding name).Same before after) :
    after.Holds name value := by
  -- Both sessions answer a look at the name with the same number.
  obtain ⟨number, bound, exact⟩ := holds
  exact ⟨number, Eq.trans same bound, exact⟩

namespace Action

variable {κ : Type} [Canvas κ] {settings : Settings} {counter : Counter} {start : Int}
  {count : Nat} {session : Session κ}

/-- Iterations go on with another one. -/
theorem Rounds.snoc {condition : Condition} {body : List Command} {before middle after : Session κ}
    (rounds : Rounds settings condition body count before middle)
    (last : Round settings condition body middle after) :
    Rounds settings condition body (count + 1) before after := by
  -- The rounds are built from the front, so the new one is passed down to the end.
  induction rounds with
  | none session => exact .next last (.none after)
  | next first rest ih => exact .next first (ih last)

/-- Commands that do not assign to a name leave its variable alone. -/
theorem same_binding_executeAll (settings : Settings) {name : String} {commands : List Command}
    (spare : ∀ command ∈ commands, command.target? ≠ some name) (session : Session κ) :
    (Part.binding name).Same session (outcome (executeAll settings commands) session).2 := by
  -- A variable only changes if one of the commands assigns to it.
  rcases (Request.commands commands).same_or_reaches 0 session (.binding name) with same | reached
  · exact same
  · obtain ⟨command, member, assigns⟩ := reached
    exact (spare command member assigns).elim

omit [Canvas κ] in
/-- The condition of a counting loop holds as long as the bound is not reached. -/
theorem holds_condition (spelled : Identifier.Spelled counter.name)
    (held : session.Holds counter.name (counter.value start count)) {goesOn : Bool}
    (decides : goesOn = true ↔ ¬ counter.Reaches start count) :
    counter.condition.holds session.store = .ok goesOn := by
  obtain ⟨number, found, exact⟩ := held
  have resolved : session.store.resolve (.var counter.name) = .ok number := by
    rw [Variables.resolve, Variables.resolveToken_of_spelled _ spelled, found]
  have compared : counter.condition.holds session.store =
      .ok (counter.direction.comparison.holds number counter.bound) :=
    (bind_eq_ok_iff ..).mpr ⟨number, resolved, rfl⟩
  -- The number is compared with the bound as the integer that it is.
  have meaning : counter.direction.comparison.Relates number.toInt counter.bound.toInt ↔
      ¬ counter.Reaches start count := by
    rw [exact]
    unfold Counter.Reaches
    cases counter.direction with
    | up => exact Int.not_le.symm
    | down => exact Int.not_le.symm
  rw [compared, CmpOp.holds_eq_decide]
  exact congrArg Except.ok (Bool.eq_iff_iff.mpr (by simp [meaning, decides]))

variable (positive : 1 ≤ counter.step.toInt) (low : 0 < start) (high : start ≤ 2147483647)
  (spelled : Identifier.Spelled counter.name)
  (held : session.Holds counter.name (counter.value start count))

include spelled held

include positive low high in
/-- A step to a number that a variable can hold is made. -/
theorem step_of_not_leaves (stays : ¬ counter.Leaves start (count + 1)) :
    ∃ after, outcome (execute settings counter.command) session = (.ok (), after) ∧
      after.Holds counter.name (counter.value start (count + 1)) := by
  obtain ⟨current, bound, exact⟩ := held
  obtain ⟨next, same, above⟩ := Counter.exists_number_of_not_leaves positive low high stays
  have resolved := (Variables.resolveToken_of_spelled _ spelled current).mpr bound
  have computes : session.Computes counter.name current counter.direction.operation counter.step
      (outcome (execute settings counter.command) session) :=
    computes_of_resolved settings counter.name counter.direction.operation counter.step resolved
  -- The number of the next step is exact and above zero, so the binding is accepted.
  have yields := counter.yields_value start count
  rw [← exact, ← same] at yields
  obtain ⟨ended, left, -⟩ := computes.bound next yields spelled above
  exact ⟨_, Prod.fst_eq_iff.mp ended, next, left, same⟩

include positive in
/-- A step that leads too far is refused, for a reason that depends on the direction. -/
theorem step_of_leaves (leaves : counter.Leaves start (count + 1))
    (stays : ¬ counter.Leaves start count) :
    outcome (execute settings counter.command) session =
      (.error (.failure (counter.refusal (counter.value start count))), session) := by
  obtain ⟨current, found, exact⟩ := held
  have resolved := (Variables.resolveToken_of_spelled _ spelled current).mpr found
  have computes := computes_of_resolved settings counter.name counter.direction.operation
    counter.step resolved
  have yields := counter.yields_value start count
  rw [← exact] at yields ⊢
  have failed : (outcome (execute settings counter.command) session).1 =
      .error (.failure (counter.refusal current.toInt)) := by
    unfold Counter.Leaves at leaves stays
    cases direction : counter.direction with
    | up =>
      -- Upwards, the exact result is no number at all.
      simp only [Counter.command, Counter.refusal, direction, Direction.operation]
        at leaves computes yields ⊢
      rw [Int32.ofInt_toInt]
      exact computes.wide _ yields (.inr leaves)
    | down =>
      -- Downwards it is one, but not above zero.
      simp only [Counter.command, Counter.refusal, direction, Direction.operation]
        at leaves stays computes yields ⊢
      have next : counter.value start (count + 1) = current.toInt - counter.step.toInt := yields
      have most := Int32.toInt_lt counter.step
      have same : (Int32.ofInt (current.toInt - counter.step.toInt)).toInt =
          current.toInt - counter.step.toInt :=
        Int32.toInt_ofInt_of_le (by omega) (by omega)
      exact computes.notPositive _ same spelled (by omega)
  exact Prod.ext failed (computes.unchanged _ failed)

end Action

/-- After so many complete iterations the loop comes to another one, and may have it. -/
structure Counter.Enters {κ : Type} [Canvas κ] (counter : Counter) (settings : Settings)
    (allowed count : Nat) (session middle : Session κ) : Prop where
  /-- The iterations before it are fewer than the loop may have. -/
  room : count < allowed
  /-- They are complete. -/
  rounds : Rounds settings counter.condition counter.body count session middle
  /-- The condition still holds. -/
  goesOn : counter.condition.holds middle.store = .ok true

/-- The other commands of a body do not assign to the variable, and succeed in every iteration. -/
structure Counter.Undisturbed {κ : Type} [Canvas κ] (counter : Counter) (settings : Settings)
    (allowed : Nat) (session : Session κ) : Prop where
  /-- None of them assigns to the variable that counts. -/
  spare : ∀ command ∈ counter.ahead ++ counter.behind, command.target? ≠ some counter.name
  /-- Those in front of the step succeed whenever an iteration is entered. -/
  before : ∀ count middle, counter.Enters settings allowed count session middle →
    ∃ stepped, outcome (executeAll settings counter.ahead) middle = (.ok (), stepped)
  /-- Those behind the step succeed whenever the step before them has been made. -/
  after : ∀ count middle stepped next, counter.Enters settings allowed count session middle →
    outcome (executeAll settings counter.ahead) middle = (.ok (), stepped) →
      outcome (execute settings counter.command) stepped = (.ok (), next) →
        ∃ ending, outcome (executeAll settings counter.behind) next = (.ok (), ending)

/-- The step of the iteration after so many complete ones is refused, which ends the loop. -/
structure Counter.Refused {κ : Type} [Canvas κ] (counter : Counter) (settings : Settings)
    (start : Int) (count : Nat) (session : Session κ) (ran : Except Halt Nat × Session κ) :
    Prop where
  /-- The error of the loop is that of the step. -/
  error : ran.1 = .error (.failure (counter.refusal (counter.value start count)))
  /-- It says that a number is out of range. -/
  kind : (counter.refusal (counter.value start count)).kind = .outOfRange
  /-- The variable has the value that it had before the step. -/
  held : ran.2.Holds counter.name (counter.value start count)
  /-- The iterations before it are complete, and so are the commands in front of the step. -/
  entered : ∃ middle, Rounds settings counter.condition counter.body count session middle ∧
    outcome (executeAll settings counter.ahead) middle = (.ok (), ran.2) ∧
      outcome (execute settings counter.command) ran.2 =
        (.error (.failure (counter.refusal (counter.value start count))), ran.2)

/-- How a loop ends that needs so many steps to its bound. -/
structure Counter.Ends {κ : Type} [Canvas κ] (counter : Counter) (settings : Settings)
    (fuel : Nat) (start : Int) (steps : Nat) (session : Session κ)
    (ran : Except Halt Nat × Session κ) : Prop where
  /-- It makes all of them if it may, and if the variable can hold the last value. -/
  finished : steps = 0 ∨ ¬ counter.Leaves start steps → steps ≤ settings.loopLimit.getD fuel →
    ran.1 = .ok steps ∧ ran.2.Holds counter.name (counter.value start steps)
  /-- If it cannot hold the last value, there is a first step that leads too far. -/
  leaves : steps ≠ 0 → counter.Leaves start steps →
    ∃ count < steps, IsLeast {other | counter.Leaves start other} (count + 1)
  /-- This step is refused if the loop may come to it. -/
  refused : ∀ count < steps, IsLeast {other | counter.Leaves start other} (count + 1) →
    count < settings.loopLimit.getD fuel → counter.Refused settings start count session ran
  /-- A limit below the number of steps stops the loop, unless a step is refused before. -/
  stopped : ∀ limit, settings.loopLimit = some limit → limit < steps →
    (∀ count ≤ limit, ¬ counter.Leaves start count) →
      ran.1 = .error (.failure (.loopLimit limit)) ∧
        ran.2.Holds counter.name (counter.value start limit)

namespace Action

section Iterations

variable {κ : Type} [Canvas κ] {settings : Settings} {counter : Counter} {start : Int}
  {allowed count : Nat} {session middle : Session κ}

/-- The commands in front of the step lead to it, with the variable as it was. -/
theorem exists_stepped (undisturbed : counter.Undisturbed settings allowed session)
    (entered : counter.Enters settings allowed count session middle)
    (held : middle.Holds counter.name (counter.value start count)) :
    ∃ stepped, outcome (executeAll settings counter.ahead) middle = (.ok (), stepped) ∧
      stepped.Holds counter.name (counter.value start count) := by
  obtain ⟨stepped, ahead⟩ := undisturbed.before count middle entered
  -- What stands ahead of the step does not assign to the counter.
  have kept := same_binding_executeAll settings
    (List.forall_mem_append.mp undisturbed.spare).1 middle
  rw [ahead] at kept
  exact ⟨stepped, ahead, held.congr kept⟩

variable (positive : 1 ≤ counter.step.toInt) (low : 0 < start) (high : start ≤ 2147483647)
  (spelled : Identifier.Spelled counter.name)
  (undisturbed : counter.Undisturbed settings allowed session)

include positive spelled undisturbed

include low high in
/-- An iteration whose step is made is complete. -/
theorem round_of_not_leaves (entered : counter.Enters settings allowed count session middle)
    (held : middle.Holds counter.name (counter.value start count))
    (stays : ¬ counter.Leaves start (count + 1)) :
    ∃ after, Round settings counter.condition counter.body middle after ∧
      after.Holds counter.name (counter.value start (count + 1)) := by
  -- The commands in front, the step and the commands behind it come one after the other.
  obtain ⟨stepped, ahead, kept⟩ := exists_stepped undisturbed entered held
  obtain ⟨next, made, exact⟩ := step_of_not_leaves positive low high spelled kept stays
  obtain ⟨ending, behind⟩ := undisturbed.after count middle stepped next entered ahead made
  have left := same_binding_executeAll settings
    (List.forall_mem_append.mp undisturbed.spare).2 next
  rw [behind] at left
  refine ⟨ending, ⟨entered.goesOn, ?_⟩, exact.congr left⟩
  rw [Counter.body, outcome_executeAll_append, ahead, follow_ok, outcome_executeAll_cons, made,
    follow_ok, behind]

/-- An iteration whose step is refused breaks off at the step. -/
theorem breaks_of_leaves (entered : counter.Enters settings allowed count session middle)
    (held : middle.Holds counter.name (counter.value start count))
    (leaves : counter.Leaves start (count + 1)) (stays : ¬ counter.Leaves start count) :
    ∃ ran, outcome (executeAll settings counter.body) middle =
        (.error (.failure (counter.refusal (counter.value start count))), ran) ∧
      ran.Holds counter.name (counter.value start count) ∧
      outcome (executeAll settings counter.ahead) middle = (.ok (), ran) ∧
      outcome (execute settings counter.command) ran =
        (.error (.failure (counter.refusal (counter.value start count))), ran) := by
  obtain ⟨stepped, ahead, kept⟩ := exists_stepped undisturbed entered held
  have refused : outcome (execute settings counter.command) stepped = _ :=
    step_of_leaves positive spelled kept leaves stays
  -- The body is what stands in front of the step, which ends, and then the step.
  refine ⟨stepped, ?_, kept, ahead, refused⟩
  rw [Counter.body, outcome_executeAll_append, ahead, follow_ok, outcome_executeAll_cons, refused,
    follow_error]

include low high in
/-- As long as the bound is not reached and no step is refused, one iteration follows the other. -/
theorem rounds_of_not_leaves (held : session.Holds counter.name start) (within : count ≤ allowed)
    (goesOn : ∀ earlier < count, ¬ counter.Reaches start earlier)
    (stays : ¬ counter.Leaves start count) :
    ∃ middle, Rounds settings counter.condition counter.body count session middle ∧
      middle.Holds counter.name (counter.value start count) := by
  -- The induction is on the iterations; that the variable holds the exact value carries it.
  induction count with
  | zero => exact ⟨session, .none session, by rwa [Counter.value_zero]⟩
  | succ count ih =>
    have earlier : ¬ counter.Leaves start count :=
      fun leaves => stays (leaves.mono positive (Nat.le_succ count))
    obtain ⟨middle, rounds, exact⟩ :=
      ih (Nat.le_of_succ_le within) (fun other less => goesOn other (by omega)) earlier
    have holds :=
      holds_condition spelled exact (iff_of_true rfl (goesOn count (Nat.lt_succ_self count)))
    obtain ⟨after, last, next⟩ :=
      round_of_not_leaves positive low high spelled undisturbed ⟨within, rounds, holds⟩ exact stays
    exact ⟨after, rounds.snoc last, next⟩

variable (held : session.Holds counter.name start) (steps : Nat)
  (goesOn : ∀ count < steps, ¬ counter.Reaches start count)

include low high held goesOn

/-- A loop that is not cut short makes the steps to its bound. -/
theorem iterate_finishes (within : steps ≤ allowed) (stays : ¬ counter.Leaves start steps)
    (reaches : counter.Reaches start steps) :
    ∃ after, outcome (iterate settings counter.condition counter.body allowed 0) session =
      (.ok steps, after) ∧ after.Holds counter.name (counter.value start steps) := by
  obtain ⟨middle, rounds, exact⟩ :=
    rounds_of_not_leaves positive low high spelled undisturbed held within goesOn stays
  -- After the last step the bound is reached, so the condition does not hold any more.
  have fails :=
    holds_condition spelled exact (iff_of_false Bool.false_ne_true (not_not.mpr reaches))
  have ended : outcome (iterate settings counter.condition counter.body allowed 0) session =
      (.ok (0 + steps), middle) := (LoopEnd.finished fails).outcome_iterate rounds within
  rw [Nat.zero_add] at ended
  exact ⟨middle, ended, exact⟩

/-- A loop that comes to a step that leads too far fails with it. -/
theorem iterate_refuses (room : count < allowed) (early : count < steps)
    (leaves : counter.Leaves start (count + 1)) (stays : ¬ counter.Leaves start count) :
    counter.Refused settings start count session
      (outcome (iterate settings counter.condition counter.body allowed 0) session) := by
  have within := Nat.le_of_lt room
  obtain ⟨middle, rounds, exact⟩ := rounds_of_not_leaves positive low high spelled undisturbed held
    within (fun other less => goesOn other (Nat.lt_trans less early)) stays
  -- The condition still holds, so the next step is tried.
  have holds := holds_condition spelled exact (iff_of_true rfl (goesOn count early))
  obtain ⟨ran, stops, kept, ahead, refused⟩ :=
    breaks_of_leaves positive spelled undisturbed ⟨room, rounds, holds⟩ exact leaves stays
  rw [(LoopEnd.broken room holds stops).outcome_iterate rounds within]
  exact ⟨rfl, counter.kind_refusal _, kept, middle, rounds, ahead, refused⟩

/-- A loop that has had all its iterations before its bound is given up. -/
theorem iterate_exhausts (less : allowed < steps) (stays : ¬ counter.Leaves start allowed) :
    ∃ after, outcome (iterate settings counter.condition counter.body allowed 0) session =
      (.error (exhausted settings), after) ∧
        after.Holds counter.name (counter.value start allowed) := by
  have within := Nat.le_refl allowed
  obtain ⟨middle, rounds, exact⟩ := rounds_of_not_leaves positive low high spelled undisturbed held
    within (fun other before => goesOn other (Nat.lt_trans before less)) stays
  -- The condition still holds after the last iteration that is allowed.
  have holds := holds_condition spelled exact (iff_of_true rfl (goesOn allowed less))
  exact ⟨middle, (LoopEnd.stopped rfl holds rfl).outcome_iterate rounds within, exact⟩

end Iterations

/-- A property that a number has is one that a first number has, and none before it. -/
theorem exists_first {holds : Nat → Prop} (some : ∃ count, holds count) :
    ∃ first, IsLeast {count | holds count} first ∧ ∀ earlier < first, ¬ holds earlier := by
  -- Any number that qualifies has a least one below it.
  classical
  exact ⟨Nat.find some, Nat.isLeast_find some, fun _ => Nat.find_min some⟩

variable {κ : Type} [Canvas κ]

/--
A counting loop stops at its bound, at its limit, or at the first step that leads too far.

The loop needs the least number of steps after which the bound is reached, in exact integers. It
makes all of them, unless a step before leads out of what a variable can hold or the limit of loops
is lower. Upwards only the largest number is in the way, but downwards every step to zero or below
is refused. The body may hold other commands, which must not assign to the variable or fail.
-/
theorem counting_loop_ends {settings : Settings} {session : Session κ}
    (reached : Reachable settings session) (fuel : Nat) (counter : Counter)
    (positive : 1 ≤ counter.step.toInt) {start : Number}
    (bound : session.store.get? counter.name = some (.int start)) {text : String}
    (read : Condition.parse text = .ok counter.condition)
    (undisturbed : counter.Undisturbed settings (settings.loopLimit.getD fuel) session) :
    Condition.parse counter.condition.text = .ok counter.condition ∧
    ∃ steps, IsLeast {count | counter.Reaches start.toInt count} steps ∧
      counter.Ends settings fuel start.toInt steps session
        (outcome (runLoop settings fuel text counter.body) session) := by
  -- The store of a reachable session has identifiers for names and positive numbers for values.
  have spelled := reached.sound.spelled bound
  have low : 0 < start.toInt := reached.sound.storable bound
  have high : start.toInt ≤ 2147483647 := Int.le_of_lt_add_one (Int32.toInt_lt start)
  have held : session.Holds counter.name start.toInt := ⟨start, bound, rfl⟩
  refine ⟨Condition.parse_text spelled trivial, ?_⟩
  obtain ⟨steps, least, goesOn⟩ := exists_first (counter.exists_reaches positive start.toInt)
  have ran : outcome (runLoop settings fuel text counter.body) session =
      outcome (iterate settings counter.condition counter.body (settings.loopLimit.getD fuel) 0)
        session := by
    rw [outcome_runLoop, read]
  rw [ran]
  refine ⟨steps, least, fun fits within => ?_, fun _ leaves => ?_, fun count early first room => ?_,
    fun limit limited less stays => ?_⟩
  · -- Without a step there is none that could lead too far.
    have stays : ¬ counter.Leaves start.toInt steps := by
      rcases fits with rfl | stays
      · exact Counter.not_leaves_zero low high
      · exact stays
    obtain ⟨after, ended, exact⟩ := iterate_finishes positive low high spelled undisturbed held
      steps goesOn within stays least.1
    rw [ended]
    exact ⟨rfl, exact⟩
  · obtain ⟨broken, first, -⟩ := exists_first ⟨steps, leaves⟩
    cases broken with
    | zero => exact (Counter.not_leaves_zero low high first.1).elim
    | succ count => exact ⟨count, first.2 leaves, first⟩
  · have stays : ¬ counter.Leaves start.toInt count :=
      fun leaves => Nat.not_lt.mpr (first.2 leaves) (Nat.lt_succ_self count)
    exact iterate_refuses positive low high spelled undisturbed held steps goesOn room early first.1
      stays
  · have reason : exhausted settings = .failure (.loopLimit limit) := by
      rw [exhausted, limited]
    rw [limited, Option.getD_some] at undisturbed ⊢
    obtain ⟨after, ended, exact⟩ := iterate_exhausts positive low high spelled undisturbed held
      steps goesOn less (stays limit (Nat.le_refl limit))
    rw [ended, reason]
    exact ⟨rfl, exact⟩

/--
A countdown from five by two comes to one, but not to zero, and one iteration is not enough for it.

Its body also clears the canvas and has a line that nobody understands.
-/
theorem countdown_by_two :
    let counter (bound : Number) : Counter :=
      { direction := .down, name := "x", step := 2, bound, ahead := [.clear],
        behind := [.unrecognized "spin"] }
    let session (limit : Option Nat) : Session Recording :=
      (outcome (assign "x" (.int 5)) (.start { loopLimit := limit } {})).2
    let ran (limit : Option Nat) (condition : String) (bound : Number) :=
      outcome (runLoop { loopLimit := limit } 9 condition (counter bound).body) (session limit)
    ((ran none "x>1" 1).1 = .ok 2 ∧ (ran none "x>1" 1).2.Holds "x" 1) ∧
    ((ran none " x > 0" 0).1 = .error (.failure (.notPositive "x" (-1))) ∧
      (ran none " x > 0" 0).2.Holds "x" 1) ∧
    (ran (some 1) "x > 0" 0).1 = .error (.failure (.loopLimit 1)) ∧
      (ran (some 1) "x > 0" 0).2.Holds "x" 3 := by
  intro counter session ran
  have reached : ∀ limit, Reachable { loopLimit := limit } (session limit) :=
    fun limit => .assign (.start _ ({} : Recording)) "x" (.int 5)
  have bound : ∀ limit, (session limit).store.get? "x" = some (.int 5) := by
    intro limit
    have passed : Variables.check "x" (.int 5) = .ok () := by decide
    simp only [session, outcome_assign, passed]
    rfl
  -- The other two commands have an effect in every session, so each of them succeeds.
  have succeeds : ∀ settings (middle : Session Recording) command effect,
      Effect.ofCommand settings middle.store middle.context command = .ok effect →
        ∃ ending, outcome (executeAll settings [command]) middle = (.ok (), ending) := by
    intro settings middle command effect decided
    rw [outcome_executeAll_cons, outcome_execute_of_ok decided]
    exact ⟨_, rfl⟩
  have ends : ∀ limit text number (steps : Nat),
      Condition.parse text = .ok (counter number).condition →
      IsLeast {count | (counter number).Reaches 5 count} steps →
        (counter number).Ends { loopLimit := limit } 9 5 steps (session limit)
          (ran limit text number) := by
    intro limit text number steps read least
    obtain ⟨-, found, other, ends⟩ := counting_loop_ends (reached limit) 9 (counter number)
      (show (1 : Int) ≤ 2 by decide) (bound limit) read ⟨by simp [counter, Command.target?],
        fun _ middle _ => succeeds _ middle .clear _ rfl,
        fun _ _ _ next _ _ _ => succeeds _ next (.unrecognized "spin") _ rfl⟩
    rwa [other.unique least] at ends
  have toOne : IsLeast {count | (counter 1).Reaches 5 count} 2 :=
    ⟨show (5 : Int) - (2 : Nat) * 2 ≤ 1 by decide,
      fun count (reaches : (5 : Int) - count * 2 ≤ 1) => by omega⟩
  have toZero : IsLeast {count | (counter 0).Reaches 5 count} 3 :=
    ⟨show (5 : Int) - (3 : Nat) * 2 ≤ 0 by decide,
      fun count (reaches : (5 : Int) - count * 2 ≤ 0) => by omega⟩
  have leaves : IsLeast {count | (counter 0).Leaves 5 count} 3 :=
    ⟨show (5 : Int) - (3 : Nat) * 2 ≤ 0 by decide,
      fun count (leaves : (5 : Int) - count * 2 ≤ 0) => by omega⟩
  have finished := (ends none "x>1" 1 2 (by decide +kernel) toOne).finished
    (.inr (show ¬ (5 : Int) - (2 : Nat) * 2 ≤ 0 by decide)) (by decide)
  have refused := (ends none " x > 0" 0 3 (by decide +kernel) toZero).refused 2 (by decide) leaves
    (by decide)
  have stopped := (ends (some 1) "x > 0" 0 3 (by decide +kernel) toZero).stopped 1 rfl (by decide)
    fun count within (leaves : (5 : Int) - count * 2 ≤ 0) => by omega
  exact ⟨finished, ⟨refused.error, refused.held⟩, stopped⟩

end Action

end Plotter
