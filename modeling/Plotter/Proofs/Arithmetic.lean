import Plotter.Canvas.Recording
import Plotter.Proofs.Frame
import Plotter.Proofs.Readers

/-! Arithmetic assignments bind the exact result, or fail with the first thing that is wrong. -/

namespace Plotter

open Plotter.Action

namespace ArithOp

/-- The integer is the exact result of the operation, if it has one. -/
def Yields : ArithOp → Int → Int → Int → Prop
  | add, lhs, rhs, result => result = lhs + rhs
  | sub, lhs, rhs, result => result = lhs - rhs
  | mul, lhs, rhs, result => result = lhs * rhs
  -- What a division leaves over is smaller than the divisor and has the sign of what is divided, so
  -- quotients are rounded towards zero, and there is none with a divisor of zero.
  | div, lhs, rhs, result =>
    ∃ rest, lhs = result * rhs + rest ∧ rest.natAbs < rhs.natAbs ∧ 0 ≤ lhs * rest

/-- A quotient is rounded towards zero. -/
theorem yields_div_iff {rhs : Int} (divisor : rhs ≠ 0) (lhs result : Int) :
    div.Yields lhs rhs result ↔ lhs.tdiv rhs = result := by
  constructor
  · rintro ⟨rest, split, small, sign⟩
    -- The sign of the dividend decides on which side of zero the rest may lie.
    rcases Int.lt_trichotomy lhs 0 with below | rfl | above
    · -- What is left over is not above zero, as it has the sign of what is divided.
      have low : rest ≤ 0 := by
        by_contra high
        have product := Int.mul_neg_of_neg_of_pos below (Int.not_le.mp high)
        omega
      refine ((Int.tdiv_tmod_unique' (Int.le_of_lt below) divisor).mpr ⟨?_, ?_, low⟩).1
      · rw [split, Int.mul_comm, Int.add_comm]
      · omega
    · -- Zero is divided without a rest, as the rest is a multiple of the divisor.
      have multiple : rest.natAbs = result.natAbs * rhs.natAbs := by
        rw [← Int.natAbs_mul, ← Int.natAbs_neg]
        congr 1
        omega
      have none : result.natAbs = 0 := by
        rw [multiple] at small
        by_contra some
        exact Nat.not_lt.mpr (Nat.le_mul_of_pos_left _ (Nat.pos_of_ne_zero some)) small
      rw [Int.zero_tdiv, Int.natAbs_eq_zero.mp none]
    · have high : 0 ≤ rest := by
        by_contra low
        have product := Int.mul_neg_of_pos_of_neg above (Int.not_le.mp low)
        omega
      refine ((Int.tdiv_tmod_unique (Int.le_of_lt above) divisor).mpr ⟨?_, high, ?_⟩).1
      · rw [split, Int.mul_comm, Int.add_comm]
      · omega
  · rintro rfl
    refine ⟨lhs.tmod rhs, ?_, ?_, ?_⟩
    · rw [Int.mul_comm, Int.mul_tdiv_add_tmod]
    · rw [Int.natAbs_tmod]
      exact Nat.mod_lt _ (Int.natAbs_pos.mpr divisor)
    · -- The rest that is computed has the sign of what is divided.
      rcases Int.le_total 0 lhs with above | below
      · exact Int.mul_nonneg above (Int.tmod_nonneg rhs above)
      · have mirrored := Int.tmod_nonneg rhs (Int.neg_nonneg_of_nonpos below)
        rw [Int.neg_tmod] at mirrored
        exact Int.mul_nonneg_of_nonpos_of_nonpos below (by omega)

/-- The exact result is the one that is computed, unless the operation divides by zero. -/
theorem yields_iff (op : ArithOp) (lhs rhs result : Int) :
    op.Yields lhs rhs result ↔ ¬ (op = div ∧ rhs = 0) ∧ op.exact lhs rhs = result := by
  -- Only the division leaves something to show, by what its divisor is.
  cases op with
  | add | sub | mul => simp [Yields, exact, eq_comm]
  | div =>
    by_cases zero : rhs = 0
    · -- No rest is smaller than a divisor of zero.
      simp [Yields, zero]
    · rw [yields_div_iff zero]
      simp [exact, zero]

/-- A number is zero if its value is. -/
theorem toInt_eq_zero_iff (number : Number) : number.toInt = 0 ↔ number = 0 := by
  -- Machine integers with one value are one number.
  rw [← Int32.toInt_inj, Int32.toInt_zero]

/-- An operation that does not divide by zero has one exact result. -/
theorem existsUnique_yields {op : ArithOp} {lhs rhs : Number} (defined : ¬ (op = div ∧ rhs = 0)) :
    ∃! result, op.Yields lhs.toInt rhs.toInt result := by
  rw [← toInt_eq_zero_iff] at defined
  -- The exact result is there, and any other has to equal it.
  refine ⟨_, (yields_iff ..).mpr ⟨defined, rfl⟩, fun other yields => ?_⟩
  exact ((yields_iff ..).mp yields).2.symm

/-- An operation on numbers gives its exact result. -/
theorem apply_of_yields {op : ArithOp} {lhs rhs result : Number}
    (yields : op.Yields lhs.toInt rhs.toInt result.toInt) : op.apply lhs rhs = .ok result := by
  rw [yields_iff, toInt_eq_zero_iff] at yields
  -- Neither guard of the operation fires: the divisor is fine and the exact result fits.
  rw [apply, if_neg yields.1, (Number.ofInt?_eq_some_iff _ result).mpr yields.2.symm]

/-- An operation whose exact result is out of range fails. -/
theorem apply_of_wide {op : ArithOp} {lhs rhs : Number} {result : Int}
    (yields : op.Yields lhs.toInt rhs.toInt result)
    (wide : result < -2147483648 ∨ 2147483647 < result) :
    op.apply lhs rhs = .error (.overflow lhs op rhs) := by
  rw [yields_iff, toInt_eq_zero_iff] at yields
  -- No number has the exact result for its value.
  have none : Number.ofInt? result = none := by
    refine Option.eq_none_iff_forall_ne_some.mpr fun number found => ?_
    have range := (Number.exists_ofInt?_iff result).mp ⟨number, found⟩
    omega
  rw [apply, if_neg yields.1, yields.2, none]

/-- A division by zero fails on its own account, although it has no result in range either. -/
theorem apply_div_zero (lhs : Number) : div.apply lhs 0 = .error .divisionByZero :=
  -- The zero test stands first, so the dividend has no say.
  if_pos ⟨rfl, rfl⟩

end ArithOp

namespace Variables

/-- The token spells the number, or it spells none and is bound to the number. -/
def StandsFor (store : Variables) (token : String) (number : Number) : Prop :=
  -- The literal comes first: a name is looked up only for a token that no literal spells.
  (Text.trim token).toList ∈ Grammar.integer number ∨
    (∀ other, (Text.trim token).toList ∉ Grammar.integer other) ∧
      store.get? (Text.trim token) = some (.int number)

/-- A token is resolved to the number that it stands for. -/
theorem resolveToken_eq_ok_iff_standsFor (store : Variables) (token : String) (number : Number) :
    store.resolveToken token = .ok number ↔ store.StandsFor token number := by
  -- Both are the same two cases, with the literals spelled by the grammar or by the reader.
  simp only [resolveToken_eq_ok_iff, StandsFor, ← Number.parse?_eq_some_iff,
    ← Option.eq_none_iff_forall_ne_some]

end Variables

namespace Effect

variable {settings : Settings} {store : Variables} {context : Context} {name source : String}
  {op : ArithOp} {lhs rhs : Number}

/-- A source that stands for no number is the first thing that can be wrong. -/
theorem ofCommand_compute_unresolved
    (unknown : ∀ number, store.resolveToken source ≠ .ok number) :
    ofCommand settings store context (.compute name source op rhs) =
      .error (.unresolved (Text.trim source)) :=
  -- The operand is the first thing that is asked for.
  (bind_eq_error_iff ..).mpr (.inl (Variables.resolveToken_of_ne_ok unknown))

/-- An operation that fails comes before the name and the value. -/
theorem ofCommand_compute_failed (resolved : store.resolveToken source = .ok lhs) {error : Error}
    (failed : op.apply lhs rhs = .error error) :
    ofCommand settings store context (.compute name source op rhs) = .error error :=
  -- The operand is there, so the operation is the first to fail.
  (bind_eq_error_iff ..).mpr (.inr ⟨lhs, resolved, (bind_eq_error_iff ..).mpr (.inl failed)⟩)

/-- An exact result that the variables do not take is refused. -/
theorem ofCommand_compute_refused (resolved : store.resolveToken source = .ok lhs)
    {result : Number} (yields : op.Yields lhs.toInt rhs.toInt result.toInt) {error : Error}
    (refused : Variables.check name (.int result) = .error error) :
    ofCommand settings store context (.compute name source op rhs) = .error error := by
  -- The result is there, and the variable of the target does not take it.
  have made : assignment name (.int result) = .error error :=
    (bind_eq_error_iff ..).mpr (.inl refused)
  refine (bind_eq_error_iff ..).mpr (.inr ⟨lhs, resolved, ?_⟩)
  exact (bind_eq_error_iff ..).mpr (.inr ⟨result, ArithOp.apply_of_yields yields, made⟩)

/-- An exact result that the variables take is bound. -/
theorem ofCommand_compute_bound (resolved : store.resolveToken source = .ok lhs)
    {result : Number} (yields : op.Yields lhs.toInt rhs.toInt result.toInt)
    (passed : Variables.check name (.int result) = .ok ()) :
    ofCommand settings store context (.compute name source op rhs) =
      .ok (bind name (.int result)) := by
  -- Operand, operation and target all pass, in the order in which they are asked.
  have made : assignment name (.int result) = .ok (bind name (.int result)) :=
    (bind_eq_ok_iff ..).mpr ⟨(), passed, rfl⟩
  refine (bind_eq_ok_iff ..).mpr ⟨lhs, resolved, ?_⟩
  exact (bind_eq_ok_iff ..).mpr ⟨result, ArithOp.apply_of_yields yields, made⟩

end Effect

variable {κ : Type}

/-- How an arithmetic assignment ends whose source stands for a number. -/
structure Session.Computes (session : Session κ) (name : String) (lhs : Number) (op : ArithOp)
    (rhs : Number) (ran : Except Halt Unit × Session κ) : Prop where
  /-- It fails for a division by zero exactly if it is one. -/
  byZero : ran.1 = .error (.failure .divisionByZero) ↔ op = .div ∧ rhs = 0
  /-- Every other operation has one exact result. -/
  exact : ¬ (op = .div ∧ rhs = 0) → ∃! result, op.Yields lhs.toInt rhs.toInt result
  /-- A result that is out of range is refused, whatever the name is. -/
  wide : ∀ result, op.Yields lhs.toInt rhs.toInt result →
    result < -2147483648 ∨ 2147483647 < result →
      ran.1 = .error (.failure (.overflow lhs op rhs))
  /-- For any other result, the name is looked at before the result itself. -/
  badName : ∀ result : Number, op.Yields lhs.toInt rhs.toInt result.toInt →
    ¬ Identifier.Spelled name → ran.1 = .error (.failure (.badName name))
  /-- An identifier is not given a result that is not positive. -/
  notPositive : ∀ result : Number, op.Yields lhs.toInt rhs.toInt result.toInt →
    Identifier.Spelled name → result.toInt ≤ 0 →
      ran.1 = .error (.failure (.notPositive name result))
  /-- An identifier is bound to a positive result, and nothing else changes. -/
  bound : ∀ result : Number, op.Yields lhs.toInt rhs.toInt result.toInt →
    Identifier.Spelled name → 0 < result.toInt →
      ran.1 = .ok () ∧ ran.2.store.get? name = some (.int result) ∧
        ∀ part : Part, part ≠ .binding name → part.Same session ran.2
  /-- An assignment that fails changes nothing at all. -/
  unchanged : ∀ halt, ran.1 = .error halt → ran.2 = session

namespace Action

/-- A binding changes the variable of its name, and no other part of a session. -/
theorem same_of_bind [Canvas κ] (session : Session κ) (name : String) (value : Value)
    {part : Part} (other : part ≠ .binding name) :
    part.Same session ((Effect.bind name value).change session) := by
  -- Only another binding needs an argument: a change of the store touches no other part.
  cases part with
  | binding kept =>
    have apart : kept ≠ name := fun same => other (congrArg Part.binding same)
    exact (Variables.get?_insert ..).trans (if_neg apart)
  | _ => rfl

variable [Canvas κ] {settings : Settings} {session : Session κ} {command : Command}

/-- A command that fails leaves the session as it was. -/
theorem outcome_execute_of_error {error : Error}
    (failed : Effect.ofCommand settings session.store session.context command = .error error) :
    outcome (execute settings command) session = (.error (.failure error), session) := by
  -- A command that is refused has no effect to perform.
  rw [outcome_execute, failed]

/-- A command that does not fail makes its change. -/
theorem outcome_execute_of_ok {effect : Effect}
    (decided : Effect.ofCommand settings session.store session.context command = .ok effect) :
    outcome (execute settings command) session = (.ok (), effect.change session) := by
  -- A command that is decided only has its effect left.
  rw [outcome_execute, decided]

variable (settings)

/-- An arithmetic assignment whose source stands for a number does what its exact result allows. -/
theorem computes_of_resolved (name : String) {source : String} {lhs : Number} (op : ArithOp)
    (rhs : Number) (resolved : session.store.resolveToken source = .ok lhs) :
    session.Computes name lhs op rhs
      (outcome (execute settings (.compute name source op rhs)) session) := by
  -- There are four ways to end, each with its own reason.
  have byZero : op = .div ∧ rhs = 0 → outcome (execute settings (.compute name source op rhs))
      session = (.error (.failure .divisionByZero), session) := by
    rintro ⟨rfl, rfl⟩
    exact outcome_execute_of_error
      (Effect.ofCommand_compute_failed resolved (ArithOp.apply_div_zero lhs))
  have wide : ∀ result, op.Yields lhs.toInt rhs.toInt result →
      result < -2147483648 ∨ 2147483647 < result →
        outcome (execute settings (.compute name source op rhs)) session =
          (.error (.failure (.overflow lhs op rhs)), session) :=
    fun result yields out => outcome_execute_of_error
      (Effect.ofCommand_compute_failed resolved (ArithOp.apply_of_wide yields out))
  have refused : ∀ (result : Number) error, op.Yields lhs.toInt rhs.toInt result.toInt →
      Variables.check name (.int result) = .error error →
        outcome (execute settings (.compute name source op rhs)) session =
          (.error (.failure error), session) :=
    fun result error yields refused => outcome_execute_of_error
      (Effect.ofCommand_compute_refused resolved yields refused)
  have bound : ∀ result : Number, op.Yields lhs.toInt rhs.toInt result.toInt →
      Variables.check name (.int result) = .ok () →
        outcome (execute settings (.compute name source op rhs)) session =
          (.ok (), (Effect.bind name (.int result)).change session) :=
    fun result yields passed => outcome_execute_of_ok
      (Effect.ofCommand_compute_bound resolved yields passed)
  refine ⟨⟨fun failed => ?_, fun zero => by rw [byZero zero]⟩,
    ArithOp.existsUnique_yields, fun result yields out => by rw [wide result yields out],
    fun result yields bad => by rw [refused result _ yields (Variables.check_of_not_spelled bad _)],
    fun result yields spelled low => by
      rw [refused result _ yields (Variables.check_of_not_positive spelled low)],
    fun result yields spelled positive => ?_, fun halt stopped => ?_⟩
  · -- Any other operation has a result, with which it ends in another way.
    by_contra defined
    obtain ⟨result, yields, -⟩ := ArithOp.existsUnique_yields defined
    by_cases out : result < -2147483648 ∨ 2147483647 < result
    · rw [wide result yields out] at failed
      exact nomatch failed
    · have value : (Int32.ofInt result).toInt = result :=
        Int32.toInt_ofInt_of_le (by omega) (by omega)
      rw [← value] at yields
      cases checked : Variables.check name (.int (.ofInt result)) with
      | ok passed =>
        rw [bound _ yields checked] at failed
        exact nomatch failed
      | error error =>
        rw [refused _ error yields checked] at failed
        obtain rfl := Halt.failure.inj (Except.error.inj failed)
        -- What is refused is a name or out of range.
        rcases Effect.assignment_error ((bind_eq_error_iff ..).mpr (.inl checked)) with same | kind
        · exact nomatch same.1
        · exact nomatch kind
  · rw [bound result yields (Variables.check_of_positive spelled positive)]
    exact ⟨rfl, (Variables.get?_insert ..).trans (if_pos rfl),
      fun _ other => same_of_bind _ _ _ other⟩
  · exact (outcome_execute_error (Prod.fst_eq_iff.mp stopped)).2

/--
An arithmetic assignment is exact, or it is rejected.

A source that stands for no number comes first among the reasons, then a division by zero, then an
exact result that is out of range, then a name that is not an identifier, and then a result that is
not positive. Without any of them the name is bound to the exact result, also if it is the source.
-/
theorem arithmetic_exact_or_rejected (session : Session κ) (name source : String) (op : ArithOp)
    (rhs : Number) :
    let ran := outcome (execute settings (.compute name source op rhs)) session
    ((∀ number, ¬ session.store.StandsFor source number) →
      ran = (.error (.failure (.unresolved (Text.trim source))), session)) ∧
    ∀ lhs, session.store.StandsFor source lhs → session.Computes name lhs op rhs ran := by
  simp only [← Variables.resolveToken_eq_ok_iff_standsFor]
  -- An operand that stands for nothing is refused before the operation is looked at.
  refine ⟨fun unknown => ?_, fun lhs resolved => computes_of_resolved settings name op rhs resolved⟩
  exact outcome_execute_of_error (Effect.ofCommand_compute_unresolved unknown)

/--
The least number divided by minus one is out of range, and comes before a name that is none.

A quotient below zero is rounded up, and a variable can be given its own value times three.
-/
theorem arithmetic_at_the_edges :
    let session : Session Recording :=
      { Session.start {} {} with store := { entries := [("x", .int 7), ("y", .int 1)] } }
    let ran := fun name source op rhs => outcome (execute {} (.compute name source op rhs)) session
    session.store.StandsFor " -2147483648" (-2147483648) ∧
    (ran "no name" " -2147483648" .div (-1)).1 =
      .error (.failure (.overflow (-2147483648) .div (-1))) ∧
    (ran "y" "x" .div (-2)).1 = .error (.failure (.notPositive "y" (-3))) ∧
    (ran "x" " x" .mul 3).2.store.get? "x" = some (.int 21) ∧
    (Part.binding "y").Same session (ran "x" " x" .mul 3).2 ∧
    ran "x" "z " .div 0 = (.error (.failure (.unresolved "z")), session) := by
  intro session ran
  -- Each part is one case of the theorem, with its operand read first.
  have stands : ∀ token number, session.store.resolveToken token = .ok number →
      session.store.StandsFor token number := fun token number resolved =>
    (Variables.resolveToken_eq_ok_iff_standsFor ..).mp resolved
  have least := stands " -2147483648" (-2147483648) (by decide +kernel)
  have wide := ((arithmetic_exact_or_rejected {} session "no name" " -2147483648" .div (-1)).2 _
    least).wide 2147483648 ⟨0, by decide⟩ (by decide)
  have low := ((arithmetic_exact_or_rejected {} session "y" "x" .div (-2)).2 7
    (stands "x" 7 (by decide +kernel))).notPositive (-3) ⟨1, by decide⟩ (by decide) (by decide)
  obtain ⟨-, bound, others⟩ := ((arithmetic_exact_or_rejected {} session "x" " x" .mul 3).2 7
    (stands " x" 7 (by decide +kernel))).bound 21 rfl (by decide) (by decide)
  have trimmed : Text.trim "z " = "z" := by decide +kernel
  have unknown := (arithmetic_exact_or_rejected {} session "x" "z " .div 0).1 fun number found => by
    have failed : session.store.resolveToken "z " = .error (.unresolved "z") := by decide +kernel
    have resolved := (Variables.resolveToken_eq_ok_iff_standsFor ..).mpr found
    exact nomatch failed.symm.trans resolved
  rw [trimmed] at unknown
  exact ⟨least, wide, low, bound, others _ (by simp), unknown⟩

end Action

end Plotter
