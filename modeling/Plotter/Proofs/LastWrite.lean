import Mathlib.Data.Finset.Card
import Plotter.Proofs.Execute
import Plotter.Proofs.Readers

/-! Whatever is assigned in whatever order, a name is bound to what it was last given. -/

namespace Plotter

namespace Variables

/-- An assignment of a value that may be stored to an identifier. -/
def Accepted (call : String × Value) : Prop :=
  -- The two demands are independent: the value may be fine under a bad name.
  Identifier.Spelled call.1 ∧ call.2.Storable

instance (call : String × Value) : Decidable (Accepted call) :=
  -- Both demands can be decided.
  inferInstanceAs (Decidable (_ ∧ _))

/-- The value is given to the name by an assignment behind which there is no other one for it. -/
def LastWritten (calls : List (String × Value)) (name : String) (value : Value) : Prop :=
  -- What is behind it may be for the same name only if it is refused.
  ∃ before after, calls = before ++ (name, value) :: after ∧ Accepted (name, value) ∧
    ∀ call ∈ after, Accepted call → call.1 ≠ name

/-- The names that are given a value at least once. -/
def writtenNames (calls : List (String × Value)) : Finset String :=
  -- As a set it counts each name once, however often it is written.
  ((calls.filter (Accepted ·)).map Prod.fst).toFinset

/-- What a store does with an assignment, which has nothing to do with what is bound in it. -/
structure Answers (store : Variables) (name : String) (value : Value) : Prop where
  /-- A good value is taken for a good name, and nothing else is. -/
  taken : (∃ next, store.assign name value = .ok next) ↔ Accepted (name, value)
  /-- A bad name is reported whatever the value is. -/
  badName : ¬ Identifier.Spelled name → store.assign name value = .error (.badName name) ∧
    (Error.badName name).kind = .invalid
  /-- A number that is not positive is out of range for a good name. -/
  notPositive : Identifier.Spelled name → ∀ number, value = .int number → number.toInt ≤ 0 →
    store.assign name value = .error (.notPositive name number) ∧
    (Error.notPositive name number).kind = .outOfRange
  /-- An empty text is no value for a good name. -/
  emptyText : Identifier.Spelled name → value = .text "" →
    store.assign name value = .error (.emptyText name) ∧ (Error.emptyText name).kind = .invalid
  /-- A session with this store does the same, and leaves it alone if the assignment is refused. -/
  inSession : ∀ {κ : Type} (session : Session κ), session.store = store →
    Action.outcome (Action.assign name value) session =
      match store.assign name value with
      | .ok next => (.ok (), { session with store := next })
      | .error error => (.error (.failure error), session)

variable {name : String} {value : Value}

/-- The check passes exactly what is accepted. -/
theorem check_eq_ok_iff_accepted (call : String × Value) :
    check call.1 call.2 = .ok () ↔ Accepted call :=
  -- The check of the store tests the same two things.
  check_eq_ok_iff call.1 call.2

/-- Every store answers every assignment in this way. -/
theorem answers (store : Variables) (name : String) (value : Value) :
    store.Answers name value where
  taken := by
    rw [← check_eq_ok_iff_accepted]
    cases passed : check name value with
    | ok _ => simp [assign_of_check_ok store passed]
    | error _ => simp [assign_of_check_error store passed]
  badName bad := ⟨assign_of_check_error store (check_of_not_spelled bad value), rfl⟩
  notPositive spelled number same low := by
    subst same
    exact ⟨assign_of_check_error store (check_of_not_positive spelled low), rfl⟩
  emptyText spelled same := by
    subst same
    exact ⟨assign_of_check_error store (check_of_empty spelled), rfl⟩
  inSession session held := by
    subst held
    -- A session runs the same check before it binds the name in the same way.
    rw [Action.outcome_assign]
    cases passed : check name value with
    | ok _ => rw [assign_of_check_ok session.store passed]
    | error _ => rw [assign_of_check_error session.store passed]

/-- An assignment changes its name if it is accepted, and nothing else. -/
theorem get?_afterAssign (store : Variables) (call : String × Value) (name : String) :
    (store.afterAssign call).get? name =
      if Accepted call ∧ name = call.1 then some call.2 else store.get? name := by
  have accepted := check_eq_ok_iff_accepted call
  -- A refused assignment leaves the whole store as it was.
  rw [afterAssign]
  cases passed : check call.1 call.2 with
  | ok _ => simp [assign_of_check_ok store passed, get?_insert, accepted.mp passed]
  | error error =>
    have refused : ¬ Accepted call := by simp [← accepted, passed]
    simp [assign_of_check_error store passed, refused]

/-- The last assignment is made on top of all the others. -/
theorem assigned_append (calls : List (String × Value)) (call : String × Value) :
    assigned (calls ++ [call]) = (assigned calls).afterAssign call := by
  -- Calls are carried out in order, so the last one acts on the store of the others.
  rw [assigned, List.foldl_append]
  rfl

/-- What is last written is the last assignment, or is not the concern of that one. -/
theorem lastWritten_append_iff (calls : List (String × Value)) (call : String × Value)
    (name : String) (value : Value) :
    LastWritten (calls ++ [call]) name value ↔
      if Accepted call ∧ name = call.1 then call.2 = value else LastWritten calls name value := by
  constructor
  · rintro ⟨before, after, split, accepted, unwritten⟩
    -- Either nothing stands behind the assignment, or the last one is no other one for the name.
    rcases List.eq_nil_or_concat after with rfl | ⟨between, last, rfl⟩
    · obtain ⟨-, rfl⟩ := List.append_singleton_inj.mp split
      rw [if_pos ⟨accepted, rfl⟩]
    · rw [List.concat_eq_append, ← List.cons_append, ← List.append_assoc,
        List.append_singleton_inj] at split
      obtain ⟨rfl, rfl⟩ := split
      have other : ¬ (Accepted call ∧ name = call.1) := fun ⟨also, same⟩ =>
        unwritten call (by simp) also same.symm
      rw [if_neg other]
      exact ⟨before, between, rfl, accepted, fun call among => unwritten call (by simp [among])⟩
  · intro written
    split at written
    -- The last assignment has nothing behind it, and to any other one it is no matter.
    · rename_i last
      obtain ⟨accepted, rfl⟩ := last
      subst written
      exact ⟨calls, [], rfl, accepted, by simp⟩
    · rename_i other
      obtain ⟨before, after, rfl, accepted, unwritten⟩ := written
      refine ⟨before, after ++ [call], by simp, accepted, fun later member also same => ?_⟩
      rcases List.mem_append.mp member with among | last
      · exact unwritten later among also same
      · rw [List.mem_singleton.mp last] at also same
        exact other ⟨also, same.symm⟩

/-- A name is bound to what it was last given. -/
theorem get?_assigned_eq_some_iff (calls : List (String × Value)) (name : String) (value : Value) :
    (assigned calls).get? name = some value ↔ LastWritten calls name value := by
  -- The induction is from the last assignment on, which either decides or changes nothing.
  induction calls using List.reverseRecOn with
  | nil => simp [assigned, empty, get?, LastWritten]
  | append_singleton calls call ih =>
    rw [assigned_append, get?_afterAssign, lastWritten_append_iff]
    split
    · exact Option.some_inj
    · exact ih

/-- The last assignment adds its name if it is accepted. -/
theorem mem_writtenNames_append_iff (calls : List (String × Value)) (call : String × Value)
    (name : String) :
    name ∈ writtenNames (calls ++ [call]) ↔
      (Accepted call ∧ name = call.1) ∨ name ∈ writtenNames calls := by
  rw [writtenNames, writtenNames, List.filter_append, List.map_append, List.toFinset_append,
    Finset.mem_union, or_comm]
  -- A refused call writes no name.
  by_cases accepted : Accepted call <;> simp [accepted]

/-- A name is not bound if it was never given a value. -/
theorem get?_assigned_eq_none_iff (calls : List (String × Value)) (name : String) :
    (assigned calls).get? name = none ↔ name ∉ writtenNames calls := by
  induction calls using List.reverseRecOn with
  | nil => simp [assigned, empty, get?, writtenNames]
  | append_singleton calls call ih =>
    -- The name of the last assignment is bound and written, or that one is no matter to either.
    rw [assigned_append, get?_afterAssign, mem_writtenNames_append_iff, not_or, ← ih]
    split <;> simp [*]

/-- The names that are bound are those with a value. -/
theorem mem_names_iff (store : Variables) (name : String) :
    name ∈ store.names ↔ store.get? name ≠ none := by
  -- A name is listed if and only if a look at it finds something.
  rw [names, get?, ne_eq, List.lookup_eq_none_iff]
  simp

/-- There are as many bindings as names that were given a value. -/
theorem size_assigned (calls : List (String × Value)) :
    (assigned calls).size = (writtenNames calls).card := by
  have bound : (assigned calls).names.toFinset = writtenNames calls := by
    ext name
    rw [List.mem_toFinset, mem_names_iff, ne_eq, get?_assigned_eq_none_iff, not_not]
  -- No name is bound twice, so none is counted twice.
  rw [← bound, List.toFinset_card_of_nodup (sound_assigned calls).nodup, names, List.length_map]
  rfl

/-- Looking up a name finds what it is bound to. -/
theorem lookup_eq_found_iff (store : Variables) (name : String) (value : Value) :
    store.lookup name = .found value ↔ store.get? name = some value := by
  rw [lookup]
  -- Both look the name up once.
  cases store.get? name <;> simp

/-- Looking up a name that is not bound hands it back. -/
theorem lookup_eq_missing_iff (store : Variables) (name : String) :
    store.lookup name = .missing name ↔ store.get? name = none := by
  rw [lookup]
  -- Both look the name up once.
  cases store.get? name <;> simp

/--
The last accepted assignment to a name counts.

Whether an assignment is accepted depends on its name and its value alone. After any number of them,
accepted and refused, a name is bound to the value that it was last given, which is found wherever
the store is asked for it. There are as many bindings as names that were given a value at all. An
identifier stands for the number that it was last given, and for no number if that was a text or if
there was nothing.
-/
theorem last_accepted_counts (calls : List (String × Value)) :
    let store := assigned calls
    (∀ name value, store.Answers name value) ∧
    (∀ name value, (store.get? name = some value ↔ LastWritten calls name value) ∧
      (store.lookup name = .found value ↔ LastWritten calls name value)) ∧
    (∀ name, (store.get? name = none ↔ name ∉ writtenNames calls) ∧
      (store.lookup name = .missing name ↔ name ∉ writtenNames calls)) ∧
    store.size = (writtenNames calls).card ∧
    ∀ name, Identifier.Spelled name →
      (∀ number, store.resolve (.var name) = .ok number ↔ LastWritten calls name (.int number)) ∧
      ((∀ number, ¬ LastWritten calls name (.int number)) →
        store.resolve (.var name) = .error (.unresolved name)) := by
  intro store
  have found := get?_assigned_eq_some_iff calls
  have missing := get?_assigned_eq_none_iff calls
  refine ⟨store.answers, fun name value => ⟨found name value, ?_⟩,
    fun name => ⟨missing name, ?_⟩, size_assigned calls, fun name spelled => ?_⟩
  · exact (lookup_eq_found_iff store name value).trans (found name value)
  · exact (lookup_eq_missing_iff store name).trans (missing name)
  · -- An identifier is no number and has no blanks, so it is looked up as it is.
    have resolved : ∀ number,
        store.resolve (.var name) = .ok number ↔ LastWritten calls name (.int number) :=
      fun number => (resolveToken_of_spelled store spelled number).trans (found name _)
    refine ⟨resolved, fun unwritten => ?_⟩
    have unknown : ∀ number, store.resolveToken name ≠ .ok number :=
      fun number known => unwritten number ((resolved number).mp known)
    rw [resolve, resolveToken_of_ne_ok unknown, Grammar.trim_of_spelled spelled]

/--
Refused assignments do not count, and neither do those to a name that only looks alike.

A number is replaced by a text, which a number replaces once more. The name in capitals keeps its
text, so that no number stands for it.
-/
theorem last_accepted_counts_mixed_calls :
    let calls : List (String × Value) :=
      [("x", .int 5), ("X", .text "5"), ("x", .int 0), ("x", .text "a"), ("1x", .int 3),
        ("y", .int 7), ("x", .int 9), ("X", .text "")]
    let store := assigned calls
    store.get? "x" = some (.int 9) ∧ store.lookup "z" = .missing "z" ∧ store.size = 3 ∧
    store.resolve (.var "x") = .ok 9 ∧ store.resolve (.var "X") = .error (.unresolved "X") ∧
    store.assign "1x" (.text "") = .error (.badName "1x") ∧
    store.assign "y" (.int (-7)) = .error (.notPositive "y" (-7)) ∧
    store.assign "y" (.text "") = .error (.emptyText "y") := by
  intro calls store
  obtain ⟨answers, found, missing, size, read⟩ := last_accepted_counts calls
  have y : Identifier.Spelled "y" := by decide
  have last : LastWritten calls "x" (.int 9) :=
    ⟨calls.take 6, calls.drop 7, rfl, by decide, by decide⟩
  -- The text was written last, and nothing else was written behind it.
  have text : LastWritten calls "X" (.text "5") :=
    ⟨calls.take 1, calls.drop 2, rfl, by decide, by decide⟩
  have none : ∀ number, ¬ LastWritten calls "X" (.int number) := fun number written =>
    nomatch ((found "X" _).1.mpr text).symm.trans ((found "X" _).1.mpr written)
  exact ⟨(found "x" (.int 9)).1.mpr last, (missing "z").2.mpr (by decide), size.trans (by decide),
    ((read "x" (by decide)).1 9).mpr last, (read "X" (by decide)).2 none,
    ((answers "1x" _).badName (by decide)).1,
    ((answers "y" _).notPositive y (-7) rfl (by decide)).1,
    ((answers "y" _).emptyText y rfl).1⟩

end Variables

end Plotter
