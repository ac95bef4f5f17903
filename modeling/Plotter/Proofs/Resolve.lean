import Plotter.Condition

/-! What tokens, operands and conditions stand for, and the one reason why they may not. -/

namespace Plotter

/-- A computation in two parts fails if the first part does, or the second one after it. -/
theorem bind_eq_error_iff {α β : Type} (first : Except Error α) (next : α → Except Error β)
    (error : Error) :
    (first >>= next) = .error error ↔
      first = .error error ∨ ∃ value, first = .ok value ∧ next value = .error error := by
  -- The second computation is reached only with a value of the first.
  cases first <;> simp [Bind.bind, Except.bind]

/-- A computation in two parts gives what the second part does after the first one. -/
theorem bind_eq_ok_iff {α β : Type} (first : Except Error α) (next : α → Except Error β)
    (result : β) :
    (first >>= next) = .ok result ↔ ∃ value, first = .ok value ∧ next value = .ok result := by
  -- Both have to give a value.
  cases first <;> simp [Bind.bind, Except.bind]

/-- The names that an operand looks up. -/
def Operand.names : Operand → List String
  -- A literal stands for itself.
  | lit _ => []
  | var name => [name]

/-- The names that a condition looks up. -/
def Condition.names (condition : Condition) : List String :=
  -- The left operand comes first, as it is the first to be resolved.
  condition.left.names ++ condition.right.names

namespace Variables

/-- The error says that one of the names stands for no number, and the store has none for it. -/
def Misses (store : Variables) (names : List String) (error : Error) : Prop :=
  -- The token is trimmed before it is looked up, and so is the name in the error.
  ∃ name ∈ names, error = .unresolved (Text.trim name) ∧ store.int? (Text.trim name) = none

/-- A name that is missing is missing among more names. -/
theorem Misses.mono {store : Variables} {fewer more : List String} {error : Error}
    (misses : store.Misses fewer error) (part : fewer ⊆ more) : store.Misses more error := by
  -- The name that is missing is among the larger list as well.
  obtain ⟨name, used, missing⟩ := misses
  exact ⟨name, part used, missing⟩

/-- A token stands for the number that it spells, or else for the number under its name. -/
theorem resolveToken_eq (store : Variables) (token : String) :
    store.resolveToken token =
      match (Number.parse? (Text.trim token)).or (store.int? (Text.trim token)) with
      | some number => .ok number
      | none => .error (.unresolved (Text.trim token)) := by
  -- The token is trimmed once; how it is trimmed does not matter here.
  delta Variables.resolveToken
  generalize Text.trim token = trimmed
  rfl

/-- A token that stands for no number is the only reason why it cannot be resolved. -/
theorem resolveToken_error {store : Variables} {token : String} {error : Error}
    (failed : store.resolveToken token = .error error) : store.Misses [token] error := by
  rw [resolveToken_eq] at failed
  -- Either a number is found, or the token is what the error names.
  split at failed
  · cases failed
  · rename_i nothing
    have unbound := (Option.or_eq_none_iff.mp nothing).2
    exact ⟨token, List.mem_singleton_self token, (Except.error.inj failed).symm, unbound⟩

/-- An operand that stands for no number is the only reason why it cannot be resolved. -/
theorem resolve_error {store : Variables} {operand : Operand} {error : Error}
    (failed : store.resolve operand = .error error) : store.Misses operand.names error := by
  -- A literal is always resolved.
  cases operand with
  | lit value => cases failed
  | var name => exact resolveToken_error failed

end Variables

/-- A condition cannot be decided only if one of its operands stands for no number. -/
theorem Condition.holds_error {condition : Condition} {store : Variables} {error : Error}
    (failed : condition.holds store = .error error) : store.Misses condition.names error := by
  -- The left operand is resolved first, so the right one only matters if the left one can be.
  rw [holds, bind_eq_error_iff] at failed
  rcases failed with left | ⟨lhs, -, later⟩
  · exact (Variables.resolve_error left).mono (List.subset_append_left ..)
  · rw [bind_eq_error_iff] at later
    rcases later with right | ⟨rhs, -, decided⟩
    · exact (Variables.resolve_error right).mono (List.subset_append_right ..)
    · cases decided

/-- A text that spells no condition is the only reason why a condition cannot be read. -/
theorem Condition.parse_error {text : String} {error : Error}
    (malformed : parse text = .error error) : error = .badCondition text := by
  unfold parse at malformed
  -- There is one way to fail, and it names the text as it stands.
  split at malformed
  · cases malformed
  · exact (Except.error.inj malformed).symm

end Plotter
