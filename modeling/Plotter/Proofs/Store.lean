import Mathlib.Logic.Relation
import Plotter.Proofs.Identifier
import Plotter.Variables

/-! Sound stores: every name is an identifier that is bound once, to a value that may be stored. -/

namespace Plotter

/-- A number above zero, or a text that is not empty. -/
def Value.Storable : Value → Prop
  -- The store never holds zero, a negative number or an empty text.
  | int number => 0 < number.toInt
  | text content => content ≠ ""

instance : (value : Value) → Decidable value.Storable
  -- Either kind of value has one test.
  | .int number => inferInstanceAs (Decidable (0 < number.toInt))
  | .text content => inferInstanceAs (Decidable (content ≠ ""))

namespace Variables

/-- A binding passes the check exactly if an identifier is bound to a value that may be stored. -/
theorem check_eq_ok_iff (name : String) (value : Value) :
    check name value = .ok () ↔ Identifier.Spelled name ∧ value.Storable := by
  -- The name is checked first; with a good name the value decides.
  rw [← Identifier.isValid_iff, check.eq_def]
  cases Identifier.isValid name with
  | false => simp
  | true =>
    cases value with
    | int number =>
      have positive : ¬ number ≤ 0 ↔ 0 < number.toInt := by
        rw [Int32.le_iff_toInt_le, Int32.toInt_zero]
        omega
      simp only [Bool.not_true, Bool.false_eq_true, if_false, true_and, Value.Storable, ← positive]
      split <;> simp [*]
    | text content =>
      simp only [Bool.not_true, Bool.false_eq_true, if_false, true_and, Value.Storable]
      split <;> simp_all

/-- What is not spelled like an identifier is refused as a name, whatever the value. -/
theorem check_of_not_spelled {name : String} (bad : ¬ Identifier.Spelled name) (value : Value) :
    check name value = .error (.badName name) := by
  -- The name is tested before the value.
  have invalid : Identifier.isValid name = false := by
    rw [← Identifier.isValid_iff] at bad
    exact Bool.eq_false_iff.mpr bad
  simp [check, invalid]

/-- A number that is not positive is refused as the value of an identifier. -/
theorem check_of_not_positive {name : String} (spelled : Identifier.Spelled name)
    {number : Number} (low : number.toInt ≤ 0) :
    check name (.int number) = .error (.notPositive name number) := by
  -- The name passes, so the value decides.
  have below : number ≤ 0 := Int32.le_iff_toInt_le.mpr low
  simp [check, (Identifier.isValid_iff name).mpr spelled, below]

/-- An empty text is refused as the value of an identifier. -/
theorem check_of_empty {name : String} (spelled : Identifier.Spelled name) :
    check name (.text "") = .error (.emptyText name) := by
  -- The name passes, so the value decides.
  simp [check, (Identifier.isValid_iff name).mpr spelled]

/-- A positive number can be the value of an identifier. -/
theorem check_of_positive {name : String} (spelled : Identifier.Spelled name) {number : Number}
    (positive : 0 < number.toInt) : check name (.int number) = .ok () :=
  -- Both tests are passed.
  (check_eq_ok_iff name (.int number)).mpr ⟨spelled, positive⟩

/-- What passes the check is bound by every store. -/
theorem assign_of_check_ok (store : Variables) {name : String} {value : Value}
    (passed : check name value = .ok ()) :
    store.assign name value = .ok (store.insert name value) := by
  -- The check is the only thing that could refuse.
  rw [assign, passed]
  rfl

/-- What fails the check is refused by every store. -/
theorem assign_of_check_error (store : Variables) {name : String} {value : Value} {error : Error}
    (failed : check name value = .error error) : store.assign name value = .error error := by
  -- The check comes before the store is touched.
  rw [assign, failed]
  rfl

/-- The names that are bound, in the order of the bindings. -/
def names (store : Variables) : List String :=
  -- They come in the order of the entries, one name for each.
  store.entries.map Prod.fst

/-- What is true of every store that is built by checked bindings alone. -/
structure Sound (store : Variables) : Prop where
  /-- The names stand in ascending order, so that none stands twice. -/
  ascending : store.names.Pairwise (· < ·)
  /-- Every binding passes the check. -/
  checked : ∀ name value, (name, value) ∈ store.entries → check name value = .ok ()

/-- A sound store has every name at most once. -/
theorem Sound.nodup {store : Variables} (sound : store.Sound) : store.names.Nodup :=
  -- Ascending names are different ones.
  sound.ascending.imp fun before => String.ne_of_lt before

/-- The store without bindings is sound. -/
theorem sound_empty : empty.Sound where
  -- There is no entry that could break a rule.
  ascending := .nil
  checked _ _ member := nomatch member

/-- A binding leaves only bindings that were there before. -/
theorem mem_insertEntry {name : String} {value : Value} {entries : List (String × Value)}
    {entry : String × Value} (member : entry ∈ insertEntry name value entries) :
    entry = (name, value) ∨ entry ∈ entries := by
  -- The binding goes in front of the first larger name, or takes the place of its own.
  induction entries with
  | nil => exact .inl (List.mem_singleton.mp member)
  | cons head rest ih =>
    rw [insertEntry] at member
    split at member
    · exact (List.mem_cons.mp member).imp_right (List.mem_cons_of_mem head)
    · split at member
      · exact List.mem_cons.mp member
      · rcases List.mem_cons.mp member with rfl | later
        · exact .inr List.mem_cons_self
        · exact (ih later).imp_right (List.mem_cons_of_mem head)

/-- A binding keeps the names in ascending order. -/
theorem ascending_insertEntry (name : String) (value : Value) {entries : List (String × Value)}
    (ascending : (entries.map Prod.fst).Pairwise (· < ·)) :
    ((insertEntry name value entries).map Prod.fst).Pairwise (· < ·) := by
  induction entries with
  | nil => exact List.pairwise_singleton ..
  | cons head rest ih =>
    obtain ⟨key, held⟩ := head
    obtain ⟨above, later⟩ := List.pairwise_cons.mp ascending
    rw [insertEntry]
    -- The name is the key, stands before it, or belongs somewhere behind it.
    split
    · rename_i same
      exact same ▸ ascending
    · rename_i other
      split
      · rename_i before
        refine List.pairwise_cons.mpr ⟨fun behind member => ?_, ascending⟩
        rcases List.mem_cons.mp member with rfl | member
        · exact before
        · exact String.lt_trans before (above behind member)
      · rename_i notBefore
        have after : key < name := by
          rcases String.le_total key name with below | below
          · exact Std.lt_of_le_of_ne below (Ne.symm other)
          · exact (other (String.le_antisymm (String.not_lt.mp notBefore) below).symm).elim
        refine List.pairwise_cons.mpr ⟨fun behind member => ?_, ih later⟩
        -- What stands behind the key is the name itself or was there before.
        obtain ⟨entry, among, rfl⟩ := List.mem_map.mp member
        rcases mem_insertEntry among with rfl | among
        · exact after
        · exact above entry.1 (List.mem_map_of_mem among)

/-- A binding changes what its name is bound to, and nothing else. -/
theorem get?_insert (store : Variables) (name other : String) (value : Value) :
    (store.insert name value).get? other =
      if other = name then some value else store.get? other := by
  rw [get?, get?, insert]
  induction store.entries with
  | nil => grind [insertEntry]
  | cons head rest ih =>
    obtain ⟨key, held⟩ := head
    -- Wherever the name goes, the keys that are passed by are other names.
    rw [insertEntry]
    grind

/-- A checked binding keeps a store sound. -/
theorem Sound.insert {store : Variables} (sound : store.Sound) {name : String} {value : Value}
    (passed : check name value = .ok ()) : (store.insert name value).Sound := by
  refine ⟨ascending_insertEntry name value sound.ascending, ?_⟩
  intro other held member
  -- An entry of the new store is the one inserted or an old one.
  rcases mem_insertEntry member with same | before
  · obtain ⟨rfl, rfl⟩ := Prod.mk.inj same
    exact passed
  · exact sound.checked other held before

/-- Any number of bindings of the allowed kind, one after the other. -/
def Updates (allowed : String → Value → Prop) : Variables → Variables → Prop :=
  -- How often the store is changed is left open, and not changing it counts too.
  Relation.ReflTransGen fun before after =>
    ∃ name value, allowed name value ∧ after = before.insert name value

/-- Checked bindings keep a store sound. -/
theorem Updates.sound {before after : Variables}
    (updates : Updates (check · · = .ok ()) before after) (sound : before.Sound) : after.Sound := by
  -- Every single binding has been checked.
  induction updates with
  | refl => exact sound
  | tail _ last ih =>
    obtain ⟨name, value, passed, rfl⟩ := last
    exact ih.insert passed

/-- Bindings do not unbind a name. -/
theorem Updates.bound {allowed : String → Value → Prop} {before after : Variables}
    (updates : Updates allowed before after) {name : String}
    (bound : (before.get? name).isSome) : (after.get? name).isSome := by
  -- The induction is on the bindings, each of which leaves other names alone.
  induction updates with
  | refl => exact bound
  | tail _ last ih =>
    obtain ⟨other, value, -, rfl⟩ := last
    rw [get?_insert]
    split
    · rfl
    · exact ih

end Variables

end Plotter
