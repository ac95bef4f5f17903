import Plotter.Proofs.Effect
import Plotter.Proofs.Recognition

/-! The order of the forms matters only where an assignment could be the opening of a block. -/

namespace Plotter

open Plotter.Grammar

namespace Form

/-- The forms that take the whole line, in the order of precedence. -/
def taking (line : List Char) : List Form :=
  -- The forms keep the order of the table.
  all.filter fun form => (form.command? line).isSome

/-- The forms are tried so that every assignment comes before every opening. -/
def AssignmentsFirst (forms : List Form) : Prop :=
  -- Openings and assignments have to keep their order, and all else is free.
  ∀ assignment ∈ assignments, ∀ kind, [assignment, opens kind].Sublist forms

/-- There are two kinds of openings to look at. -/
theorem assignmentsFirst_iff (forms : List Form) :
    AssignmentsFirst forms ↔ ∀ assignment ∈ assignments,
      [assignment, opens .loop].Sublist forms ∧ [assignment, opens .branch].Sublist forms := by
  refine forall₂_congr fun assignment _ => ⟨fun ordered => ⟨ordered .loop, ordered .branch⟩, ?_⟩
  rintro ⟨loop, branch⟩ kind
  -- A loop and a branch are all the blocks that there are.
  cases kind with
  | loop => exact loop
  | branch => exact branch

instance (forms : List Form) : Decidable (AssignmentsFirst forms) :=
  -- Being a sublist can be decided.
  decidable_of_iff' _ (assignmentsFirst_iff forms)

/-- An assignment binds the first word of its line. -/
theorem firstWord_of_assigned {form : Form} {command : Command} {line : List Char}
    (assigned : form ∈ assignments) (taken : form.command? line = some command) :
    IsAssignment line ∧ command.target? = some (String.ofList (firstWord line)) := by
  simp only [assignments, List.mem_cons, List.not_mem_nil, or_false] at assigned
  -- Both forms of assignments start with a name and an equals sign.
  rcases assigned with rfl | rfl
  · obtain ⟨name, value, rfl, plain⟩ := (assign_command?_eq_some_iff line command).mp taken
    have word := (firstWord_of_assignment plain).2
    exact ⟨.inl ⟨name, value, plain⟩, by rw [word, String.ofList_toList]; rfl⟩
  · obtain ⟨name, source, op, value, rfl, arithmetic⟩ :=
      (compute_command?_eq_some_iff line command).mp taken
    have word := (firstWord_of_assignment arithmetic).2
    exact ⟨.inr ⟨name, source, op, value, arithmetic⟩, by rw [word, String.ofList_toList]; rfl⟩

/-- Of the forms with a keyword, only an opening can take a line that is an assignment. -/
theorem exists_opens_of_isAssignment {form : Form} {command : Command} {line : List Char}
    (keyed : form ∈ keyworded) (taken : form.command? line = some command)
    (assigned : IsAssignment line) : ∃ kind, form = opens kind := by
  have apart : ∀ form ∈ keyworded, form ∉ assignments := by decide
  obtain ⟨formed, spelled⟩ := (command?_eq_some_iff _ _ _).mp taken
  -- No other form with a keyword can be written like an assignment.
  by_contra closed
  exact not_isAssignment_of_keyworded formed (apart form keyed) (by simpa using closed) spelled
    assigned

/-- Of forms that cannot share the line, one takes it at most. -/
theorem filter_taking_of_unique {forms : List Form} {line : List Char} (distinct : forms.Nodup)
    (unique : ∀ first ∈ forms, ∀ second ∈ forms, ∀ one two, first.command? line = some one →
      second.command? line = some two → first = second) :
    (forms.filter fun form => (form.command? line).isSome) = [] ∨
      ∃ form ∈ forms, ∃ command, form.command? line = some command ∧
        (forms.filter fun form => (form.command? line).isSome) = [form] := by
  have once := distinct.filter fun form => (form.command? line).isSome
  have taken : ∀ form ∈ forms.filter fun form => (form.command? line).isSome,
      form ∈ forms ∧ ∃ command, form.command? line = some command := by
    intro form listed
    obtain ⟨member, some⟩ := List.mem_filter.mp listed
    exact ⟨member, Option.isSome_iff_exists.mp some⟩
  generalize (forms.filter fun form => (form.command? line).isSome) = found at once taken
  match found with
  | [] => exact .inl rfl
  | [form] =>
    obtain ⟨member, command, takes⟩ := taken form (by simp)
    exact .inr ⟨form, member, command, takes, rfl⟩
  | first :: second :: rest =>
    -- Two forms that take the line would be one and the same form, listed twice.
    obtain ⟨left, one, takes⟩ := taken first (by simp)
    obtain ⟨right, two, also⟩ := taken second (by simp)
    have same := unique first left second right one two takes also
    simp [same] at once

/--
A line is taken by one form at most, or by an assignment and an opening.

In the second case the assignment binds a variable that is called like the keyword of the opening.
-/
theorem taking_cases (line : List Char) :
    (taking line).length ≤ 1 ∨ ∃ assignment ∈ assignments, ∃ kind command,
      taking line = [assignment, opens kind] ∧ assignment.command? line = some command ∧
        command.target? = some kind.keyword := by
  -- The table starts with the assignments, and the forms with a keyword follow.
  have split : taking line =
      (assignments.filter fun form => (form.command? line).isSome) ++
        keyworded.filter fun form => (form.command? line).isSome :=
    List.filter_append assignments keyworded
  rw [split]
  -- Neither of the two groups has more than one form for the line.
  rcases filter_taking_of_unique (by decide) fun _ left _ right _ _ =>
    @assignments_unique line _ _ _ _ left right with none | ⟨first, assigned, one, taken, single⟩
  · rcases filter_taking_of_unique (by decide) fun _ left _ right _ _ =>
      @keyworded_unique line _ _ _ _ left right with nothing | ⟨second, -, -, -, other⟩
    · exact .inl (by simp [none, nothing])
    · exact .inl (by simp [none, other])
  · rcases filter_taking_of_unique (by decide) fun _ left _ right _ _ =>
      @keyworded_unique line _ _ _ _ left right with nothing | ⟨second, keyed, two, also, other⟩
    · exact .inl (by simp [single, nothing])
    · -- An assignment shares its line with an opening alone, whose keyword is its first word.
      obtain ⟨shared, target⟩ := firstWord_of_assigned assigned taken
      obtain ⟨kind, rfl⟩ := exists_opens_of_isAssignment keyed also shared
      obtain ⟨formed, spelled⟩ := (command?_eq_some_iff _ _ _).mp also
      have word := firstWord_of_keyworded formed (by cases kind <;> decide) spelled
      rw [word, String.ofList_toList] at target
      exact .inr ⟨first, assigned, kind, one, by rw [single, other]; rfl, taken, target⟩

variable {forms : List Form} {line : List Char}

/-- Forms that do not take the line are passed over. -/
theorem firstMatch?_append_of_passed {front back : List Form}
    (passed : ∀ form ∈ front, form.command? line = none) :
    firstMatch? (front ++ back) line = firstMatch? back line := by
  -- The forms in front find nothing, so the search goes on behind them.
  have none : firstMatch? front line = none :=
    List.findSome?_eq_none_iff.mpr fun form listed => by rw [passed form listed, Option.map_none]
  unfold firstMatch? at none ⊢
  rw [List.findSome?_append, none, Option.none_or]

/-- A form that takes the line is the first match of a list that starts with it. -/
theorem firstMatch?_cons_of_taken {form : Form} {command : Command} {back : List Form}
    (taken : form.command? line = some command) :
    firstMatch? (form :: back) line = some (form, command) := by
  -- The search is over at the first form already.
  rw [firstMatch?, List.findSome?_cons, taken, Option.map_some]

/-- Where every assignment comes before every opening, no opening stands in front of one. -/
theorem opens_notMem_front {front back : List Form} {form : Form}
    (distinct : (front ++ form :: back).Nodup) (ordered : AssignmentsFirst (front ++ form :: back))
    (assigned : form ∈ assignments) (kind : BlockKind) : opens kind ∉ front := by
  intro earlier
  obtain ⟨before, behind, split, ahead, rest⟩ :=
    List.sublist_append_iff.mp (ordered form assigned kind)
  obtain ⟨-, -, apart⟩ := List.nodup_append.mp distinct
  cases before with
  | nil =>
    -- Then the opening stands behind the assignment as well as in front of it.
    rw [List.nil_append] at split
    subst split
    exact apart _ earlier _ (rest.subset (by simp)) rfl
  | cons first others =>
    -- Then the assignment itself stands twice in the list.
    obtain ⟨rfl, -⟩ := List.cons.inj split
    exact apart _ (ahead.subset List.mem_cons_self) _ List.mem_cons_self rfl

/-- An assignment that takes the line is found first, as no form in front of it takes the line. -/
theorem firstMatch?_of_assigned {form : Form} {command : Command} (perm : forms.Perm all)
    (ordered : AssignmentsFirst forms) (assigned : form ∈ assignments)
    (taken : form.command? line = some command) :
    firstMatch? forms line = some (form, command) := by
  have listed : form ∈ forms := perm.mem_iff.mpr (List.mem_append_left keyworded assigned)
  obtain ⟨front, back, rfl, new⟩ := List.eq_append_cons_of_mem listed
  have distinct : (front ++ form :: back).Nodup := perm.nodup_iff.mpr (by decide)
  have passed : ∀ other ∈ front, other.command? line = none := by
    intro other earlier
    refine Option.eq_none_iff_forall_ne_some.mpr fun found also => ?_
    -- Only the other assignment and the openings could take the line as well.
    by_cases alike : other ∈ assignments
    · exact new (assignments_unique alike assigned also taken ▸ earlier)
    · obtain ⟨kind, rfl⟩ := exists_opens_of_isAssignment (mem_keyworded alike) also
        (firstWord_of_assigned assigned taken).1
      exact opens_notMem_front distinct ordered assigned kind earlier
  rw [firstMatch?_append_of_passed passed, firstMatch?_cons_of_taken taken]

/-- A line that no assignment takes is taken by one form at most, wherever that one stands. -/
theorem firstMatch?_eq_some_iff_of_free (perm : forms.Perm all)
    (free : ∀ form ∈ assignments, form.command? line = none) (form : Form) (command : Command) :
    firstMatch? forms line = some (form, command) ↔ form.command? line = some command := by
  -- What takes the line has a keyword, and the keyword tells which form it is.
  have keyed : ∀ {form : Form} {command : Command}, form.command? line = some command →
      form ∈ keyworded := by
    intro form command taken
    refine mem_keyworded fun assigned => ?_
    rw [free form assigned] at taken
    exact nomatch taken
  rw [firstMatch?_eq_some_iff fun _ _ _ _ _ _ taken also =>
    keyworded_unique (keyed taken) (keyed also) taken also]
  exact and_iff_right_of_imp fun taken =>
    perm.mem_iff.mpr (List.mem_append_right assignments (keyed taken))

/-- Trying the forms in another order finds the same one if the assignments still come first. -/
theorem firstMatch?_of_perm (perm : forms.Perm all) (ordered : AssignmentsFirst forms)
    (line : List Char) : firstMatch? forms line = recognize? line := by
  have usual : AssignmentsFirst all := by decide
  by_cases free : ∀ form ∈ assignments, form.command? line = none
  · -- At most one form takes the line, so there is no order that could matter.
    refine Option.ext fun found => ?_
    obtain ⟨form, command⟩ := found
    exact (firstMatch?_eq_some_iff_of_free perm free form command).trans
      (firstMatch?_eq_some_iff_of_free (.refl all) free form command).symm
  · -- Both orders find the assignment that takes the line.
    push Not at free
    obtain ⟨form, assigned, taken⟩ := free
    obtain ⟨command, taken⟩ := Option.ne_none_iff_exists'.mp taken
    rw [firstMatch?_of_assigned perm ordered assigned taken]
    exact (firstMatch?_of_assigned (.refl all) usual assigned taken).symm

end Form

namespace Command

/-- The command that a line spells if the forms are tried in a given order. -/
def ofLineBy (forms : List Form) (line : String) : Command :=
  -- Only the order in which the forms are tried is left open.
  match Form.firstMatch? forms (Text.trimChars line.toList) with
  | some (_, command) => command
  | none => .unrecognized (Text.trim line)

/-- Lines are read with the forms in their order of precedence. -/
theorem ofLineBy_all : ofLineBy Form.all = ofLine :=
  -- The table of the program is one of these orders.
  rfl

/--
The forms exclude each other, apart from an assignment to a variable named like an opening keyword.

So lines read the same in every order of the forms that tries the assignments before the openings.
-/
theorem order_matters_for_openings_alone :
    (∀ line, (Form.taking line).length ≤ 1 ∨ ∃ assignment ∈ Form.assignments, ∃ kind command,
      Form.taking line = [assignment, .opens kind] ∧ assignment.command? line = some command ∧
        command.target? = some kind.keyword) ∧
    ∀ forms : List Form, forms.Perm Form.all → Form.AssignmentsFirst forms →
      ∀ line, ofLineBy forms line = ofLine line := by
  -- A line taken by two forms is an assignment to a keyword, which the order keeps in front.
  refine ⟨Form.taking_cases, fun forms perm ordered line => ?_⟩
  rw [← ofLineBy_all, ofLineBy, Form.firstMatch?_of_perm perm ordered]
  rfl

/-- The keywords can be tried backwards, but not before the assignments. -/
theorem order_backwards :
    ofLineBy (Form.assignments.reverse ++ Form.keyworded.reverse) "while = 5" =
        .assign "while" 5 ∧
      ofLineBy (Form.keyworded ++ Form.assignments) "while = 5" = .opens .loop "= 5" := by
  -- With the openings in front, the same line is read as a loop.
  have known := order_matters_for_openings_alone.2
    (Form.assignments.reverse ++ Form.keyworded.reverse) (by decide) (by decide) "while = 5"
  exact ⟨known.trans (by decide +kernel), by decide +kernel⟩

end Command

end Plotter
