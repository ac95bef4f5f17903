import Mathlib.Data.List.Nodup
import Mathlib.Tactic.MkIffOfInductiveProp
import Plotter.Proofs.Items

/-! The lines of a script: which of them lie in a block, and which stand for themselves. -/

namespace Plotter

/-- The command that closes the block that a command opens. -/
def Command.closing? : Command → Option Command
  -- The closing marker has no condition, so the kind is all that is kept.
  | opens kind _ => some (closes kind)
  | _ => none

/-- Only a command that opens a block has one that closes it. -/
theorem Command.closing?_eq_some_iff (command other : Command) :
    command.closing? = some other ↔
      ∃ kind condition, command = opens kind condition ∧ other = closes kind := by
  -- Only an opening marker has a closing one.
  cases command with
  | opens kind condition => simp [closing?, eq_comm]
  | _ => simp [closing?]

/-- Both commands of a pair are markers. -/
theorem Command.marker?_of_closing? {first last : Command} (paired : first.closing? = some last) :
    first.marker? ≠ none ∧ last.marker? ≠ none := by
  -- Both ends of a pair are markers of its kind.
  obtain ⟨kind, condition, rfl, rfl⟩ := (closing?_eq_some_iff _ _).mp paired
  exact ⟨Option.some_ne_none _, Option.some_ne_none _⟩

/-- A command that closes a block opens none. -/
theorem Command.closing?_of_closing? {first last : Command} (paired : first.closing? = some last) :
    last.closing? = none := by
  -- The second of a pair closes, so it opens nothing.
  obtain ⟨kind, condition, -, rfl⟩ := (closing?_eq_some_iff _ _).mp paired
  rfl

/-- Two markers of one kind, the first of which opens and the second of which closes, are a pair. -/
theorem Command.closing?_of_marker? {first last : Command} {kind : BlockKind}
    (opening : first.marker? = some (.opening kind))
    (closing : last.marker? = some (.closing kind)) : first.closing? = some last := by
  -- The markers name the kinds, and all but one pair of commands have other markers.
  cases first with
  | opens other condition =>
    cases last with
    | closes second =>
      simp only [marker?, Option.some.injEq, Marker.opening.injEq, Marker.closing.injEq]
        at opening closing
      rw [closing?, opening, closing]
    | _ => simp [marker?] at closing
  | _ => simp [marker?] at opening

/-- A line of a script with its number. -/
structure Line where
  /-- The number of the line, counted from one. -/
  number : Nat
  /-- The line as it is written. -/
  text : String
  deriving DecidableEq, Repr

namespace Line

/-- The command that the line spells. -/
def command (line : Line) : Command :=
  -- A line is read for itself, whatever stands around it.
  .ofLine line.text

/-- The marker that the line is, if it opens or closes a block. -/
def marker? (line : Line) : Option Marker :=
  -- Whether it is a marker shows in the command alone.
  line.command.marker?

/-- The number and the command of the line. -/
def entry (line : Line) : Nat × Command :=
  -- This is all that the pass looks at.
  (line.number, line.command)

end Line

namespace Script

/-- The lines that are not blank, numbered from the given number on; blank lines count too. -/
def written (number : Nat) (lines : List String) : List Line :=
  -- Numbers are given before the blank lines are dropped, so they are those of the script.
  (lines.zipIdx number).filterMap fun (text, number) =>
    if (Text.trim text).isEmpty then none else some { number, text }

/-- The lines strictly between two lines. -/
def between (lines : List Line) (first last : Line) : List Line :=
  -- The two markers themselves are left out.
  lines.filter fun line => first.number < line.number ∧ line.number < last.number

/-- The second line is the marker that closes the block that the first line opens. -/
@[mk_iff] structure Encloses (lines : List Line) (first last : Line) : Prop where
  /-- The first line is one of the lines. -/
  first_mem : first ∈ lines
  /-- So is the second one. -/
  last_mem : last ∈ lines
  /-- The second line comes after the first one. -/
  ordered : first.number < last.number
  /-- The two are the markers of one kind of block. -/
  paired : first.command.closing? = some last.command
  /-- No other marker stands between them. -/
  alone : ∀ line ∈ between lines first last, line.marker? = none

instance (lines : List Line) (first last : Line) : Decidable (Encloses lines first last) :=
  -- The conditions are all about lines of the script, which are finitely many.
  decidable_of_iff' _ (encloses_iff lines first last)

/-- The line lies between an opening marker and its closing marker. -/
def Inside (lines : List Line) (line : Line) : Prop :=
  -- The markers of a block are not inside it.
  ∃ first ∈ lines, ∃ last ∈ lines, Encloses lines first last ∧ line ∈ between lines first last

instance (lines : List Line) (line : Line) : Decidable (Inside lines line) :=
  -- Both markers are lines of the script, so they can be searched for.
  inferInstanceAs (Decidable (∃ first ∈ lines, ∃ last ∈ lines, _ ∧ _))

/-- The line is not a marker and does not lie in a block. -/
def TopLevel (lines : List Line) (line : Line) : Prop :=
  -- Markers are kept out, as they have a role of their own.
  line.marker? = none ∧ ¬ Inside lines line

instance (lines : List Line) (line : Line) : Decidable (TopLevel lines line) :=
  -- Both conditions can be decided.
  inferInstanceAs (Decidable (_ ∧ _))

/-- What becomes of a line that is not blank. -/
inductive Role where
  /-- The line is an assignment that is made at once. -/
  | assignment
  /-- The line opens or closes a block. -/
  | marker
  /-- The line is a part of the body of the block between two markers. -/
  | body (first last : Line)
  /-- The line waits in the queue. -/
  | queued
  /-- The line is rejected. -/
  | rejected
  deriving DecidableEq, Repr

/-- The line has the role among the given lines. -/
def HasRole (lines : List Line) (line : Line) : Role → Prop
  -- The three roles outside a block exclude each other by the command of the line.
  | .assignment => TopLevel lines line ∧ Command.assignment? line.text ≠ none
  | .marker => line.marker? ≠ none
  | .body first last => Encloses lines first last ∧ line ∈ between lines first last
  | .queued => TopLevel lines line ∧ Command.assignment? line.text = none ∧
      line.command ≠ .unrecognized (Text.trim line.text)
  | .rejected => TopLevel lines line ∧ line.command = .unrecognized (Text.trim line.text)

instance (lines : List Line) (line : Line) : DecidablePred (HasRole lines line)
  -- Every role is a condition that can be decided.
  | .assignment | .queued | .rejected | .body _ _ => inferInstanceAs (Decidable (_ ∧ _))
  | .marker => inferInstanceAs (Decidable (_ ≠ _))

/-- The lines stand in the order of their numbers. -/
def Ascending (lines : List Line) : Prop :=
  -- Being strictly ascending, the numbers are different as well.
  lines.Pairwise fun first second => first.number < second.number

/-- Lines are numbered one after the other, and blank ones are left out. -/
theorem written_cons (number : Nat) (text : String) (rest : List String) :
    written number (text :: rest) =
      if (Text.trim text).isEmpty then written (number + 1) rest
      else { number, text } :: written (number + 1) rest := by
  unfold written
  rw [List.zipIdx_cons, List.filterMap_cons]
  -- A blank line is dropped and still counted.
  split <;> simp_all

/-- The entries of a script are its lines with their commands. -/
theorem entries_eq_map (number : Nat) (lines : List String) :
    entries number lines = (written number lines).map Line.entry := by
  induction lines generalizing number with
  | nil => rfl
  | cons text rest ih =>
    rw [entries_cons, written_cons]
    -- A blank line is in neither of the two, and any other one in both.
    split
    · exact ih (number + 1)
    · rw [ih, List.map_cons]
      rfl

/-- Lines in two parts are numbered on from the first part. -/
theorem written_append (number : Nat) (first second : List String) :
    written number (first ++ second) =
      written number first ++ written (number + first.length) second := by
  -- The second part is numbered on from the length of the first, blank lines included.
  simp only [written, List.zipIdx_append, List.filterMap_append]

/-- A line of a script stands at its number, and is not blank. -/
theorem exists_of_mem_written {number : Nat} {lines : List String} {line : Line}
    (member : line ∈ written number lines) :
    ∃ before after, lines = before ++ line.text :: after ∧
      line.number = number + before.length ∧ (Text.trim line.text).isEmpty = false := by
  induction lines generalizing number with
  | nil => exact nomatch member
  | cons text rest ih =>
    -- A line among the others stands one further in the whole script.
    have later : line ∈ written (number + 1) rest → ∃ before after,
        text :: rest = before ++ line.text :: after ∧
          line.number = number + before.length ∧ (Text.trim line.text).isEmpty = false := by
      intro other
      obtain ⟨before, after, split, counted, filled⟩ := ih other
      refine ⟨text :: before, after, by rw [split, List.cons_append], ?_, filled⟩
      rw [counted, List.length_cons]
      omega
    rw [written_cons] at member
    split at member
    · exact later member
    · rename_i filled
      rcases List.mem_cons.mp member with rfl | other
      · exact ⟨[], rest, rfl, rfl, by simpa using filled⟩
      · exact later other

/-- No number comes before the first one. -/
theorem le_number_of_mem_written {number : Nat} {lines : List String} {line : Line}
    (member : line ∈ written number lines) : number ≤ line.number := by
  -- A number counts the lines before it, on top of the first number.
  obtain ⟨before, -, -, counted, -⟩ := exists_of_mem_written member
  omega

/-- The numbers of the lines of a script ascend. -/
theorem ascending_written (number : Nat) (lines : List String) :
    Ascending (written number lines) := by
  induction lines generalizing number with
  | nil => exact .nil
  | cons text rest ih =>
    rw [written_cons]
    -- A blank line takes up a number, and the lines behind it have larger ones.
    split
    · exact ih (number + 1)
    · refine List.pairwise_cons.mpr ⟨fun line member => ?_, ih (number + 1)⟩
      -- All that follows has the next number or a larger one.
      have later : number + 1 ≤ line.number := le_number_of_mem_written member
      exact later

/-- The numbers of lines in order are all different. -/
theorem Ascending.nodup {lines : List Line} (ascending : Ascending lines) :
    (lines.map Line.number).Nodup := by
  -- A smaller number is a different one.
  refine List.pairwise_map.mpr (ascending.imp fun before => ?_)
  exact Nat.ne_of_lt before

/-- A number belongs to one line alone. -/
theorem Ascending.eq_of_number {lines : List Line} (ascending : Ascending lines)
    {first second : Line} (one : first ∈ lines) (two : second ∈ lines)
    (same : first.number = second.number) : first = second :=
  -- No number comes twice in the list.
  List.inj_on_of_nodup_map ascending.nodup one two same

/-- A line is between two others by its number. -/
theorem mem_between {lines : List Line} {first last line : Line} :
    line ∈ between lines first last ↔
      line ∈ lines ∧ first.number < line.number ∧ line.number < last.number := by
  -- The filter asks for the number alone.
  simp [between]

namespace Encloses

variable {lines : List Line} {first last : Line}

/-- The two lines of a block are markers. -/
theorem marked (encloses : Encloses lines first last) :
    first.marker? ≠ none ∧ last.marker? ≠ none :=
  -- A pair of an opening and a closing has a marker at each end.
  Command.marker?_of_closing? encloses.paired

/-- No marker stands between the two lines of a block. -/
theorem outside (encloses : Encloses lines first last) {marker : Line} (member : marker ∈ lines)
    (marked : marker.marker? ≠ none) :
    marker.number ≤ first.number ∨ last.number ≤ marker.number := by
  -- Such a marker would be one of the lines between, none of which is marked.
  by_contra within
  have listed : marker ∈ between lines first last := mem_between.mpr ⟨member, by omega⟩
  exact marked (encloses.alone marker listed)

/-- A line lies between the markers of one block at most. -/
theorem unique (ascending : Ascending lines) {opening closing line : Line}
    (encloses : Encloses lines first last) (also : Encloses lines opening closing)
    (inside : line ∈ between lines first last) (within : line ∈ between lines opening closing) :
    first = opening ∧ last = closing := by
  obtain ⟨-, after, before⟩ := mem_between.mp inside
  obtain ⟨-, behind, ahead⟩ := mem_between.mp within
  -- The markers of the one block lie outside of the other, on the two sides of the line.
  have left := encloses.outside also.first_mem also.marked.1
  have right := encloses.outside also.last_mem also.marked.2
  have back := also.outside encloses.first_mem encloses.marked.1
  have forth := also.outside encloses.last_mem encloses.marked.2
  exact ⟨ascending.eq_of_number encloses.first_mem also.first_mem (by omega),
    ascending.eq_of_number encloses.last_mem also.last_mem (by omega)⟩

end Encloses

/-- The lines between two lines are those that stand there. -/
theorem between_eq (front : List Line) {inside rest : List Line} {first last : Line}
    (ascending : Ascending (front ++ first :: (inside ++ last :: rest))) :
    first.number < last.number ∧
      between (front ++ first :: (inside ++ last :: rest)) first last = inside := by
  -- The order is taken apart at the two lines.
  obtain ⟨-, later, ahead⟩ := List.pairwise_append.mp ascending
  obtain ⟨behind, tail⟩ := List.pairwise_cons.mp later
  obtain ⟨-, ending, within⟩ := List.pairwise_append.mp tail
  have ordered := behind last (by simp)
  -- The lines in front come too early, and those behind come too late.
  have early : ∀ line ∈ front, ¬ (first.number < line.number ∧ line.number < last.number) := by
    intro line listed
    have sooner := ahead line listed first (by simp)
    omega
  have kept : ∀ line ∈ inside, first.number < line.number ∧ line.number < last.number := by
    intro line listed
    exact ⟨behind line (by simp [listed]), within line listed last (by simp)⟩
  have late : ∀ line ∈ rest, ¬ (first.number < line.number ∧ line.number < last.number) := by
    intro line listed
    have beyond := (List.pairwise_cons.mp ending).1 line listed
    omega
  refine ⟨ordered, ?_⟩
  unfold between
  -- Part by part, only the lines inside are left.
  rw [List.filter_append, List.filter_eq_nil_iff.mpr (by simpa using early), List.nil_append,
    List.filter_cons_of_neg (by simp), List.filter_append,
    List.filter_eq_self.mpr (by simpa using kept), List.filter_cons_of_neg (by simp),
    List.filter_eq_nil_iff.mpr (by simpa using late), List.append_nil]

/-- Two markers with nothing but plain lines between them enclose these lines. -/
theorem encloses_of_split (front : List Line) {inside rest : List Line} {first last : Line}
    (ascending : Ascending (front ++ first :: (inside ++ last :: rest)))
    (paired : first.command.closing? = some last.command)
    (unmarked : ∀ line ∈ inside, line.marker? = none) :
    Encloses (front ++ first :: (inside ++ last :: rest)) first last := by
  -- As the numbers ascend, what stands between is exactly the inner part.
  obtain ⟨ordered, same⟩ := between_eq front ascending
  exact ⟨by simp, by simp, ordered, paired, by rw [same]; exact unmarked⟩

/-- A line that is not a marker lies in a block or stands for itself. -/
theorem inside_or_topLevel {lines : List Line} {line : Line} (plain : line.marker? = none) :
    Inside lines line ∨ TopLevel lines line := by
  -- A plain line is at the top unless some block has it.
  by_cases inside : Inside lines line
  · exact .inl inside
  · exact .inr ⟨plain, inside⟩

/-- A line is a plain assignment by its command. -/
theorem assignment?_eq (line : Line) :
    Command.assignment? line.text =
      match line.command with
      | .assign name value => some (name, value)
      | _ => none :=
  -- The line is recognized for it, and every other form is dropped.
  rfl

/-- A plain assignment has the command of its name and number. -/
theorem command_of_assignment? {line : Line} {name : String} {value : Number}
    (assigned : Command.assignment? line.text = some (name, value)) :
    line.command = .assign name value := by
  rw [assignment?_eq] at assigned
  -- No other command is told as an assignment.
  cases same : line.command with
  | assign other number =>
    simp only [same, Option.some.injEq, Prod.mk.injEq] at assigned
    rw [assigned.1, assigned.2]
  | _ => simp [same] at assigned

/-- A line that is kept as it is, is no plain assignment. -/
theorem assignment?_of_unrecognized {line : Line} {kept : String}
    (unrecognized : line.command = .unrecognized kept) : Command.assignment? line.text = none := by
  -- An unrecognized line is read as no assignment.
  rw [assignment?_eq, unrecognized]

/-- Every line has a role. -/
theorem exists_role (lines : List Line) (line : Line) : ∃ role, HasRole lines line role := by
  by_cases plain : line.marker? = none
  · rcases inside_or_topLevel plain with inside | top
    · obtain ⟨first, -, last, -, encloses, between⟩ := inside
      exact ⟨.body first last, encloses, between⟩
    · -- A line that stands for itself is told by its command.
      by_cases assigned : Command.assignment? line.text = none
      · by_cases unrecognized : line.command = .unrecognized (Text.trim line.text)
        · exact ⟨.rejected, top, unrecognized⟩
        · exact ⟨.queued, top, assigned, unrecognized⟩
      · exact ⟨.assignment, top, assigned⟩
  · exact ⟨.marker, plain⟩

/-- No line has two roles. -/
theorem role_unique {lines : List Line} (ascending : Ascending lines) {line : Line}
    {role other : Role} (has : HasRole lines line role) (also : HasRole lines line other) :
    role = other := by
  -- A line in a body is inside a block, and no marker.
  have body : ∀ {first last}, HasRole lines line (.body first last) →
      line.marker? = none ∧ Inside lines line := fun held =>
    ⟨held.1.alone line held.2, _, held.1.first_mem, _, held.1.last_mem, held⟩
  -- Markers, lines in a block and lines outside of blocks are apart from each other.
  cases role with
  | marker =>
    cases other with
    | marker => rfl
    | body first last => exact absurd (body also).1 has
    | assignment | queued | rejected => exact absurd also.1.1 has
  | body first last =>
    cases other with
    | body opening closing =>
      obtain ⟨rfl, rfl⟩ := Encloses.unique ascending has.1 also.1 has.2 also.2
      rfl
    | marker => exact absurd (body has).1 also
    | assignment | queued | rejected => exact absurd (body has).2 also.1.2
  | assignment =>
    cases other with
    | assignment => rfl
    | marker => exact absurd has.1.1 also
    | body first last => exact absurd (body also).2 has.1.2
    | queued => exact absurd also.2.1 has.2
    | rejected => exact absurd (assignment?_of_unrecognized also.2) has.2
  | queued =>
    cases other with
    | queued => rfl
    | marker => exact absurd has.1.1 also
    | body first last => exact absurd (body also).2 has.1.2
    | assignment => exact absurd has.2.1 also.2
    | rejected => exact absurd also.2 has.2.2
  | rejected =>
    cases other with
    | rejected => rfl
    | marker => exact absurd has.1.1 also
    | body first last => exact absurd (body also).2 has.1.2
    | assignment => exact absurd (assignment?_of_unrecognized has.2) also.2
    | queued => exact absurd has.2 also.2.2

/-- Every line has exactly one role. -/
theorem existsUnique_role {lines : List Line} (ascending : Ascending lines) (line : Line) :
    ∃! role, HasRole lines line role := by
  -- The line is in at least one of the five places, and in no two of them.
  obtain ⟨role, has⟩ := exists_role lines line
  exact ⟨role, has, fun other also => role_unique ascending also has⟩

end Script

end Plotter
