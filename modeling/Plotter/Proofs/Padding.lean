import Mathlib.Data.List.Forall2
import Plotter.Proofs.FileLines

/-! Blank lines, and the blanks around other lines, have no part in what a script does. -/

namespace Plotter

open Plotter.Action

/-- A line spells the command that it spells without the blanks around it. -/
theorem Command.ofLine_trim (line : String) : ofLine (Text.trim line) = ofLine line := by
  obtain ⟨before, after, -, -, -, trimmed⟩ := Text.trims_trimChars line.toList
  -- Trimmed once more, the characters stay as they are.
  refine (ofLine_eq_iff _ _).mpr ?_
  rw [Text.trim, String.toList_ofList, trimmed.trimChars_eq]
  exact (ofLine_eq_iff line _).mp rfl

/-- An error that names no line stays the same when lines are renumbered. -/
theorem Error.renumber_of_line?_eq_none {error : Error} (unnamed : error.line? = none)
    (change : Nat → Nat) : error.renumber change = error := by
  -- Only the two errors that name a line would be changed.
  cases error with
  | missingEnd kind line => cases unnamed
  | nestedBlock marker kind line => cases unnamed
  | _ => rfl

namespace Script

/-- The lines without the blanks around them, apart from those that are blank altogether. -/
def kept (lines : List String) : List String :=
  -- A line that trimming empties is left out altogether.
  (lines.map Text.trim).filter fun line => !line.isEmpty

/-- The lines that are written are those that are kept. -/
theorem map_trim_written (number : Nat) (lines : List String) :
    (written number lines).map (fun line => Text.trim line.text) = kept lines := by
  -- The induction is on the lines, as a blank one is counted but neither written nor kept.
  induction lines generalizing number with
  | nil => rfl
  | cons text rest ih =>
    unfold kept at ih ⊢
    rw [written_cons, List.map_cons, List.filter_cons]
    cases blank : (Text.trim text).isEmpty with
    | true => simpa [blank] using ih (number + 1)
    | false => simpa [blank] using ih (number + 1)

/-- The two lines stand at the same place among the lines of two scripts that are not blank. -/
def Counterparts (lines others : List String) (first second : Line) : Prop :=
  -- Blank lines are no part of either script, so the written lines are paired in order.
  (first, second) ∈ (written 1 lines).zip (written 1 others)

/-- Numbers that are all different can be changed to any others, one by one. -/
theorem exists_renumbering {numbers others : List Nat} (distinct : numbers.Nodup)
    (same : numbers.length = others.length) :
    ∃ change : Nat → Nat, numbers.map change = others := by
  induction numbers generalizing others with
  | nil => exact ⟨id, (List.length_eq_zero_iff.mp same.symm).symm⟩
  | cons number rest ih =>
    obtain ⟨other, left, rfl⟩ := List.exists_cons_of_length_eq_add_one same.symm
    obtain ⟨fresh, distinct⟩ := List.nodup_cons.mp distinct
    obtain ⟨change, rfl⟩ := ih distinct (Nat.succ.inj same)
    -- The first number is changed on its own, as it is none of the others.
    refine ⟨Function.update change number other, ?_⟩
    rw [List.map_cons, Function.update_self]
    refine congrArg (other :: ·) (List.map_congr_left fun found member => ?_)
    exact Function.update_of_ne (fun again : found = number => fresh (again ▸ member)) ..

/-- The numbers of the lines of one script, as they are changed, are those of another one. -/
structure Renumbers (lines others : List String) (change : Nat → Nat) : Prop where
  /-- The entries of the two differ in their numbers alone. -/
  numbered : entries 1 others = (entries 1 lines).map (Prod.map change id)
  /-- Each line has a counterpart, which says the same under the new number. -/
  counterpart : ∀ first ∈ written 1 lines, ∃ second, Counterparts lines others first second ∧
    second.number = change first.number ∧ Text.trim second.text = Text.trim first.text

/-- Scripts that keep the same lines differ in the numbers of these lines alone. -/
theorem exists_renumbers {lines others : List String} (same : kept lines = kept others) :
    ∃ change, Renumbers lines others change := by
  have texts : (written 1 others).map (fun line => Text.trim line.text) =
      (written 1 lines).map fun line => Text.trim line.text := by
    rw [map_trim_written, map_trim_written, same]
  have size : (written 1 others).length = (written 1 lines).length := by
    simpa using congrArg List.length texts
  -- A line spells the same command as the one that is kept of it.
  have commands : (written 1 others).map Line.command = (written 1 lines).map Line.command := by
    have spelled := congrArg (List.map Command.ofLine) texts
    simp only [List.map_map, Function.comp_def, Command.ofLine_trim] at spelled
    exact spelled
  obtain ⟨change, numbers⟩ : ∃ change : Nat → Nat,
      ((written 1 lines).map Line.number).map change = (written 1 others).map Line.number :=
    exists_renumbering (ascending_written 1 lines).nodup (by simp [size])
  rw [List.map_map] at numbers
  refine ⟨change, ?_, fun first member => ?_⟩
  · calc entries 1 others
        = (written 1 others).map fun line => (line.number, line.command) := entries_eq_map 1 others
      _ = ((written 1 others).map Line.number).zip ((written 1 others).map Line.command) :=
        List.zip_map'.symm
      _ = ((written 1 lines).map (change ∘ Line.number)).zip
          ((written 1 lines).map Line.command) := by rw [numbers, commands]
      _ = (entries 1 lines).map (Prod.map change id) := by
        rw [List.zip_map', entries_eq_map, List.map_map]
        rfl
  · -- The counterpart is found at the same index.
    obtain ⟨index, within, rfl⟩ := List.getElem_of_mem member
    have room : index < (written 1 others).length := by omega
    refine ⟨(written 1 others)[index], ?_, ?_, ?_⟩
    · rw [Counterparts, ← List.getElem_zip (h := by simpa using ⟨within, room⟩)]
      exact List.getElem_mem _
    · simpa [within, room] using (congrArg (·[index]?) numbers).symm
    · simpa [within, room] using congrArg (·[index]?) texts

/-- A line that is written is not empty. -/
theorem filled_written (number : Nat) (lines : List String) :
    filled (written number lines) = written number lines := by
  refine List.filter_eq_self.mpr fun line member => ?_
  obtain ⟨before, after, -, -, filled⟩ := exists_of_mem_written member
  -- An empty text has nothing left when it is trimmed, either.
  have trimmed : (Text.trim "").isEmpty = true := by decide +kernel
  by_contra empty
  rw [show line.text = "" by simpa using empty, trimmed] at filled
  cases filled

/-- The lines break off with an error that names the line that opens the block. -/
theorem BreaksOff.opens {first : Line} {error : Error} {lines : List Line}
    (breaks : BreaksOff first error lines) :
    ∃ kind, first.marker? = some (.opening kind) ∧
      (error = .missingEnd kind first.number ∨
        ∃ marker, error = .nestedBlock marker kind first.number) := by
  -- Lines that are put in front have no part in the error.
  induction breaks with
  | missing opens => exact ⟨_, opens, .inl rfl⟩
  | nested opens => exact ⟨_, opens, .inr ⟨_, rfl⟩⟩
  | plain _ _ ih => exact ih
  | block _ _ _ ih => exact ih

/-- A fault that names a line names one that opens a block. -/
theorem opening_of_fault {lines : List String} {error : Error} (named : error.line? ≠ none)
    (fault : .fault error ∈ items (entries 1 lines)) :
    ∃ first ∈ written 1 lines, ∃ kind, first.marker? = some (.opening kind) ∧
      (error = .missingEnd kind first.number ∨
        ∃ marker, error = .nestedBlock marker kind first.number) := by
  rw [entries_eq_map, ← filled_written] at fault
  -- An error that names a line names the opening of the block that it is about.
  obtain ⟨first, breaks⟩ := (breaksOff_of_fault named).1 fault
  exact ⟨first, breaks.named.1, breaks.opens⟩

/-- Two scripts end in the same way, up to where their lines stand. -/
inductive EndsAlike (lines others : List String) :
    Except Halt Batch → Except Halt Batch → Prop
  /-- Both succeed, with the same commands, and reject counterparts with the same texts. -/
  | passed {batch other : Batch} (queued : other.queued = batch.queued)
      (rejected : List.Forall₂ (fun one two => one.2 = two.2 ∧
        ∃ first second, Counterparts lines others first second ∧
          one = (first.number, Text.trim first.text) ∧
            two = (second.number, Text.trim second.text))
        batch.rejected.toList other.rejected.toList) :
      EndsAlike lines others (.ok batch) (.ok other)
  /-- Both stop for the same reason, which is not about a line. -/
  | stopped {halt : Halt} (unnamed : ∀ error, halt = .failure error → error.line? = none) :
      EndsAlike lines others (.error halt) (.error halt)
  /-- Both lack the end of a block, whose opening lines are counterparts. -/
  | missingEnd {kind : BlockKind} {first second : Line}
      (same : Counterparts lines others first second)
      (opens : first.marker? = some (.opening kind) ∧ second.marker? = some (.opening kind)) :
      EndsAlike lines others (.error (.failure (.missingEnd kind first.number)))
        (.error (.failure (.missingEnd kind second.number)))
  /-- Both have the same marker inside a block, whose opening lines are counterparts. -/
  | nestedBlock {marker : Marker} {kind : BlockKind} {first second : Line}
      (same : Counterparts lines others first second)
      (opens : first.marker? = some (.opening kind) ∧ second.marker? = some (.opening kind)) :
      EndsAlike lines others (.error (.failure (.nestedBlock marker kind first.number)))
        (.error (.failure (.nestedBlock marker kind second.number)))

/-- An ending and the one with the other numbers are alike. -/
theorem endsAlike_of_renumbers {κ : Type} {lines others : List String} {change : Nat → Nat}
    (renumbers : Renumbers lines others change) {ran : Except Halt Batch × Session κ}
    (rejected : ∀ batch, ran.1 = .ok batch →
      ∀ entry ∈ batch.rejected.toList, ∃ first ∈ written 1 lines,
        entry = (first.number, Text.trim first.text))
    (faults : ∀ error, ran.1 = .error (.failure error) → error.line? ≠ none →
      .fault error ∈ items (entries 1 lines)) :
    EndsAlike lines others ran.1 (renumbered change ran).1 := by
  rcases ran with ⟨(error | ⟨⟩) | batch, after⟩
  · cases named : error.line? with
    | none =>
      rw [renumbered, Halt.renumber, Error.renumber_of_line?_eq_none named]
      exact .stopped (by rintro _ ⟨⟩; exact named)
    | some number =>
      have about : error.line? ≠ none := by simp [named]
      obtain ⟨first, member, kind, opens, cause⟩ := opening_of_fault about (faults error rfl about)
      obtain ⟨second, same, moved, text⟩ := renumbers.counterpart first member
      have also : second.marker? = some (.opening kind) := by
        rw [← opens, Line.marker?, Line.marker?, Line.command, ← Command.ofLine_trim, text,
          Command.ofLine_trim, Line.command]
      -- Whichever of the two errors it is, its number is changed to that of the counterpart.
      rcases cause with rfl | ⟨marker, rfl⟩
      · show EndsAlike lines others _ (.error (.failure (.missingEnd kind (change first.number))))
        rw [← moved]
        exact .missingEnd same ⟨opens, also⟩
      · show EndsAlike lines others _
          (.error (.failure (.nestedBlock marker kind (change first.number))))
        rw [← moved]
        exact .nestedBlock same ⟨opens, also⟩
  · exact .stopped (by rintro _ ⟨⟩)
  · refine .passed rfl ?_
    simp only [Batch.renumber, Array.toList_map, List.forall₂_map_right_iff, List.forall₂_same]
    intro entry listed
    obtain ⟨first, member, rfl⟩ := rejected batch rfl entry listed
    obtain ⟨second, same, moved, text⟩ := renumbers.counterpart first member
    exact ⟨rfl, first, second, same, rfl, by rw [moved, text]; rfl⟩

end Script

namespace Action

variable {κ : Type} [Canvas κ] {settings : Settings} {fuel : Nat} {lines others : List String}
  {change : Nat → Nat}

/-- A pass over lines with other numbers does the same, and names the lines by these. -/
theorem outcome_validate_renumber (renumbers : Script.Renumbers lines others change)
    (session : Session κ) :
    outcome (validate settings fuel others) session =
      renumbered change (outcome (validate settings fuel lines) session) := by
  -- A pass starts with an empty batch, in which there is nothing to number.
  have empty : Batch.renumber change {} = {} := by
    simp [Batch.renumber]
  rw [outcome_validate, outcome_validate, renumbers.numbered, (Script.items_renumber _ _).1,
    ← outcome_carryOut_renumber, empty]

/-- What is queued does the same as well, and names no line. -/
theorem outcome_runScript_renumber (renumbers : Script.Renumbers lines others change)
    (session : Session κ) :
    outcome (runScript settings fuel others) session =
      renumbered change (outcome (runScript settings fuel lines) session) := by
  rw [outcome_runScript, outcome_runScript, outcome_validate_renumber renumbers]
  rcases outcome (validate settings fuel lines) session with ⟨halt | batch, middle⟩
  · rfl
  · -- No batch has more or fewer rejected lines for other numbers.
    have valid : (batch.renumber change).isValid = batch.isValid := by
      simp [Batch.renumber, Batch.isValid, Array.isEmpty]
    simp only [renumbered, follow_ok, valid]
    split
    · have stops :=
        (Conduct.unnumbered_allows_executeAll settings batch.queued.toList middle).2
      simp only [Batch.renumber]
      generalize outcome (executeAll settings batch.queued.toList) middle = executed at stops
      rcases executed with ⟨halt | ⟨⟩, after⟩
      · simp only [follow_error, stops halt rfl change]
      · rfl
    · rfl

/-- The lines that a pass rejects are written in the script. -/
theorem exists_written_of_rejected {batch : Batch} {session after : Session κ}
    (passed : outcome (validate settings fuel lines) session = (.ok batch, after)) :
    ∀ entry ∈ batch.rejected.toList, ∃ first ∈ Script.written 1 lines,
      entry = (first.number, Text.trim first.text) := by
  intro entry listed
  rw [rejected_of_validate passed] at listed
  -- A rejected entry is made from one of the written lines.
  obtain ⟨first, member, rfl⟩ := List.mem_map.mp listed
  exact ⟨first, (List.mem_filter.mp member).1, rfl⟩

/--
Blank lines, and the blanks around other lines, have no part in what a script does.

Two scripts whose lines are the same without them leave the same session after a pass and after a
run, and end in the same way. They queue the same commands and reject the same texts, each under the
number that the line has in its own script. An error that is not about a line is the same, and one
that names the opening line of a block names it by its number in each of the two.
-/
theorem padding_is_irrelevant (settings : Settings) (fuel : Nat) {lines others : List String}
    (same : Script.kept lines = Script.kept others) (session : Session κ) :
    ((outcome (validate settings fuel others) session).2 =
        (outcome (validate settings fuel lines) session).2 ∧
      Script.EndsAlike lines others (outcome (validate settings fuel lines) session).1
        (outcome (validate settings fuel others) session).1) ∧
    (outcome (runScript settings fuel others) session).2 =
        (outcome (runScript settings fuel lines) session).2 ∧
      Script.EndsAlike lines others (outcome (runScript settings fuel lines) session).1
        (outcome (runScript settings fuel others) session).1 := by
  obtain ⟨change, renumbers⟩ := Script.exists_renumbers same
  -- Under the numbers of the other script, the first one does what the other one does.
  have kept : ∀ ran : Except Halt Batch × Session κ, (renumbered change ran).2 = ran.2 := by
    rintro ⟨halt | batch, after⟩ <;> rfl
  rw [outcome_validate_renumber renumbers, outcome_runScript_renumber renumbers]
  refine ⟨⟨kept _, Script.endsAlike_of_renumbers renumbers ?_ ?_⟩,
    kept _, Script.endsAlike_of_renumbers renumbers ?_ ?_⟩
  · exact fun batch passed => exists_written_of_rejected (Prod.fst_eq_iff.mp passed)
  · exact fun error failed named => fault_of_validate (Prod.fst_eq_iff.mp failed) named
  · intro batch ran
    obtain ⟨middle, passed⟩ := exists_validate_of_runScript (Prod.fst_eq_iff.mp ran)
    exact exists_written_of_rejected passed
  · exact fun error failed named => fault_of_runScript (Prod.fst_eq_iff.mp failed) named

/--
With blank lines and wider margins, a line that nobody understands is rejected under another number.

Without its last line, a script lacks the end of a branch, which opens at another number as well.
-/
theorem wide_margins :
    let lines := ["x = 1", "spin", "if x > 2", "clear", "endif"]
    let others := ["", " x = 1", "", "\tspin\u3000", "if x > 2", "clear ", " \u2003", "endif"]
    let session : Session Recording := .start {} {}
    (outcome (runScript {} 9 lines) session).1 = .ok { rejected := #[(2, "spin")] } ∧
    (outcome (runScript {} 9 others) session).1 = .ok { rejected := #[(4, "spin")] } ∧
    (outcome (runScript {} 9 others) session).2 = (outcome (runScript {} 9 lines) session).2 ∧
    (∃ first second, Script.Counterparts lines others first second ∧
      first.number = 2 ∧ second.number = 4) ∧
    ∃ first second, Script.Counterparts (lines.take 4) (others.take 7) first second ∧
      (outcome (validate {} 9 (lines.take 4)) session).1 =
        .error (.failure (.missingEnd .branch first.number)) ∧
      (outcome (validate {} 9 (others.take 7)) session).1 =
        .error (.failure (.missingEnd .branch second.number)) := by
  intro lines others session
  have ran : (outcome (runScript {} 9 lines) session).1 = .ok { rejected := #[(2, "spin")] } := by
    decide +kernel
  have also : (outcome (runScript {} 9 others) session).1 = .ok { rejected := #[(4, "spin")] } := by
    decide +kernel
  have failed : (outcome (validate {} 9 (lines.take 4)) session).1 =
      .error (.failure (.missingEnd .branch 3)) := by decide +kernel
  have whole : Script.kept lines = Script.kept others := by decide +kernel
  have part : Script.kept (lines.take 4) = Script.kept (others.take 7) := by decide +kernel
  obtain ⟨-, same, alike⟩ := padding_is_irrelevant {} 9 whole session
  obtain ⟨⟨-, broken⟩, -⟩ := padding_is_irrelevant {} 9 part session
  rw [ran, also] at alike
  rw [failed] at broken ⊢
  refine ⟨ran, also, same, ?_, ?_⟩
  · cases alike with
    | passed queued rejected =>
      obtain ⟨⟨-, first, second, places, number, other⟩, -⟩ := List.forall₂_cons.mp rejected
      exact ⟨first, second, places, (congrArg Prod.fst number).symm, (congrArg Prod.fst other).symm⟩
  · -- Both numbers are left open, as the theorem finds them.
    generalize (outcome (validate {} 9 (others.take 7)) session).1 = ending at broken ⊢
    generalize 3 = number at broken ⊢
    cases broken with
    | stopped unnamed => exact nomatch unnamed _ rfl
    | @missingEnd kind first second places opens => exact ⟨first, second, places, rfl, rfl⟩

end Action

end Plotter
