import Plotter.CommandLine.Program
import Plotter.Proofs.Account
import Plotter.Proofs.LineEnds
import Plotter.Proofs.Renumber
import Plotter.Script

/-! The numbers in reports are those of the lines of the file, however its lines end. -/

namespace Plotter

open Plotter.Action

/-- The number of the line that an error names. -/
def Error.line? : Error → Option Nat
  -- Only the errors about an unfinished or a nested block name a line.
  | missingEnd _ line | nestedBlock _ _ line => some line
  | _ => none

/-- An error that stays the same when lines are renumbered names none of them. -/
theorem Error.line?_eq_none {error : Error} (kept : error.renumber (· + 1) = error) :
    error.line? = none := by
  -- An error that names a line would be changed by numbering on.
  cases error with
  | missingEnd kind line => simp [renumber] at kept
  | nestedBlock marker kind line => simp [renumber] at kept
  | _ => rfl

/-- Only the command that closes a block has the marker of its last line. -/
theorem Command.eq_closes_of_marker? {command : Command} {kind : BlockKind}
    (marked : command.marker? = some (.closing kind)) : command = .closes kind := by
  -- Opening commands have opening markers, so only the closing ones are left.
  obtain ⟨_, _, -, opening⟩ | ⟨other, rfl, closing⟩ := Command.marker?_eq_some marked
  · cases opening
  · rw [Marker.closing.inj closing]

/-- An empty line is not a marker. -/
theorem Line.marker?_of_empty {line : Line} (empty : line.text = "") : line.marker? = none := by
  -- An empty line is read as an unrecognized one.
  rw [marker?, command, empty]
  decide +kernel

namespace Script

/-- The lines of a file by one scan of its text, in lower case and without the blanks around. -/
def fileLines (text : String) : List Line :=
  -- A line keeps the number that it has in the file, whatever is dropped later.
  ((Text.scanLines text.toList).zipIdx 1).map fun (line, number) =>
    { number, text := String.ofList (Text.trimChars (Text.lowercase line)) }

/-- The lines that are not empty. -/
def filled (lines : List Line) : List Line :=
  -- A line that was blank in the file has been trimmed to nothing.
  lines.filter (·.text ≠ "")

/-- The lines of a script are those of the file, although they are lower-cased before the split. -/
theorem lines_eq_map (text : String) :
    lines text = (Text.scanLines text.toList).map fun line =>
      String.ofList (Text.trimChars (Text.lowercase line)) := by
  -- Lower-casing moves no line end, so lines may be split before it.
  rw [lines, Text.splitLines_eq_scanLines, Text.scanLines_lowercase, List.map_map]
  rfl

/-- Trimming twice is the same as trimming once. -/
theorem trim_trimChars (line : List Char) :
    Text.trim (String.ofList (Text.trimChars line)) = String.ofList (Text.trimChars line) := by
  -- What trimming leaves is trimmed.
  obtain ⟨before, after, -, -, -, trimmed⟩ := Text.trims_trimChars line
  rw [Text.trim, String.toList_ofList, trimmed.trimChars_eq]

/-- A line of a file has no blanks around it. -/
theorem trim_of_mem_fileLines {text : String} {line : Line} (member : line ∈ fileLines text) :
    Text.trim line.text = line.text ∧ Text.trimChars line.text.toList = line.text.toList := by
  obtain ⟨⟨raw, number⟩, -, rfl⟩ := List.mem_map.mp member
  refine ⟨trim_trimChars _, ?_⟩
  -- A text that has been trimmed is left alone the second time.
  obtain ⟨before, after, -, -, -, trimmed⟩ := Text.trims_trimChars (Text.lowercase raw)
  rw [String.toList_ofList, trimmed.trimChars_eq]

/--
The lines break off with an error: the first line of a block is there, but not the last one.

All lines in front of the block are laid out as they should be.
-/
inductive BreaksOff (first : Line) : Error → List Line → Prop
  /-- No marker follows the opening line. -/
  | missing {kind : BlockKind} {inside : List Line} (opens : first.marker? = some (.opening kind))
      (unmarked : ∀ line ∈ inside, line.marker? = none) :
      BreaksOff first (.missingEnd kind first.number) (first :: inside)
  /-- The next marker after the opening line does not close the block. -/
  | nested {kind : BlockKind} {marker : Marker} {inside rest : List Line} {last : Line}
      (opens : first.marker? = some (.opening kind))
      (unmarked : ∀ line ∈ inside, line.marker? = none) (marked : last.marker? = some marker)
      (other : marker ≠ .closing kind) :
      BreaksOff first (.nestedBlock marker kind first.number) (first :: (inside ++ last :: rest))
  /-- A line that is not a marker stands in front. -/
  | plain {error : Error} {line : Line} {rest : List Line} (unmarked : line.marker? = none)
      (others : BreaksOff first error rest) : BreaksOff first error (line :: rest)
  /-- A block that is closed stands in front. -/
  | block {error : Error} {start last : Line} {inside rest : List Line}
      (paired : start.command.closing? = some last.command)
      (unmarked : ∀ line ∈ inside, line.marker? = none) (others : BreaksOff first error rest) :
      BreaksOff first error (start :: (inside ++ last :: rest))

/-- The line with which some lines break off is one of them, and the error names its number. -/
theorem BreaksOff.named {first : Line} {error : Error} {lines : List Line}
    (breaks : BreaksOff first error lines) :
    first ∈ lines ∧ error.line? = some first.number := by
  -- The line stays among the others when lines are put in front of them.
  induction breaks with
  | missing | nested => exact ⟨List.mem_cons_self, rfl⟩
  | plain _ _ ih => exact ⟨List.mem_cons_of_mem _ ih.1, ih.2⟩
  | block _ _ _ ih => exact ⟨by simp [ih.1], ih.2⟩

/-- The lines that are not empty, if the first one is. -/
theorem filled_cons_of_empty {line : Line} (empty : line.text = "") (rest : List Line) :
    filled (line :: rest) = filled rest :=
  -- The filter drops such a line.
  List.filter_cons_of_neg (by simpa using empty)

/-- The lines that are not empty, if the first one is one of them. -/
theorem filled_cons_of_written {line : Line} (written : line.text ≠ "") (rest : List Line) :
    filled (line :: rest) = line :: filled rest :=
  -- The filter keeps such a line in its place.
  List.filter_cons_of_pos (by simpa using written)

/-- A line that is not a marker has no part in the faults of the lines behind it. -/
theorem fault_mem_items_of_plain {line : Line} (plain : line.marker? = none) {rest : List Line}
    {error : Error} (member : .fault error ∈ items ((filled (line :: rest)).map Line.entry)) :
    .fault error ∈ items ((filled rest).map Line.entry) := by
  -- An empty line makes no item, and any other one makes an item that is no fault.
  by_cases empty : line.text = ""
  · rwa [filled_cons_of_empty empty] at member
  · rw [filled_cons_of_written empty, List.map_cons, Line.entry, items_plain _ plain] at member
    rcases List.mem_cons.mp member with same | later
    · exact (fault_ne_outside _ _ _ same).elim
    · exact later

/-- A line that is not a marker leaves a block open, under the number that it has. -/
theorem fault_mem_itemsInside_of_plain {line : Line} (plain : line.marker? = none)
    {rest : List Line} {error : Error} {opened : Block}
    (member : .fault error ∈ itemsInside opened ((filled (line :: rest)).map Line.entry)) :
    ∃ block : Block, block.kind = opened.kind ∧ block.line = opened.line ∧
      .fault error ∈ itemsInside block ((filled rest).map Line.entry) := by
  -- An empty line leaves the block as it is, and any other one adds its command to it.
  by_cases empty : line.text = ""
  · rw [filled_cons_of_empty empty] at member
    exact ⟨opened, rfl, rfl, member⟩
  · rw [filled_cons_of_written empty, List.map_cons, Line.entry, itemsInside_plain _ _ plain]
      at member
    exact ⟨opened.push line.command, rfl, rfl, member⟩

/--
A fault that names a line is one with which the lines break off.

If a block is open in front of them, its lines are in front of them, too.
-/
theorem breaksOff_of_fault {lines : List Line} {error : Error} (named : error.line? ≠ none) :
    (.fault error ∈ items ((filled lines).map Line.entry) →
      ∃ first, BreaksOff first error lines) ∧
    ∀ (first : Line) (inside : List Line) (opened : Block),
      first.marker? = some (.opening opened.kind) → opened.line = first.number →
      (∀ line ∈ inside, line.marker? = none) →
      .fault error ∈ itemsInside opened ((filled lines).map Line.entry) →
        ∃ start, BreaksOff start error (first :: (inside ++ lines)) := by
  -- The induction is on the lines, both outside of blocks and inside an open one.
  induction lines with
  | nil =>
    refine ⟨fun member => ?_, fun first inside opened opens number unmarked member => ?_⟩
    · rw [filled, List.filter_nil, List.map_nil, items_nil] at member
      cases member
    · obtain ⟨⟩ := List.mem_singleton.mp member
      rw [number, List.append_nil]
      exact ⟨first, .missing opens unmarked⟩
  | cons line rest ih =>
    obtain ⟨outer, inner⟩ := ih
    cases marked : line.marker? with
    | none =>
      refine ⟨fun member => ?_, fun first inside opened opens number unmarked member => ?_⟩
      · obtain ⟨first, breaks⟩ := outer (fault_mem_items_of_plain marked member)
        exact ⟨first, .plain marked breaks⟩
      · -- The line is one more of the lines inside.
        obtain ⟨block, kind, same, later⟩ := fault_mem_itemsInside_of_plain marked member
        rw [← kind] at opens
        have longer : ∀ other ∈ inside ++ [line], other.marker? = none := by
          simpa [or_imp, forall_and, marked] using unmarked
        obtain ⟨start, breaks⟩ := inner first _ block opens (same.trans number) longer later
        exact ⟨start, by simpa using breaks⟩
    | some marker =>
      have written : line.text ≠ "" := fun empty => by
        simp [Line.marker?_of_empty empty] at marked
      rw [filled_cons_of_written written, List.map_cons, Line.entry]
      refine ⟨fun member => ?_, fun first inside opened opens number unmarked member => ?_⟩
      · obtain ⟨kind, condition, same, rfl⟩ | ⟨kind, same, -⟩ := Command.marker?_eq_some marked
        · -- A block is open behind the line, without lines inside so far.
          rw [same, items_opens] at member
          exact inner line [] _ marked rfl (by simp) member
        · -- A closing line that closes nothing is a fault, which names no line.
          rw [same, items] at member
          obtain ⟨⟩ := List.mem_singleton.mp member
          exact (named rfl).elim
      · by_cases closing : line.command = .closes opened.kind
        · rw [closing, itemsInside_closes] at member
          have closes : line.command.marker? = some (.closing opened.kind) := by
            rw [closing]
            rfl
          rcases List.mem_cons.mp member with same | later
          · cases same
          · obtain ⟨start, breaks⟩ := outer later
            exact ⟨start, .block (Command.closing?_of_marker? opens closes) unmarked breaks⟩
        · rw [itemsInside_marker opened line.number marked closing] at member
          obtain ⟨⟩ := List.mem_singleton.mp member
          have other : marker ≠ .closing opened.kind := by
            rintro rfl
            exact closing (Command.eq_closes_of_marker? marked)
          rw [number]
          exact ⟨first, .nested opens unmarked marked other⟩

end Script

/-- A reason for which what is carried out may stop names no line. -/
theorem Conduct.line?_of_unnumbered {κ : Type} {error : Error} {session : Session κ}
    (stops : (unnumbered κ).stops (.failure error) session) : error.line? = none :=
  -- An error of this kind is the same under any numbering.
  Error.line?_eq_none (Halt.failure.inj (stops _))

namespace Action

variable {κ : Type} [Canvas κ] {settings : Settings} {fuel : Nat} {lines : List String}
  {session after : Session κ}

/-- A pass that fails with an error about a line has found a fault. -/
theorem fault_of_validate {error : Error}
    (failed : outcome (validate settings fuel lines) session = (.error (.failure error), after))
    (named : error.line? ≠ none) : .fault error ∈ Script.items (Script.entries 1 lines) := by
  rw [outcome_validate, outcome_carryOut] at failed
  -- What is done at once never fails with an error about a line.
  have stops := (Conduct.unnumbered_allows_forM_atOnce settings fuel
    (Script.items (Script.entries 1 lines)) session).2
  generalize outcome (List.forM _ (Item.atOnce settings fuel)) session = performed at failed stops
  rcases performed with ⟨halt | ⟨⟩, middle⟩
  · cases failed
    exact (named (Conduct.line?_of_unnumbered (stops _ rfl))).elim
  · rw [follow_ok] at failed
    cases found : (Script.items (Script.entries 1 lines)).findSome? Item.fault? with
    | none => simp [found] at failed
    | some cause =>
      simp only [found] at failed
      cases failed
      obtain ⟨item, member, same⟩ := List.exists_of_findSome?_eq_some found
      cases item with
      | fault reason =>
        cases same
        exact member
      | _ => cases same

/-- A run that fails with an error about a line has found a fault in its pass. -/
theorem fault_of_runScript {error : Error}
    (failed : outcome (runScript settings fuel lines) session = (.error (.failure error), after))
    (named : error.line? ≠ none) : .fault error ∈ Script.items (Script.entries 1 lines) := by
  rw [outcome_runScript] at failed
  rcases passed : outcome (validate settings fuel lines) session with ⟨halt | batch, middle⟩
  · rw [passed] at failed
    cases failed
    exact fault_of_validate passed named
  · rw [passed, follow_ok] at failed
    -- The queued commands never fail with an error about a line.
    split at failed
    · have stops :=
        (Conduct.unnumbered_allows_executeAll settings batch.queued.toList middle).2
      generalize outcome (executeAll settings _) middle = executed at failed stops
      rcases executed with ⟨halt | ⟨⟩, last⟩
      · cases failed
        exact (named (Conduct.line?_of_unnumbered (stops _ rfl))).elim
      · cases failed
    · cases failed

/-- The lines that a pass rejects are those with the role, in order. -/
theorem rejected_of_validate {batch : Batch}
    (passed : outcome (validate settings fuel lines) session = (.ok batch, after)) :
    batch.rejected.toList =
      ((Script.written 1 lines).filter (Script.HasRole (Script.written 1 lines) · .rejected)).map
        fun line => (line.number, Text.trim line.text) := by
  have made := batch_of_validate passed
  rw [Script.entries_eq_map] at made
  have items : batch.rejected.toList =
      (Script.items ((Script.written 1 lines).map Line.entry)).filterMap Item.rejected? := by
    simp [made, Batch.extend]
  -- As the pass came to its end, each line stands for one item of its own role.
  rw [items, Script.filterMap_items (fun _ => rfl) (layout_of_validate passed)
    (Script.ascending_written 1 lines)]
  exact Script.filterMap_topLevel (fun _ has => has.1) fun _ top => Script.rejected?_outside top

end Action

namespace CommandLine

/-- The text is empty or ends where a line ends. -/
def WholeLines (text : String) : Prop :=
  -- No line is left unfinished, and an empty text has none.
  text = "" ∨ text.toList.getLast? = some '\n'

/-- A text that ends with a line end consists of whole lines. -/
theorem wholeLines_append_newline (text : String) : WholeLines (text ++ "\n") := by
  -- The last character is the one that was put there.
  refine .inr ?_
  rw [String.toList_append, List.getLast?_append]
  rfl

/-- Whole lines in a row are whole lines. -/
theorem WholeLines.append {front back : String} (first : WholeLines front)
    (second : WholeLines back) : WholeLines (front ++ back) := by
  -- The end of the whole is the end of the second text, unless that is empty.
  rcases second with rfl | ends
  · rwa [String.append_empty]
  · refine .inr ?_
    rw [String.toList_append, List.getLast?_append, ends, Option.some_or]

/-- The lines of a log are whole lines. -/
theorem wholeLines_printAll {log : LogText} (whole : WholeLines log.text) (threshold : Option Level)
    (events : List Event) : WholeLines (log.printAll threshold events).text := by
  unfold LogText.printAll
  -- The induction is on the events, each of which adds a whole line or nothing.
  induction events generalizing log with
  | nil => exact whole
  | cons event rest ih =>
    rw [List.foldl_cons]
    refine ih ?_
    split
    · exact wholeLines_append_newline _
    · exact whole

end CommandLine

namespace Script

variable {κ : Type} [Canvas κ] {settings : Settings} {fuel : Nat} {text : String}
  {session after : Session κ} {batch : Batch}

/-- A line of a file has no line end in it. -/
theorem isLineEnd_of_mem_fileLines {line : Line} (member : line ∈ fileLines text) :
    ∀ c ∈ line.text.toList, Text.isLineEnd c = false := by
  obtain ⟨⟨raw, number⟩, numbered, rfl⟩ := List.mem_map.mp member
  intro c listed
  rw [String.toList_ofList] at listed
  -- The line in lower case is one of the lines of the text in lower case.
  have lowered : Text.lowercase raw ∈ Text.scanLines (Text.lowercase text.toList) := by
    rw [Text.scanLines_lowercase]
    exact List.mem_map_of_mem (List.fst_mem_of_mem_zipIdx numbered)
  obtain ⟨before, behind, split, -⟩ := Text.trims_trimChars (Text.lowercase raw)
  refine Text.isLineEnd_of_mem_scanLines lowered c ?_
  rw [split]
  simp [listed]

end Script

end Plotter
