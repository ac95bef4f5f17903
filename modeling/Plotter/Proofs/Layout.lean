import Plotter.Proofs.Lines

/-! Lines whose blocks are closed, and the items that they are made of. -/

namespace Plotter.Script

/-- Lines in which every block is closed before another one is opened. -/
inductive Layout : List Line → Prop
  /-- There are no lines. -/
  | nil : Layout []
  /-- A line that is not a marker stands in front. -/
  | plain {line : Line} {rest : List Line} (unmarked : line.marker? = none)
      (others : Layout rest) : Layout (line :: rest)
  /-- A block stands in front, from its opening line to its closing line. -/
  | block {first last : Line} {inside rest : List Line}
      (paired : first.command.closing? = some last.command)
      (unmarked : ∀ line ∈ inside, line.marker? = none) (others : Layout rest) :
      Layout (first :: (inside ++ last :: rest))

/-- Lines that are not markers can stand in front of a layout. -/
theorem Layout.append {front rest : List Line} (unmarked : ∀ line ∈ front, line.marker? = none)
    (others : Layout rest) : Layout (front ++ rest) := by
  -- Lines without a marker may be put in front one by one.
  induction front with
  | nil => exact others
  | cons line front ih =>
    rw [List.forall_mem_cons] at unmarked
    exact .plain unmarked.1 (ih unmarked.2)

/-- Lines whose markers are opened and closed one after the other have a layout. -/
theorem layout_of_bracketed {lines : List Line}
    (bracketed : Bracketed (lines.filterMap Line.marker?)) : Layout lines := by
  -- The induction is on the pairs of markers, each of which cuts a block out of the lines.
  generalize same : lines.filterMap Line.marker? = markers at bracketed
  induction bracketed generalizing lines with
  | nil =>
    have unmarked : ∀ line ∈ lines, line.marker? = none := List.filterMap_eq_nil_iff.mp same
    simpa using Layout.append unmarked .nil
  | block kind others ih =>
    -- The first marker is found behind plain lines, and so is the second one.
    obtain ⟨front, first, _, rfl, plain, opening, later⟩ := List.filterMap_eq_cons_iff.mp same
    obtain ⟨inside, last, rest, rfl, unmarked, closing, after⟩ :=
      List.filterMap_eq_cons_iff.mp later
    have paired := Command.closing?_of_marker? opening closing
    exact Layout.append plain (.block paired unmarked (ih after))

/-- Lines that are not markers wait in the open block, whatever follows them. -/
theorem itemsInside_plains (opened : Block) {inside : List Line}
    (unmarked : ∀ line ∈ inside, line.marker? = none) :
    ∃ block : Block, block.kind = opened.kind ∧ ∀ rest,
      itemsInside opened (inside.map Line.entry ++ rest) = itemsInside block rest := by
  -- The induction is on the lines, for every block that can be open in front of them.
  induction inside generalizing opened with
  | nil => exact ⟨opened, rfl, fun _ => rfl⟩
  | cons line inside ih =>
    rw [List.forall_mem_cons] at unmarked
    obtain ⟨block, same, taken⟩ := ih (opened.push line.command) unmarked.2
    refine ⟨block, same, fun rest => ?_⟩
    rw [← taken]
    exact itemsInside_plain opened line.number unmarked.1 _

/-- The lines of a block are one item, and the lines behind them are on their own. -/
theorem items_of_block {first last : Line} {inside : List Line}
    (paired : first.command.closing? = some last.command)
    (unmarked : ∀ line ∈ inside, line.marker? = none) :
    ∃ block, ∀ rest : List Line, items ((first :: (inside ++ last :: rest)).map Line.entry) =
      .block block :: items (rest.map Line.entry) := by
  obtain ⟨kind, condition, opens, closes⟩ := (Command.closing?_eq_some_iff _ _).mp paired
  -- The lines inside do not change the kind, so the last line closes what the first one opened.
  obtain ⟨block, same, taken⟩ := itemsInside_plains { kind, condition, line := first.number }
    unmarked
  obtain rfl : block.kind = kind := same
  refine ⟨block, fun rest => ?_⟩
  rw [List.map_cons, List.map_append, List.map_cons, Line.entry, opens, items_opens, taken,
    Line.entry, closes]
  exact itemsInside_closes block last.number _

/-- No block is open behind the lines: whatever opens one is followed by another marker. -/
def Settled (lines : List Line) : Prop :=
  -- An opening that is settled has its closing somewhere below.
  ∀ first ∈ lines, first.command.closing? ≠ none →
    ∃ marker ∈ lines, first.number < marker.number ∧ marker.marker? ≠ none

/-- A line that is not a marker opens no block. -/
theorem closing?_of_unmarked {line : Line} (unmarked : line.marker? = none) :
    line.command.closing? = none := by
  rw [Line.marker?] at unmarked
  -- Only an opening marker asks for a closing one.
  cases same : line.command with
  | opens kind condition => simp [same, Command.marker?] at unmarked
  | _ => rfl

/-- No block is open behind a line that is not a marker. -/
theorem settled_plain {line : Line} (unmarked : line.marker? = none) : Settled [line] := by
  intro first listed opening
  obtain rfl := List.mem_singleton.mp listed
  -- The one line there is opens nothing.
  exact absurd (closing?_of_unmarked unmarked) opening

/-- No block is open behind the closing line of the last one. -/
theorem settled_block {first last : Line} {inside : List Line}
    (ascending : Ascending (first :: (inside ++ [last])))
    (paired : first.command.closing? = some last.command)
    (unmarked : ∀ line ∈ inside, line.marker? = none) : Settled (first :: (inside ++ [last])) := by
  have ends : last ∈ inside ++ [last] := by simp
  intro line listed opening
  -- The first line is the only one that opens a block.
  rcases List.mem_cons.mp listed with rfl | later
  · exact ⟨last, List.mem_cons_of_mem _ ends, (List.pairwise_cons.mp ascending).1 last ends,
      (Command.marker?_of_closing? paired).2⟩
  · rcases List.mem_append.mp later with within | same
    · exact absurd (closing?_of_unmarked (unmarked line within)) opening
    · obtain rfl := List.mem_singleton.mp same
      exact absurd (Command.closing?_of_closing? paired) opening

/-- The blocks of some lines are blocks of more lines. -/
theorem Encloses.append (front : List Line) {rest : List Line}
    (ascending : Ascending (front ++ rest)) {first last : Line}
    (encloses : Encloses rest first last) : Encloses (front ++ rest) first last := by
  have alone : ∀ other ∈ between (front ++ rest) first last, other.marker? = none := by
    intro other listed
    obtain ⟨found, span⟩ := mem_between.mp listed
    rcases List.mem_append.mp found with early | late
    · -- The lines in front come before the opening one.
      have sooner := (List.pairwise_append.mp ascending).2.2 other early first encloses.first_mem
      omega
    · exact encloses.alone other (mem_between.mpr ⟨late, span⟩)
  exact ⟨List.mem_append_right front encloses.first_mem,
    List.mem_append_right front encloses.last_mem, encloses.ordered, encloses.paired, alone⟩

/-- Lines in front, behind which no block is open, do not matter to the blocks of the others. -/
theorem inside_append_iff {front rest : List Line} (ascending : Ascending (front ++ rest))
    (settled : Settled front) {line : Line} (member : line ∈ rest) :
    Inside (front ++ rest) line ↔ Inside rest line := by
  have before : ∀ one ∈ front, ∀ two ∈ rest, one.number < two.number :=
    (List.pairwise_append.mp ascending).2.2
  constructor
  · intro inside
    obtain ⟨first, one, last, two, encloses, within⟩ := inside
    obtain ⟨-, after, ahead⟩ := mem_between.mp within
    -- Both markers of the block stand behind, with nothing new between them.
    have closes : last ∈ rest := by
      rcases List.mem_append.mp two with early | late
      · have sooner := before last early line member
        omega
      · exact late
    have opens : first ∈ rest := by
      rcases List.mem_append.mp one with early | late
      · -- A marker in front would stand between the two lines of the block.
        obtain ⟨marker, listed, later, marked⟩ := settled first early (by simp [encloses.paired])
        have sooner := before marker listed line member
        have apart := encloses.outside (List.mem_append_left rest listed) marked
        omega
      · exact late
    have alone : ∀ other ∈ between rest first last, other.marker? = none := by
      intro other listed
      obtain ⟨found, span⟩ := mem_between.mp listed
      exact encloses.alone other (mem_between.mpr ⟨List.mem_append_right front found, span⟩)
    exact ⟨first, opens, last, closes, ⟨opens, closes, encloses.ordered, encloses.paired, alone⟩,
      mem_between.mpr ⟨member, after, ahead⟩⟩
  · intro inside
    obtain ⟨first, one, last, two, encloses, within⟩ := inside
    obtain ⟨-, after, ahead⟩ := mem_between.mp within
    have wider := encloses.append front ascending
    exact ⟨first, wider.first_mem, last, wider.last_mem, wider,
      mem_between.mpr ⟨List.mem_append_right front member, after, ahead⟩⟩

/-- Lines in front, behind which no block is open, do not matter to what others stand for. -/
theorem filter_topLevel_append {front rest : List Line} (ascending : Ascending (front ++ rest))
    (settled : Settled front) :
    (front ++ rest).filter (TopLevel (front ++ rest) ·) =
      front.filter (TopLevel (front ++ rest) ·) ++ rest.filter (TopLevel rest ·) := by
  rw [List.filter_append]
  congr 1
  -- The lines behind see the same blocks with and without those in front.
  refine List.filter_congr fun line member => decide_eq_decide.mpr ?_
  rw [TopLevel, TopLevel, inside_append_iff ascending settled member]

/-- The first line is not in a block. -/
theorem topLevel_head {line : Line} {rest : List Line} (ascending : Ascending (line :: rest))
    (unmarked : line.marker? = none) : TopLevel (line :: rest) line := by
  refine ⟨unmarked, fun inside => ?_⟩
  -- The opening line of a block around it would have a smaller number.
  obtain ⟨first, listed, last, -, -, within⟩ := inside
  obtain ⟨-, after, -⟩ := mem_between.mp within
  rcases List.mem_cons.mp listed with rfl | other
  · omega
  · have sooner := (List.pairwise_cons.mp ascending).1 first other
    omega

/-- The lines of a block in front do not stand for themselves. -/
theorem not_topLevel_of_block {first last : Line} {inside rest : List Line}
    (ascending : Ascending (first :: (inside ++ last :: rest)))
    (paired : first.command.closing? = some last.command)
    (unmarked : ∀ line ∈ inside, line.marker? = none) :
    ∀ line ∈ first :: (inside ++ [last]), ¬ TopLevel (first :: (inside ++ last :: rest)) line := by
  have encloses := encloses_of_split [] ascending paired unmarked
  have same := (between_eq [] ascending).2
  -- The two ends are markers, and what is between them is inside.
  intro line listed top
  rcases List.mem_cons.mp listed with rfl | later
  · exact encloses.marked.1 top.1
  · rcases List.mem_append.mp later with within | ends
    · refine top.2 ⟨first, encloses.first_mem, last, encloses.last_mem, encloses, ?_⟩
      rw [List.nil_append] at same
      rw [same]
      exact within
    · obtain rfl := List.mem_singleton.mp ends
      exact encloses.marked.2 top.1

/-- Every opening line of a layout has its closing line. -/
theorem Layout.exists_encloses {lines : List Line} (layout : Layout lines)
    (ascending : Ascending lines) {first : Line} (member : first ∈ lines)
    (opening : first.command.closing? ≠ none) : ∃ last, Encloses lines first last := by
  -- The induction is on the layout, and finds the block that the line is the first one of.
  induction layout with
  | nil => exact nomatch member
  | @plain line rest unmarked others ih =>
    rcases List.mem_cons.mp member with rfl | later
    · exact absurd (closing?_of_unmarked unmarked) opening
    · obtain ⟨last, encloses⟩ := ih (List.pairwise_cons.mp ascending).2 later
      exact ⟨last, Encloses.append [line] ascending encloses⟩
  | @block start last inside rest paired unmarked others ih =>
    rcases List.mem_cons.mp member with rfl | later
    · exact ⟨last, encloses_of_split [] ascending paired unmarked⟩
    · rcases List.mem_append.mp later with within | ending
      · exact absurd (closing?_of_unmarked (unmarked first within)) opening
      · rcases List.mem_cons.mp ending with rfl | behind
        · exact absurd (Command.closing?_of_closing? paired) opening
        · -- The lines of the block stand in front of the others.
          have whole : start :: (inside ++ last :: rest) = start :: (inside ++ [last]) ++ rest := by
            simp
          rw [whole] at ascending ⊢
          obtain ⟨final, encloses⟩ := ih (List.pairwise_append.mp ascending).2.1 behind
          exact ⟨final, encloses.append _ ascending⟩

/--
The items of a script, apart from its blocks, are the lines that stand for themselves.

Whatever is asked of the items is asked of these lines, if blocks have no answer to it.
-/
theorem filterMap_items {α : Type} {answer : Item → Option α}
    (skips : ∀ block, answer (.block block) = none) {lines : List Line} (layout : Layout lines)
    (ascending : Ascending lines) :
    (items (lines.map Line.entry)).filterMap answer =
      (lines.filter (TopLevel lines ·)).filterMap fun line =>
        answer (.outside line.number line.command) := by
  -- The induction is on the layout, so a block is taken in one step.
  induction layout with
  | nil => rw [List.map_nil, items_nil]; rfl
  | @plain line rest unmarked others ih =>
    -- The first line is an item of its own, and stands for itself.
    have later := ih (List.pairwise_cons.mp ascending).2
    have apart : (line :: rest).filter (TopLevel (line :: rest) ·) =
        [line].filter (TopLevel (line :: rest) ·) ++ rest.filter (TopLevel rest ·) :=
      filter_topLevel_append ascending (settled_plain unmarked)
    have kept : [line].filter (TopLevel (line :: rest) ·) = [line] :=
      List.filter_eq_self.mpr (by simpa using topLevel_head ascending unmarked)
    have item : items ((line :: rest).map Line.entry) =
        .outside line.number line.command :: items (rest.map Line.entry) :=
      items_plain line.number unmarked _
    rw [item, apart, kept, List.filterMap_cons, later, List.singleton_append, List.filterMap_cons]
  | @block first last inside rest paired unmarked others ih =>
    obtain ⟨block, item⟩ := items_of_block paired unmarked
    rw [item, List.filterMap_cons_none (skips block)]
    have none := not_topLevel_of_block ascending paired unmarked
    -- The lines of the block stand in front of the others.
    have whole : first :: (inside ++ last :: rest) = first :: (inside ++ [last]) ++ rest := by simp
    rw [whole] at ascending none ⊢
    obtain ⟨own, behind, -⟩ := List.pairwise_append.mp ascending
    rw [filter_topLevel_append ascending (settled_block own paired unmarked),
      List.filter_eq_nil_iff.mpr (by simpa using none), List.nil_append, ih behind]

end Plotter.Script
