import Plotter.Canvas.Recording
import Plotter.Proofs.Concatenation
import Plotter.Proofs.Layout

/-! Lines that wait for the end of a script may as well stand there. -/

namespace Plotter

/-- Whether the line is not blank. -/
def Line.isFilled (line : Line) : Bool :=
  -- Blank lines count for the numbers of the others and for nothing else.
  !(Text.trim line.text).isEmpty

namespace Script

/-- The lines of a script with their numbers, blank ones included. -/
def numbered (number : Nat) (lines : List String) : List Line :=
  -- The numbers run on without a gap, over blank lines too.
  (lines.zipIdx number).map fun (text, number) => { number, text }

/-- The line is one of those that are queued or rejected, and so waits for the end. -/
def Waits (written : List Line) (line : Line) : Prop :=
  -- These are the roles that do nothing before the run.
  line ∈ written ∧ (HasRole written line .queued ∨ HasRole written line .rejected)

instance (written : List Line) (line : Line) : Decidable (Waits written line) :=
  -- Roles can be decided, so waiting can.
  inferInstanceAs (Decidable (_ ∧ (_ ∨ _)))

/-- Of the given lines, those that wait among the written ones, or those that do not. -/
def select (waits : Bool) (written given : List Line) : List Line :=
  -- Which lines wait is judged in the whole script, not in the part that is left.
  given.filter fun line => decide (Waits written line) == waits

/-- The lines that are taken where they stand: assignments, whole blocks and blank lines. -/
def immediate (lines : List String) : List String :=
  -- A block stays together, as all its lines have roles of the pass.
  (select false (written 1 lines) (numbered 1 lines)).map Line.text

/-- The lines outside of blocks that are neither assignments nor blank. -/
def waiting (lines : List String) : List String :=
  -- Queued and rejected lines keep their order among each other.
  (select true (written 1 lines) (numbered 1 lines)).map Line.text

/-- The script with all the lines that wait moved to its end, in order. -/
def hoisted (lines : List String) : List String :=
  -- Nothing is lost or added: only the places change.
  immediate lines ++ waiting lines

/-- The script that is hoisted has the same lines. -/
theorem hoisted_perm (lines : List String) : (hoisted lines).Perm lines := by
  have texts : (numbered 1 lines).map Line.text = lines := by
    simp [numbered, Function.comp_def]
  -- Every line passes one of the two opposite tests.
  have both := List.filter_append_perm
    (fun line => decide (Waits (written 1 lines) line) == false) (numbered 1 lines)
  have opposite : (fun line => !(decide (Waits (written 1 lines) line) == false)) =
      fun line => decide (Waits (written 1 lines) line) == true := by
    funext line
    cases decide (Waits (written 1 lines) line) <;> rfl
  rw [opposite] at both
  have moved := both.map Line.text
  rw [List.map_append, texts] at moved
  exact moved

/-- The lines that are not blank are those that count as written. -/
theorem written_eq_filter (number : Nat) (lines : List String) :
    written number lines = (numbered number lines).filter Line.isFilled := by
  induction lines generalizing number with
  | nil => rfl
  | cons text rest ih =>
    have cons : numbered number (text :: rest) = ⟨number, text⟩ :: numbered (number + 1) rest := by
      simp [numbered, List.zipIdx_cons]
    rw [written_cons, cons, List.filter_cons, ih]
    -- A blank line is left out on both sides.
    by_cases blank : (Text.trim text).isEmpty = true
    · simp [Line.isFilled, blank]
    · simp [Line.isFilled, blank]

/-- Under whichever numbers lines stand, they spell the commands that they spell elsewhere. -/
theorem entries_map_text (number : Nat) (lines : List Line) :
    (entries number (lines.map Line.text)).map (Prod.map (fun _ => 0) id) =
      ((lines.filter Line.isFilled).map Line.entry).map (Prod.map (fun _ => 0) id) := by
  -- The induction is on the lines, for every number that the first one can have.
  induction lines generalizing number with
  | nil => rfl
  | cons line rest ih =>
    rw [List.map_cons, entries_cons, List.filter_cons]
    by_cases blank : (Text.trim line.text).isEmpty = true
    · simpa [Line.isFilled, blank] using ih (number + 1)
    · simpa [Line.isFilled, blank, Line.entry, Line.command] using ih (number + 1)

/-- Blank lines make no difference to what is selected of the others. -/
theorem filter_select (waits : Bool) (lines : List String) :
    (select waits (written 1 lines) (numbered 1 lines)).filter Line.isFilled =
      select waits (written 1 lines) (written 1 lines) := by
  have filled := written_eq_filter 1 lines
  generalize written 1 lines = chosen at filled ⊢
  rw [select, select, filled, List.filter_filter, List.filter_filter]
  -- It does not matter which of the two tests comes first.
  exact List.filter_congr fun line _ => Bool.and_comm _ _

/-- A line waits exactly if it stands for itself and is no assignment. -/
theorem waits_iff {written : List Line} {line : Line} (member : line ∈ written) :
    Waits written line ↔ TopLevel written line ∧ Command.assignment? line.text = none := by
  constructor
  · intro waits
    obtain ⟨-, queued | rejected⟩ := waits
    · exact ⟨queued.1, queued.2.1⟩
    · exact ⟨rejected.1, assignment?_of_unrecognized rejected.2⟩
  · intro top
    -- Of such lines, those are rejected that have none of the known forms.
    by_cases unknown : line.command = .unrecognized (Text.trim line.text)
    · exact ⟨member, .inr ⟨top.1, unknown⟩⟩
    · exact ⟨member, .inl ⟨top.1, top.2, unknown⟩⟩

/-- Lines in front, behind which no block is open, do not matter to what is selected behind. -/
theorem select_append (waits : Bool) {front rest : List Line}
    (ascending : Ascending (front ++ rest)) (settled : Settled front) :
    select waits (front ++ rest) (front ++ rest) =
      select waits (front ++ rest) front ++ select waits rest rest := by
  rw [select, List.filter_append]
  refine congrArg (select waits (front ++ rest) front ++ ·) ?_
  refine List.filter_congr fun line member => ?_
  -- The lines behind see the same blocks with and without those in front.
  have same : Waits (front ++ rest) line ↔ Waits rest line := by
    rw [waits_iff (List.mem_append_right front member), waits_iff member, TopLevel, TopLevel,
      inside_append_iff ascending settled member]
  rw [decide_eq_decide.mpr same]

end Script

namespace Item

/-- Whether an item waits for the end of the script, to be carried out or reported there. -/
def waits : Item → Bool
  -- A fault stops the pass where it stands, so it cannot be put off.
  | queued _ | rejected _ _ => true
  | assignment _ _ | block _ | fault _ => false

/-- The item of a line outside of blocks waits unless the line is an assignment. -/
theorem waits_outside (line : Line) :
    (outside line.number line.command).waits = (Command.assignment? line.text).isNone := by
  -- Outside a block only an assignment is carried out at once.
  rw [Script.assignment?_eq]
  cases line.command <;> rfl

/-- An item that waits does nothing at once. -/
theorem atOnce_of_waits {κ : Type} [Canvas κ] {item : Item} (waits : item.waits = true)
    (settings : Settings) (fuel : Nat) : (item.atOnce settings fuel : Action κ Unit) = pure () := by
  -- Items that wait have nothing to do at once, and the others are excluded.
  cases item with
  | queued _ | rejected _ _ => rfl
  | assignment _ _ | block _ | fault _ => cases waits

/-- What only items that wait leave to be done is left in the same order when these come last. -/
theorem filterMap_waits {α : Type} {answer : Item → Option α}
    (only : ∀ item, item.waits = false → answer item = none) (items : List Item) :
    ((items.filter fun item => item.waits == false) ++
        items.filter fun item => item.waits == true).filterMap answer =
      items.filterMap answer := by
  have front : (items.filter fun item => item.waits == false).filterMap answer = [] := by
    refine List.filterMap_eq_nil_iff.mpr fun item member => only item ?_
    simpa using (List.mem_filter.mp member).2
  rw [List.filterMap_append, front, List.nil_append, List.filterMap_filter]
  -- An item that does not wait has no answer in any case.
  congr 1
  funext item
  cases waits : item.waits with
  | true => rfl
  | false => exact (only item waits).symm

end Item

namespace Script

/-- The lines that wait make the items that wait, and the others make the other items. -/
theorem items_select (waits : Bool) {lines : List Line} (layout : Layout lines)
    (ascending : Ascending lines) :
    items ((select waits lines lines).map Line.entry) =
      (items (lines.map Line.entry)).filter fun item => item.waits == waits := by
  -- The induction is on the layout, so a block is taken in one step.
  induction layout with
  | nil => simp [select]
  | @plain line rest unmarked others ih =>
    have later := ih (List.pairwise_cons.mp ascending).2
    have apart : select waits (line :: rest) (line :: rest) =
        select waits (line :: rest) [line] ++ select waits rest rest :=
      select_append waits ascending (settled_plain unmarked)
    -- The first line stands for itself, so its item waits if it does.
    have first : decide (Waits (line :: rest) line) =
        (Item.outside line.number line.command).waits := by
      have top := topLevel_head ascending unmarked
      rw [Item.waits_outside, Bool.eq_iff_iff, decide_eq_true_iff, Option.isNone_iff_eq_none,
        waits_iff List.mem_cons_self, and_iff_right top]
    have item : items ((line :: rest).map Line.entry) =
        .outside line.number line.command :: items (rest.map Line.entry) :=
      items_plain line.number unmarked _
    rw [apart, item, List.filter_cons, ← later]
    simp only [select, List.filter_cons, List.filter_nil, first]
    by_cases kept : ((Item.outside line.number line.command).waits == waits) = true
    · rw [if_pos kept, if_pos kept, List.singleton_append, List.map_cons]
      exact items_plain line.number unmarked _
    · rw [if_neg kept, if_neg kept, List.nil_append]
  | @block first last inside rest paired unmarked others ih =>
    obtain ⟨block, item⟩ := items_of_block paired unmarked
    -- No line of a block stands for itself, so none of them waits.
    have none : ∀ line ∈ first :: (inside ++ [last]),
        ¬ Waits (first :: (inside ++ last :: rest)) line := by
      intro line listed waits
      have top := ((waits_iff waits.1).mp waits).1
      exact not_topLevel_of_block ascending paired unmarked line listed top
    have whole : first :: (inside ++ last :: rest) = first :: (inside ++ [last]) ++ rest := by simp
    rw [item, whole]
    rw [whole] at ascending none
    obtain ⟨own, behind, -⟩ := List.pairwise_append.mp ascending
    have later := ih behind
    rw [select_append waits ascending (settled_block own paired unmarked), List.filter_cons,
      ← later]
    cases waits with
    | true =>
      -- Neither the lines nor their item are among those that wait.
      have left : select true (first :: (inside ++ [last]) ++ rest) (first :: (inside ++ [last])) =
          [] := List.filter_eq_nil_iff.mpr (by simpa using none)
      rw [left, List.nil_append]
      rfl
    | false =>
      -- All lines of the block stay together in front of the others.
      have kept : select false (first :: (inside ++ [last]) ++ rest) (first :: (inside ++ [last])) =
          first :: (inside ++ [last]) := List.filter_eq_self.mpr (by simpa using none)
      rw [kept, List.cons_append, List.append_assoc, List.singleton_append, item]
      rfl

/-- The numbers of the lines aside, the lines that do not wait make the items that do not. -/
theorem items_immediate {lines : List String} (layout : Layout (written 1 lines)) :
    (items (entries 1 (immediate lines))).map (Item.renumber fun _ => 0) =
      ((items (entries 1 lines)).filter fun item => item.waits == false).map
        (Item.renumber fun _ => 0) := by
  -- Line numbers are the only thing that leaving the waiting lines out can change.
  rw [← (items_renumber _ _).1, immediate, entries_map_text, filter_select,
    (items_renumber _ _).1, items_select false layout (ascending_written 1 lines),
    ← entries_eq_map]

/-- The numbers of the lines aside, the items that wait come last in a script that is hoisted. -/
theorem items_hoisted {lines : List String} (layout : Layout (written 1 lines))
    (faultless : ∀ error, .fault error ∉ items (entries 1 lines)) :
    (items (entries 1 (hoisted lines))).map (Item.renumber fun _ => 0) =
      (((items (entries 1 lines)).filter fun item => item.waits == false) ++
        (items (entries 1 lines)).filter fun item => item.waits == true).map
          (Item.renumber fun _ => 0) := by
  have ascending := ascending_written 1 lines
  have front := items_select false layout ascending
  have back := items_select true layout ascending
  rw [← entries_eq_map] at front back
  -- The lines in front have no fault, so those behind are on their own.
  have sound : ∀ error, .fault error ∉
      items ((select false (written 1 lines) (written 1 lines)).map Line.entry) := by
    intro error member
    rw [front] at member
    exact faultless error (List.mem_of_mem_filter member)
  rw [← (items_renumber _ _).1, hoisted, immediate, waiting, ← List.map_append, entries_map_text,
    List.filter_append, filter_select, filter_select, (items_renumber _ _).1, List.map_append,
    (items_append _ _).1 sound, front, back]

end Script

namespace Batch

/-- What a batch holds, without the numbers of the rejected lines. -/
def contents (batch : Batch) : List Command × List String :=
  -- The numbers are left out, and the order is kept.
  (batch.queued.toList, batch.rejected.toList.map Prod.snd)

/-- Other numbers do not change what a batch holds. -/
theorem contents_renumber (change : Nat → Nat) (batch : Batch) :
    (batch.renumber change).contents = batch.contents := by
  -- Numbering on touches the numbers of the rejected lines alone.
  simp [contents, renumber, Function.comp_def]

/-- Items leave the same to be done when those that wait come last. -/
theorem extend_waits (batch : Batch) (items : List Item) :
    batch.extend ((items.filter fun item => item.waits == false) ++
        items.filter fun item => item.waits == true) =
      batch.extend items := by
  -- Whatever is left to be done comes from an item that waits.
  have nothing : ∀ item : Item, item.waits = false →
      item.queued? = none ∧ item.rejected? = none := by
    intro item waits
    cases item with
    | queued _ | rejected _ _ => cases waits
    | assignment _ _ | block _ | fault _ => exact ⟨rfl, rfl⟩
  rw [extend, extend, Item.filterMap_waits fun item waits => (nothing item waits).1,
    Item.filterMap_waits fun item waits => (nothing item waits).2]

end Batch

namespace Action

variable {κ : Type}

/-- The two end in the same way and leave the same session, if numbers of lines do not count. -/
def SameButNumbers (first second : Except Halt Batch × Session κ) : Prop :=
  -- The sessions have to be equal outright, as no line number ever gets there.
  first.1.map Batch.contents = second.1.map Batch.contents ∧ first.2 = second.2

/-- How a pass ends and the session it leaves, whichever batch it gives. -/
def withoutBatch (pass : Except Halt Batch × Session κ) : Except Halt Unit × Session κ :=
  -- What is left is whether the pass stopped, why, and where the session stands.
  (pass.1.map fun _ => (), pass.2)

/-- Without their batches, passes that are the same but for numbers are the same. -/
theorem SameButNumbers.withoutBatch_eq {first second : Except Halt Batch × Session κ}
    (same : SameButNumbers first second) : withoutBatch first = withoutBatch second := by
  -- An error is its own content, and a batch is forgotten anyway.
  rcases first with ⟨halt | batch, after⟩
  · rcases second with ⟨reason | given, left⟩
    · exact Prod.ext (congrArg Except.error (Except.error.inj same.1)) same.2
    · exact nomatch same.1
  · rcases second with ⟨reason | given, left⟩
    · exact nomatch same.1
    · exact Prod.ext rfl same.2

variable [Canvas κ]

/-- Without its batch, a pass over items that have no fault is what they do at once. -/
theorem withoutBatch_carryOut (settings : Settings) (fuel : Nat) {items : List Item}
    (faultless : ∀ error, .fault error ∉ items) (session : Session κ) :
    withoutBatch (outcome (carryOut settings fuel {} items) session) =
      outcome (items.forM (Item.atOnce settings fuel)) session := by
  rw [outcome_carryOut, (Item.findSome?_fault?_eq_none items).mpr faultless]
  -- Without a fault, carrying out is doing what the items do at once.
  rcases outcome (items.forM (Item.atOnce settings fuel)) session with ⟨halt | ⟨⟩, after⟩
  · rfl
  · rfl

/-- Items do the same at once without those that wait. -/
theorem outcome_forM_filter (settings : Settings) (fuel : Nat) (items : List Item)
    (session : Session κ) :
    outcome ((items.filter fun item => item.waits == false).forM (Item.atOnce settings fuel))
        session =
      outcome (items.forM (Item.atOnce settings fuel)) session := by
  -- The induction is on the items, for every session that they can start from.
  induction items generalizing session with
  | nil => rfl
  | cons item rest ih =>
    cases waits : item.waits with
    | false =>
      rw [List.filter_cons_of_pos (by simp [waits]),
        outcome_forM_cons (atOnce_logBlind settings fuel),
        outcome_forM_cons (atOnce_logBlind settings fuel)]
      simp only [ih]
    | true =>
      rw [List.filter_cons_of_neg (by simp [waits]), ih,
        outcome_forM_cons (atOnce_logBlind settings fuel), Item.atOnce_of_waits waits]
      rfl

/-- Items that all wait do nothing at once. -/
theorem outcome_forM_waits (settings : Settings) (fuel : Nat) (items : List Item)
    (session : Session κ) :
    outcome ((items.filter fun item => item.waits == true).forM (Item.atOnce settings fuel))
        session = (.ok (), session) := by
  -- Without those that wait, nothing is left of them.
  have none : ((items.filter fun item => item.waits == true).filter fun item =>
      item.waits == false) = [] := by
    simp [List.filter_filter]
  rw [← outcome_forM_filter, none]
  rfl

/-- Items without a fault do the same when those that wait come last. -/
theorem outcome_carryOut_waits (settings : Settings) (fuel : Nat) {items : List Item}
    (faultless : ∀ error, .fault error ∉ items) (session : Session κ) :
    outcome (carryOut settings fuel {} ((items.filter fun item => item.waits == false) ++
        items.filter fun item => item.waits == true)) session =
      outcome (carryOut settings fuel {} items) session := by
  have sound : ∀ error, .fault error ∉ (items.filter fun item => item.waits == false) ++
      items.filter fun item => item.waits == true := by
    intro error member
    rcases List.mem_append.mp member with early | late
    · exact faultless error (List.mem_of_mem_filter early)
    · exact faultless error (List.mem_of_mem_filter late)
  rw [outcome_carryOut, outcome_carryOut, (Item.findSome?_fault?_eq_none _).mpr sound,
    (Item.findSome?_fault?_eq_none _).mpr faultless, Batch.extend_waits,
    outcome_forM_append (atOnce_logBlind settings fuel), outcome_forM_filter]
  -- The items that wait are reached last, and change nothing.
  rcases outcome (items.forM (Item.atOnce settings fuel)) session with ⟨halt | ⟨⟩, after⟩
  · rfl
  · rw [follow_ok, outcome_forM_waits]

/-- Items that differ in their numbers alone are carried out in the same way. -/
theorem sameButNumbers_carryOut (settings : Settings) (fuel : Nat) {items others : List Item}
    (same : items.map (Item.renumber fun _ => 0) = others.map (Item.renumber fun _ => 0))
    (faultless : ∀ error, .fault error ∉ others) (session : Session κ) :
    SameButNumbers (outcome (carryOut settings fuel {} items) session)
      (outcome (carryOut settings fuel {} others) session) := by
  -- What they do at once is the same, as it does not depend on numbers.
  have performed : (items.forM (Item.atOnce settings fuel) : Action κ Unit) =
      others.forM (Item.atOnce settings fuel) := by
    rw [← forM_atOnce_renumber fun _ => 0, same, forM_atOnce_renumber]
  have none := (Item.findSome?_fault?_eq_none others).mpr faultless
  have sound : items.findSome? Item.fault? = Option.none := by
    have found := Item.findSome?_fault?_renumber (fun _ => 0) items
    rw [same, Item.findSome?_fault?_renumber, none, Option.map_none] at found
    exact Option.map_eq_none_iff.mp found.symm
  have held : (Batch.extend {} items).contents = (Batch.extend {} others).contents := by
    rw [← Batch.contents_renumber fun _ => 0, ← Batch.extend_renumber, same,
      Batch.extend_renumber, Batch.contents_renumber]
  rw [outcome_carryOut, outcome_carryOut, performed, none, sound]
  rcases outcome (others.forM (Item.atOnce settings fuel)) session with ⟨halt | ⟨⟩, after⟩
  · exact ⟨rfl, rfl⟩
  · exact ⟨congrArg Except.ok held, rfl⟩

/-- Runs are the same but for numbers if their passes are. -/
theorem SameButNumbers.runScript {settings : Settings} {fuel : Nat} {lines others : List String}
    {session : Session κ}
    (passes : SameButNumbers (outcome (validate settings fuel lines) session)
      (outcome (validate settings fuel others) session)) :
    SameButNumbers (outcome (runScript settings fuel lines) session)
      (outcome (runScript settings fuel others) session) := by
  rw [outcome_runScript, outcome_runScript]
  generalize outcome (validate settings fuel lines) session = pass at passes ⊢
  generalize outcome (validate settings fuel others) session = other at passes ⊢
  rcases pass with ⟨halt | batch, after⟩
  · rcases other with ⟨reason | given, left⟩
    · exact passes
    · exact nomatch passes.1
  · rcases other with ⟨reason | given, left⟩
    · exact nomatch passes.1
    · -- The batches hold the same, so the queue runs for both or for neither.
      obtain ⟨held, rfl⟩ := passes
      have contents : batch.contents = given.contents := Except.ok.inj held
      obtain ⟨queue, texts⟩ := Prod.mk.inj contents
      have valid : batch.isValid = given.isValid := by
        have lengths := congrArg List.length texts
        simp only [List.length_map, Array.length_toList] at lengths
        simp [Batch.isValid, Array.isEmpty, lengths]
      simp only [follow_ok, valid, queue]
      split
      · rcases outcome (executeAll settings given.queued.toList) _ with ⟨halt | ⟨⟩, last⟩
        · exact ⟨rfl, rfl⟩
        · exact ⟨held, rfl⟩
      · exact ⟨held, rfl⟩

/--
Lines that wait for the end of a script may as well stand there.

In a script whose blocks are opened and closed one after the other, let all the lines outside of
blocks that are neither assignments nor blank move to the end, in order. The script has the same
lines as before, and its run ends in the same way and leaves the same session, with the same queue
and the same rejected lines under other numbers. These lines have no part in what the others do: a
pass over the others alone stops for the same reason, if at all, and leaves the same session.
-/
theorem hoisting_changes_numbers_only (settings : Settings) (fuel : Nat) (lines : List String)
    (session : Session κ) (bracketed : Bracketed (Script.markers (Script.entries 1 lines))) :
    (Script.hoisted lines).Perm lines ∧
    SameButNumbers (outcome (runScript settings fuel (Script.hoisted lines)) session)
      (outcome (runScript settings fuel lines) session) ∧
    withoutBatch (outcome (validate settings fuel (Script.immediate lines)) session) =
      withoutBatch (outcome (validate settings fuel lines) session) := by
  have faultless := (Script.items_faultless_iff _).mpr bracketed
  rw [Script.entries_eq_map, Script.markers, List.filterMap_map] at bracketed
  have layout := Script.layout_of_bracketed bracketed
  have kept : ∀ waits error, .fault error ∉
      (Script.items (Script.entries 1 lines)).filter fun item => item.waits == waits := by
    intro waits error member
    exact faultless error (List.mem_of_mem_filter member)
  refine ⟨Script.hoisted_perm lines, SameButNumbers.runScript ?_, ?_⟩
  · -- The items that wait come last, which changes nothing.
    rw [outcome_validate, outcome_validate, ← outcome_carryOut_waits settings fuel faultless]
    refine sameButNumbers_carryOut settings fuel (Script.items_hoisted layout faultless) ?_ session
    intro error member
    rcases List.mem_append.mp member with early | late
    · exact kept false error early
    · exact kept true error late
  · -- The other items are those that do something at once, and do it on their own as well.
    have same := sameButNumbers_carryOut settings fuel (Script.items_immediate layout)
      (kept false) session
    rw [outcome_validate, same.withoutBatch_eq, withoutBatch_carryOut settings fuel (kept false),
      outcome_forM_filter, outcome_validate, withoutBatch_carryOut settings fuel faultless]

/-- The unknown line and the two that need `x` move behind the loop, where the run ends alike. -/
theorem hoisting_changes_numbers_only_loop :
    let lines := ["circle x", "x = 1", "jump", "while x < 3", "x = x + 1", "endwhile", "x = x * 5"]
    let after := ["x = 1", "while x < 3", "x = x + 1", "endwhile", "circle x", "jump", "x = x * 5"]
    let session : Session Recording := Session.start {} {}
    Bracketed (Script.markers (Script.entries 1 lines)) ∧
    Script.hoisted lines = after ∧
    SameButNumbers (outcome (runScript {} 9 after) session)
      (outcome (runScript {} 9 lines) session) := by
  intro lines after session
  -- The only markers are those of the one loop.
  have markers : Script.markers (Script.entries 1 lines) = [.opening .loop, .closing .loop] := by
    decide +kernel
  have bracketed : Bracketed (Script.markers (Script.entries 1 lines)) := by
    rw [markers]
    exact .block .loop .nil
  have hoisted : Script.hoisted lines = after := by decide +kernel
  have same := (hoisting_changes_numbers_only {} 9 lines session bracketed).2.1
  rw [hoisted] at same
  exact ⟨bracketed, hoisted, same⟩

end Action

end Plotter
