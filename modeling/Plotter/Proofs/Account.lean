import Plotter.Canvas.Recording
import Plotter.Proofs.Layout
import Plotter.Proofs.Pass
import Plotter.Proofs.Recognition

/-! A pass over a script accounts for every line that is not blank, each of them in one way. -/

namespace Plotter

open Plotter.Action

/-- The block that is open behind a line, where another one may be open in front of it. -/
def Line.turn (line : Line) (opened : Option Block) : Option Block :=
  -- An opening marker drops a block that still stood open: a pass that accepts it has none open.
  match line.command with
  | .opens kind condition => some { kind, condition, line := line.number }
  | .closes _ => none
  | command => opened.map (·.push command)

/-- A line that is not a marker is added to the block that is open. -/
theorem Line.turn_plain {line : Line} (unmarked : line.marker? = none) (opened : Option Block) :
    line.turn opened = opened.map (·.push line.command) := by
  rw [marker?] at unmarked
  unfold turn
  -- The two commands that turn a block on or off are markers.
  cases same : line.command with
  | opens kind condition => simp [same, Command.marker?] at unmarked
  | closes kind => simp [same, Command.marker?] at unmarked
  | _ => rfl

/-- A line that opens a block leaves it open and empty. -/
theorem Line.turn_opens {line : Line} {kind : BlockKind} {condition : String}
    (opens : line.command = .opens kind condition) (opened : Option Block) :
    line.turn opened = some { kind, condition, line := line.number } := by
  -- The block that was open before has no say.
  simp only [turn, opens]

/-- A line that closes a block leaves none open. -/
theorem Line.turn_closes {line : Line} {kind : BlockKind} (closes : line.command = .closes kind)
    (opened : Option Block) : line.turn opened = none := by
  -- Whatever the kind is, no block is open behind a closing marker.
  simp only [turn, closes]

namespace Script

/-- The block that is open behind some lines. -/
def openBlock (lines : List Line) : Option Block :=
  -- The pass folds over its lines in the same order, from a start with no open block.
  lines.foldl (fun opened line => line.turn opened) none

/-- Lines that are not markers are added to the block that is open, in order. -/
theorem foldl_turn_plain {inside : List Line} (unmarked : ∀ line ∈ inside, line.marker? = none)
    (block : Block) :
    inside.foldl (fun opened line => line.turn opened) (some block) =
      some { block with body := block.body ++ (inside.map Line.command).toArray } := by
  -- The induction is on the lines, for every block that they are added to.
  induction inside generalizing block with
  | nil => simp
  | cons line rest ih =>
    rw [List.forall_mem_cons] at unmarked
    rw [List.foldl_cons, Line.turn_plain unmarked.1, Option.map_some, ih unmarked.2]
    simp [Block.push]

/-- A block is open exactly if its opening line is the last marker, and it holds what follows. -/
theorem openBlock_eq_some_iff (lines : List Line) (block : Block) :
    openBlock lines = some block ↔
      ∃ front first inside, lines = front ++ first :: inside ∧
        (∀ line ∈ inside, line.marker? = none) ∧
        first.command = .opens block.kind block.condition ∧ first.number = block.line ∧
        block.body = (inside.map Line.command).toArray := by
  constructor
  · intro opened
    -- The induction takes the lines from the last one on.
    induction lines using List.reverseRecOn generalizing block with
    | nil => exact nomatch opened
    | append_singleton front line ih =>
      rw [openBlock, List.foldl_concat] at opened
      cases same : line.command with
      | opens kind condition =>
        rw [Line.turn_opens same] at opened
        obtain rfl := Option.some.inj opened
        exact ⟨front, line, [], rfl, by simp, same, rfl, rfl⟩
      | closes kind =>
        rw [Line.turn_closes same] at opened
        exact nomatch opened
      | _ =>
        have unmarked : line.marker? = none := by rw [Line.marker?, same]; rfl
        rw [Line.turn_plain unmarked] at opened
        obtain ⟨earlier, found, rfl⟩ := Option.map_eq_some_iff.mp opened
        obtain ⟨before, first, inside, rfl, plain, opens, number, body⟩ := ih earlier found
        refine ⟨before, first, inside ++ [line], by simp, ?_, opens, number, ?_⟩
        · intro other listed
          rcases List.mem_append.mp listed with within | last
          · exact plain other within
          · rw [List.mem_singleton.mp last, unmarked]
        · simp [Block.push, body]
  · intro split
    obtain ⟨front, first, inside, rfl, unmarked, opens, number, body⟩ := split
    rw [openBlock, List.foldl_append, List.foldl_cons, Line.turn_opens opens,
      foldl_turn_plain unmarked]
    simp [number, ← body]

/-- A line that is kept as it is, is kept without the blanks around it. -/
theorem kept_eq_trim {line : Line} {kept : String}
    (unrecognized : line.command = .unrecognized kept) : kept = Text.trim line.text := by
  obtain ⟨same, -⟩ := (Command.ofLine_eq_iff line.text (.unrecognized kept)).mp unrecognized
  -- The grammar keeps exactly the characters that trimming leaves.
  rw [Text.trim, ← same, String.ofList_toList]

/-- Of the lines that stand for themselves, those wait in the queue that have the role. -/
theorem queued?_outside {lines : List Line} {line : Line} (top : TopLevel lines line) :
    Item.queued? (.outside line.number line.command) =
      if HasRole lines line .queued then some line.command else none := by
  -- Assignments are made at once, and lines that are kept as they are get rejected.
  cases same : line.command with
  | assign name value =>
    have other : ¬ HasRole lines line .queued := by
      intro has
      obtain ⟨-, none, -⟩ := has
      rw [assignment?_eq, same] at none
      exact nomatch none
    rw [if_neg other]
    rfl
  | unrecognized kept =>
    have other : ¬ HasRole lines line .queued := fun has =>
      has.2.2 (by rw [same, kept_eq_trim same])
    rw [if_neg other]
    rfl
  | _ =>
    -- All other commands wait.
    rw [if_pos ⟨top, by rw [assignment?_eq, same], by simp [same]⟩]
    rfl

/-- Of the lines that stand for themselves, those are rejected that have the role. -/
theorem rejected?_outside {lines : List Line} {line : Line} (top : TopLevel lines line) :
    Item.rejected? (.outside line.number line.command) =
      if HasRole lines line .rejected then some (line.number, Text.trim line.text) else none := by
  -- Only a line that is kept as it is can have the role.
  cases same : line.command with
  | unrecognized kept =>
    rw [if_pos ⟨top, by rw [same, kept_eq_trim same]⟩, ← kept_eq_trim same]
    rfl
  | _ =>
    have other : ¬ HasRole lines line .rejected := by
      intro has
      obtain ⟨-, unrecognized⟩ := has
      rw [same] at unrecognized
      exact nomatch unrecognized
    rw [if_neg other]
    rfl

/-- The answers of the lines that stand for themselves are those of the lines with a role. -/
theorem filterMap_topLevel {α : Type} {lines : List Line} {role : Role} {answer : Line → Option α}
    {shown : Line → α} (stands : ∀ line, HasRole lines line role → TopLevel lines line)
    (answers : ∀ line, TopLevel lines line →
      answer line = if HasRole lines line role then some (shown line) else none) :
    (lines.filter (TopLevel lines ·)).filterMap answer =
      (lines.filter (HasRole lines · role)).map shown := by
  -- Both sides ask every line in turn, and leave the same ones out.
  rw [← List.filterMap_eq_map, List.filterMap_filter, List.filterMap_filter]
  refine List.filterMap_congr fun line _ => ?_
  by_cases top : TopLevel lines line
  · simp [top, answers line top]
  · have other : ¬ HasRole lines line role := fun has => top (stands line has)
    simp [top, other]

/-- No block is open in front of a line that stands for itself. -/
theorem openBlock_of_topLevel {before after : List Line} {line : Line}
    (layout : Layout (before ++ line :: after)) (ascending : Ascending (before ++ line :: after))
    (top : TopLevel (before ++ line :: after) line) : openBlock before = none := by
  refine Option.eq_none_iff_forall_ne_some.mpr fun block opened => ?_
  -- Suppose that a block was open: its opening line is the last marker in front.
  obtain ⟨front, first, inside, rfl, unmarked, opens, -, -⟩ :=
    (openBlock_eq_some_iff before block).mp opened
  have opening : first.command.closing? ≠ none := by simp [opens, Command.closing?]
  obtain ⟨last, encloses⟩ := layout.exists_encloses ascending (by simp) opening
  have whole : front ++ first :: inside ++ line :: after =
      front ++ first :: (inside ++ line :: after) := by simp
  rw [whole] at ascending top encloses
  obtain ⟨behind, inner⟩ := between_eq front ascending
  have listed : line ∈ front ++ first :: (inside ++ line :: after) := by simp
  -- The block that is open is closed behind the line, or else by it or in front of it.
  rcases Nat.lt_trichotomy line.number last.number with later | same | sooner
  · have between := mem_between.mpr ⟨listed, behind, later⟩
    exact top.2 ⟨first, encloses.first_mem, last, encloses.last_mem, encloses, between⟩
  · obtain rfl := ascending.eq_of_number listed encloses.last_mem same
    exact encloses.marked.2 top.1
  · have within : last ∈ inside := by
      rw [← inner]
      exact mem_between.mpr ⟨encloses.last_mem, encloses.ordered, sooner⟩
    exact encloses.marked.2 (unmarked last within)

end Script

/-- What a line that is not blank can do to a pass that takes it. -/
inductive Pass.Takes (number : Nat) (command : Command) (pass : Pass) : Pass → Prop
  /-- Outside of blocks, a line that is not a marker is an item of its own. -/
  | outside (opened : pass.opened = none) (plain : command.marker? = none) :
      Takes number command pass { batch := pass.batch.extend [.outside number command] }
  /-- Outside of blocks, an opening line opens one. -/
  | opens {kind : BlockKind} {condition : String} (opened : pass.opened = none)
      (opening : command = .opens kind condition) :
      Takes number command pass
        { batch := pass.batch, opened := some { kind, condition, line := number } }
  /-- Inside a block, a line that is not a marker is added to it. -/
  | inside {block : Block} (opened : pass.opened = some block) (plain : command.marker? = none) :
      Takes number command pass { batch := pass.batch, opened := some (block.push command) }
  /-- Inside a block, the closing line of its kind ends it. -/
  | closes {block : Block} (opened : pass.opened = some block)
      (closing : command = .closes block.kind) : Takes number command pass { batch := pass.batch }

namespace Action

variable {κ : Type} [Canvas κ] {settings : Settings} {fuel : Nat}

/-- A line that is not blank is taken by its command, outside of blocks or inside the open one. -/
theorem outcome_takeLine {line : Line} (filled : (Text.trim line.text).isEmpty = false)
    (pass : Pass) (session : Session κ) :
    outcome (takeLine settings fuel line.number line.text pass) session =
      match pass.opened with
      | none => outcome (takeOutside line.number pass.batch line.command) session
      | some block => outcome (takeInside settings fuel pass.batch block line.command) session := by
  rw [takeLine, if_neg (by simp [filled])]
  -- Recognizing a line only leaves a trace in the log.
  cases pass.opened with
  | none =>
    rw [outcome_bind (takeOutside_logBlind line.number pass.batch), outcome_recognize, follow_ok]
    rfl
  | some block =>
    rw [outcome_bind (takeInside_logBlind settings fuel pass.batch block), outcome_recognize,
      follow_ok]
    rfl

/-- Whatever line is taken does one of four things to the pass, and the log has no part in it. -/
theorem takes_of_takeLine {line : Line} (filled : (Text.trim line.text).isEmpty = false)
    {pass next : Pass} {session after : Session κ}
    (taken : outcome (takeLine settings fuel line.number line.text pass) session =
      (.ok next, after)) : Pass.Takes line.number line.command pass next := by
  rw [outcome_takeLine filled] at taken
  -- The cases are those of the pass: whether a block is open, and then what the line is.
  cases opened : pass.opened with
  | none =>
    simp only [opened] at taken
    cases marked : line.command.marker? with
    | none =>
      rw [outcome_takeOutside_plain line.number pass.batch marked settings fuel,
        follow_eq_ok_iff] at taken
      obtain ⟨_, middle, -, same⟩ := taken
      simp only [Prod.mk.injEq, Except.ok.injEq] at same
      exact same.1 ▸ .outside opened marked
    | some marker =>
      obtain ⟨kind, condition, opening, -⟩ | ⟨kind, closing, -⟩ := Command.marker?_eq_some marked
      · rw [opening, takeOutside, outcome_pure] at taken
        simp only [Prod.mk.injEq, Except.ok.injEq] at taken
        exact taken.1 ▸ .opens opened opening
      · -- There is no block that the line could close.
        rw [closing, takeOutside, outcome_fail] at taken
        cases taken
  | some block =>
    simp only [opened] at taken
    by_cases closing : line.command = .closes block.kind
    · rw [closing, outcome_takeInside_closes, follow_eq_ok_iff] at taken
      obtain ⟨_, middle, -, same⟩ := taken
      simp only [Prod.mk.injEq, Except.ok.injEq] at same
      exact same.1 ▸ .closes opened closing
    · rw [takeInside, if_neg closing] at taken
      cases marked : line.command.marker? with
      | none =>
        simp only [marked, outcome_pure, Prod.mk.injEq, Except.ok.injEq] at taken
        exact taken.1 ▸ .inside opened marked
      | some marker =>
        -- Any other marker stops the pass.
        simp only [marked, outcome_fail] at taken
        cases taken

/-- A line that is taken leaves the block open that its command says. -/
theorem opened_of_takeLine {line : Line} (filled : (Text.trim line.text).isEmpty = false)
    {pass next : Pass} {session after : Session κ}
    (taken : outcome (takeLine settings fuel line.number line.text pass) session =
      (.ok next, after)) : next.opened = line.turn pass.opened := by
  -- Each of the four roles of a line leaves the open block that its turn describes.
  cases takes_of_takeLine filled taken with
  | outside opened plain =>
    rw [Line.turn_plain plain, opened]
    rfl
  | opens opened opening => rw [opened, Line.turn_opens opening]
  | inside opened plain =>
    rw [Line.turn_plain plain, opened]
    rfl
  | closes opened closing => rw [opened, Line.turn_closes closing]

/-- Lines that are taken leave the block open that their commands say. -/
theorem opened_of_takeLines {number : Nat} {lines : List String} {pass next : Pass}
    {session after : Session κ}
    (taken : outcome (takeLines settings fuel number lines pass) session = (.ok next, after)) :
    next.opened = (Script.written number lines).foldl (fun opened line => line.turn opened)
      pass.opened := by
  -- The induction is on the lines, for every pass that can have come so far.
  induction lines generalizing number pass session with
  | nil =>
    rw [takeLines, outcome_pure] at taken
    simp only [Prod.mk.injEq, Except.ok.injEq] at taken
    rw [← taken.1]
    rfl
  | cons text rest ih =>
    rw [outcome_takeLines_cons, follow_eq_ok_iff] at taken
    obtain ⟨middle, between, first, later⟩ := taken
    rw [Script.written_cons, ih later]
    -- A blank line leaves the pass as it is.
    by_cases blank : (Text.trim text).isEmpty = true
    · rw [takeLine, if_pos blank, outcome_pure] at first
      simp only [Prod.mk.injEq, Except.ok.injEq] at first
      rw [if_pos blank, first.1]
    · rw [if_neg blank, List.foldl_cons]
      have filled : (Text.trim (Line.mk number text).text).isEmpty = false := by simpa using blank
      rw [opened_of_takeLine filled first]

/-- A pass over the lines comes to the line with what it has taken so far. -/
def Reaches (settings : Settings) (fuel : Nat) (lines : List String) (session : Session κ)
    (line : Line) (pass : Pass) (middle : Session κ) : Prop :=
  -- The lines above are taken one by one, so the pass is already at the line when it is met.
  ∃ before after, lines = before ++ line.text :: after ∧ line.number = before.length + 1 ∧
    outcome (takeLines settings fuel 1 before {}) session = (.ok pass, middle)

/-- A pass over the lines runs the block when it comes to the line. -/
def RunsBlock (settings : Settings) (fuel : Nat) (lines : List String) (session : Session κ)
    (line : Line) (block : Block) : Prop :=
  ∃ pass middle, Reaches settings fuel lines session line pass middle ∧
    -- The block is the one that is open, and the line closes it.
    pass.opened = some block ∧ line.command = .closes block.kind ∧
    outcome (takeLine settings fuel line.number line.text pass) middle =
      follow (outcome (runBlock settings fuel block) middle) fun _ left =>
        (.ok { batch := pass.batch }, left)

/-- A pass over the lines makes the assignment when it comes to the line. -/
def Assigns (settings : Settings) (fuel : Nat) (lines : List String) (session : Session κ)
    (line : Line) (name : String) (value : Number) : Prop :=
  ∃ pass middle, Reaches settings fuel lines session line pass middle ∧
    -- Taking the line comes down to the assignment: nothing else of it touches the session.
    outcome (takeLine settings fuel line.number line.text pass) middle =
      follow (outcome (assign name (.int value)) middle) fun _ left => (.ok pass, left)

/-- A pass that succeeds comes to each of the lines that are not blank. -/
theorem exists_reaches {lines : List String} {session after : Session κ} {batch : Batch}
    (passed : outcome (validate settings fuel lines) session = (.ok batch, after)) {line : Line}
    (member : line ∈ Script.written 1 lines) :
    ∃ pass middle, Reaches settings fuel lines session line pass middle := by
  obtain ⟨before, rest, split, number, -⟩ := Script.exists_of_mem_written member
  -- The lines were all taken, so those in front of the line were.
  rw [validate, outcome_bind closePass_logBlind, follow_eq_ok_iff] at passed
  obtain ⟨_, _, taken, -⟩ := passed
  rw [split, outcome_takeLines_append, follow_eq_ok_iff] at taken
  obtain ⟨pass, middle, reached, -⟩ := taken
  exact ⟨pass, middle, before, rest, split, by omega, reached⟩

/-- Where a pass comes to a line, the lines in front of it say which block is open. -/
theorem opened_of_reaches {lines : List String} {session middle : Session κ} {line : Line}
    {pass : Pass} (reached : Reaches settings fuel lines session line pass middle)
    (filled : (Text.trim line.text).isEmpty = false) :
    ∃ before after, Script.written 1 lines = before ++ line :: after ∧
      pass.opened = Script.openBlock before := by
  obtain ⟨before, rest, split, number, taken⟩ := reached
  refine ⟨Script.written 1 before, Script.written (1 + before.length + 1) rest, ?_,
    opened_of_takeLines taken⟩
  -- The line is the first one behind those that were taken.
  have same : line = { number := 1 + before.length, text := line.text } := by
    rw [Nat.add_comm, ← number]
  rw [split, Script.written_append, Script.written_cons, filled, ← same]
  simp

/-- A line that closes a block is not blank. -/
theorem filled_of_closes {line : Line} {kind : BlockKind} (closes : line.command = .closes kind) :
    (Text.trim line.text).isEmpty = false := by
  have spelled : Text.trimChars line.text.toList ∈ (Command.closes kind).spellings :=
    (Command.ofLine_eq_iff line.text (.closes kind)).mp closes
  -- Such a line is a keyword, which has letters.
  rw [Command.spellings_closes, Grammar.mem_word] at spelled
  rw [Text.trim, spelled, String.ofList_toList]
  cases kind <;> rfl

/-- The blocks that a pass runs are those that its lines enclose, with what stands between. -/
theorem runsBlock_iff {lines : List String} {session after : Session κ} {batch : Batch}
    (passed : outcome (validate settings fuel lines) session = (.ok batch, after)) (last : Line)
    (block : Block) :
    RunsBlock settings fuel lines session last block ↔
      ∃ first, Script.Encloses (Script.written 1 lines) first last ∧
        first.command = .opens block.kind block.condition ∧ block.line = first.number ∧
        block.body.toList =
          (Script.between (Script.written 1 lines) first last).map Line.command := by
  have ascending := Script.ascending_written 1 lines
  constructor
  · intro runs
    obtain ⟨pass, middle, reached, opened, closes, -⟩ := runs
    -- The block that is open was opened by the last marker in front of the line.
    obtain ⟨before, rest, split, same⟩ := opened_of_reaches reached (filled_of_closes closes)
    rw [opened] at same
    obtain ⟨front, first, inside, rfl, unmarked, opens, number, body⟩ :=
      (Script.openBlock_eq_some_iff _ _).mp same.symm
    have whole : front ++ first :: inside ++ last :: rest =
        front ++ first :: (inside ++ last :: rest) := by simp
    have paired : first.command.closing? = some last.command := by
      rw [opens, closes]
      rfl
    rw [split, whole] at ascending ⊢
    refine ⟨first, Script.encloses_of_split front ascending paired unmarked, opens, number.symm, ?_⟩
    rw [(Script.between_eq front ascending).2, body]
  · intro enclosed
    obtain ⟨first, encloses, opens, number, body⟩ := enclosed
    have closes : last.command = .closes block.kind := by
      have paired := encloses.paired
      rw [opens] at paired
      exact (Option.some.inj paired).symm
    have filled := filled_of_closes closes
    obtain ⟨pass, middle, reached⟩ := exists_reaches passed encloses.last_mem
    obtain ⟨before, rest, split, same⟩ := opened_of_reaches reached filled
    rw [split] at ascending encloses body
    -- The opening line stands in front of the closing one.
    have early : first ∈ before := by
      rcases List.mem_append.mp encloses.first_mem with listed | later
      · exact listed
      · have ordered := encloses.ordered
        rcases List.mem_cons.mp later with rfl | behind
        · omega
        · have tail := (List.pairwise_append.mp ascending).2.1
          have beyond := (List.pairwise_cons.mp tail).1 first behind
          omega
    obtain ⟨front, inside, rfl⟩ := List.append_of_mem early
    have whole : front ++ first :: inside ++ last :: rest =
        front ++ first :: (inside ++ last :: rest) := by simp
    rw [whole] at ascending encloses body
    have inner := (Script.between_eq front ascending).2
    have unmarked := encloses.alone
    rw [inner] at unmarked body
    have opened : pass.opened = some block := by
      rw [same]
      refine (Script.openBlock_eq_some_iff _ _).mpr
        ⟨front, first, inside, rfl, unmarked, opens, number.symm, ?_⟩
      rw [← body, Array.toArray_toList]
    refine ⟨pass, middle, reached, opened, closes, ?_⟩
    rw [outcome_takeLine filled, opened, closes]
    exact outcome_takeInside_closes pass.batch block middle

/-- A pass that succeeds has found every block closed before another one was opened. -/
theorem layout_of_validate {lines : List String} {session after : Session κ} {batch : Batch}
    (passed : outcome (validate settings fuel lines) session = (.ok batch, after)) :
    Script.Layout (Script.written 1 lines) := by
  -- A fault among the items would have stopped the pass.
  have bracketed := (Script.items_faultless_iff _).mp (faultless_of_validate passed)
  rw [Script.entries_eq_map, Script.markers, List.filterMap_map] at bracketed
  exact Script.layout_of_bracketed bracketed

/-- A plain assignment outside of blocks is made when the pass comes to it. -/
theorem assigns_of_topLevel {lines : List String} {session after : Session κ} {batch : Batch}
    (passed : outcome (validate settings fuel lines) session = (.ok batch, after)) {line : Line}
    (member : line ∈ Script.written 1 lines) (top : Script.TopLevel (Script.written 1 lines) line)
    {name : String} {value : Number} (assigned : line.command = .assign name value) :
    Assigns settings fuel lines session line name value := by
  obtain ⟨-, -, -, -, filled⟩ := Script.exists_of_mem_written member
  obtain ⟨pass, middle, reached⟩ := exists_reaches passed member
  obtain ⟨before, rest, split, same⟩ := opened_of_reaches reached filled
  have layout := layout_of_validate passed
  have ascending := Script.ascending_written 1 lines
  rw [split] at layout ascending top
  rw [Script.openBlock_of_topLevel layout ascending top] at same
  refine ⟨pass, middle, reached, ?_⟩
  -- No block is open, so the line is not kept for later.
  obtain ⟨batch, opened⟩ := pass
  obtain rfl : opened = none := same
  rw [outcome_takeLine filled, assigned]
  show outcome (takeOutside line.number batch (.assign name value)) middle = _
  rw [takeOutside, outcome_bind fun _ => LogBlind.pure _]
  rfl

/--
A pass that succeeds accounts for every line that is not blank.

The queue holds the commands of the lines with the role of waiting, in order, and the rejected lines
are those with the role of being rejected, with ascending numbers and without the blanks around
them. The pass runs a block exactly where two markers enclose it, with the commands of the lines
between them, and makes every plain assignment outside of blocks. Each line has one role and no
other one.
-/
theorem pass_accounts_for_lines {lines : List String} {session after : Session κ} {batch : Batch}
    (passed : outcome (validate settings fuel lines) session = (.ok batch, after)) :
    let written := Script.written 1 lines
    batch.queued.toList = (written.filter (Script.HasRole written · .queued)).map Line.command ∧
    batch.rejected.toList = (written.filter (Script.HasRole written · .rejected)).map
      (fun line => (line.number, Text.trim line.text)) ∧
    (batch.rejected.toList.map Prod.fst).Pairwise (· < ·) ∧
    (∀ last block, RunsBlock settings fuel lines session last block ↔
      ∃ first, Script.Encloses written first last ∧
        first.command = .opens block.kind block.condition ∧ block.line = first.number ∧
        block.body.toList = (Script.between written first last).map Line.command) ∧
    (∀ line ∈ written, Script.HasRole written line .assignment →
      ∃ name value, Command.assignment? line.text = some (name, value) ∧
        Assigns settings fuel lines session line name value) ∧
    ∀ line ∈ written, ∃! role, Script.HasRole written line role := by
  intro written
  have layout := layout_of_validate passed
  have ascending := Script.ascending_written 1 lines
  have made := batch_of_validate passed
  rw [Script.entries_eq_map] at made
  -- The batch is made of the items, and these are made of the lines that stand for themselves.
  have queue : batch.queued.toList =
      (written.filter (Script.HasRole written · .queued)).map Line.command := by
    have items : batch.queued.toList = (Script.items (written.map Line.entry)).filterMap
        Item.queued? := by simp [made, Batch.extend, written]
    rw [items, Script.filterMap_items (fun _ => rfl) layout ascending]
    exact Script.filterMap_topLevel (fun _ has => has.1) fun _ top => Script.queued?_outside top
  have rejected : batch.rejected.toList = (written.filter (Script.HasRole written · .rejected)).map
      (fun line => (line.number, Text.trim line.text)) := by
    have items : batch.rejected.toList = (Script.items (written.map Line.entry)).filterMap
        Item.rejected? := by simp [made, Batch.extend, written]
    rw [items, Script.filterMap_items (fun _ => rfl) layout ascending]
    exact Script.filterMap_topLevel (fun _ has => has.1) fun _ top => Script.rejected?_outside top
  refine ⟨queue, rejected, ?_, runsBlock_iff passed, ?_, ?_⟩
  · rw [rejected, List.map_map]
    exact List.pairwise_map.mpr (ascending.filter _)
  · intro line member has
    obtain ⟨⟨name, value⟩, found⟩ := Option.ne_none_iff_exists'.mp has.2
    exact ⟨name, value, found,
      assigns_of_topLevel passed member has.1 (Script.command_of_assignment? found)⟩
  · intro line _
    exact Script.existsUnique_role ascending line

/-- A block takes in a line that would be rejected outside of it, and blank lines count. -/
theorem pass_accounts_for_loop_body :
    let lines :=
      ["x = 1", "", "while x < 3", "x = x + 1", "spin", " endwhile ", "circle x", " jump"]
    let session : Session Recording := Session.start {} {}
    ∃ batch after, outcome (validate {} 9 lines) session = (.ok batch, after) ∧
      batch.queued.toList = [.circle (.var "x")] ∧ batch.rejected.toList = [(8, "jump")] ∧
      RunsBlock {} 9 lines session ⟨6, " endwhile "⟩
        { kind := .loop, condition := "x < 3", line := 3,
          body := #[.compute "x" "x" .add 1, .unrecognized "spin"] } := by
  intro lines session
  let after : Session Recording :=
    { session with
      store := { entries := [("x", .int 3)] }
      notices := #[.unrecognized "spin", .unrecognized "spin"] }
  let batch : Batch := { queued := #[.circle (.var "x")], rejected := #[(8, "jump")] }
  have passed : outcome (validate {} 9 lines) session = (.ok batch, after) := by decide +kernel
  obtain ⟨-, -, -, runs, -, -⟩ := pass_accounts_for_lines passed
  -- The third line and the sixth one enclose the two lines between them.
  have encloses : Script.Encloses (Script.written 1 lines)
      ⟨3, "while x < 3"⟩ ⟨6, " endwhile "⟩ := by decide +kernel
  have body : [.compute "x" "x" .add 1, .unrecognized "spin"] =
      (Script.between (Script.written 1 lines) ⟨3, "while x < 3"⟩ ⟨6, " endwhile "⟩).map
        Line.command := by decide +kernel
  exact ⟨batch, after, passed, rfl, rfl,
    (runs _ _).mpr ⟨_, encloses, by decide +kernel, rfl, body⟩⟩

end Action

end Plotter
