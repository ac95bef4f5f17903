import Plotter.Action.Script

/-! The items of a script, told apart before any of them is carried out. -/

namespace Plotter

/-- A command that neither opens nor closes a block is no marker. -/
theorem Command.marker?_eq_none {command : Command}
    (noOpening : ∀ kind condition, command = .opens kind condition → False)
    (noClosing : ∀ kind, command = .closes kind → False) : command.marker? = none := by
  -- Two kinds of commands are markers, and both are excluded.
  cases command with
  | opens kind condition => exact (noOpening kind condition rfl).elim
  | closes kind => exact (noClosing kind rfl).elim
  | _ => rfl

/-- A marker opens or closes a block, and nothing else is one. -/
theorem Command.marker?_eq_some {command : Command} {marker : Marker}
    (marked : command.marker? = some marker) :
    (∃ kind condition, command = .opens kind condition ∧ marker = .opening kind) ∨
      ∃ kind, command = .closes kind ∧ marker = .closing kind := by
  -- The two kinds of markers come from one kind of command each.
  cases command with
  | opens kind condition => exact .inl ⟨kind, condition, rfl, (Option.some.inj marked).symm⟩
  | closes kind => exact .inr ⟨kind, rfl, (Option.some.inj marked).symm⟩
  | _ => cases marked

/-- A part of a script. -/
inductive Item where
  /-- An assignment of a number outside of blocks. -/
  | assignment (name : String) (value : Number)
  /-- A block from its opening to its closing line. -/
  | block (block : Block)
  /-- A command that waits for the end of the script. -/
  | queued (command : Command)
  /-- A line outside of blocks that has none of the known forms. -/
  | rejected (number : Nat) (text : String)
  /-- A marker that is missing or out of place; nothing after it is looked at. -/
  | fault (error : Error)
  deriving DecidableEq, Repr

namespace Item

/-- The item of a line outside of blocks that is not a marker. -/
def outside (number : Nat) : Command → Item
  -- A marker outside a block is dealt with before a command comes to this.
  | .assign name value => assignment name value
  | .unrecognized text => rejected number text
  | command => queued command

/-- What an item does as soon as its last line is read. -/
def atOnce {κ : Type} [Canvas κ] (settings : Settings) (fuel : Nat) : Item → Action κ Unit
  | assignment name value => Action.assign name (.int value)
  | block closed => Action.runBlock settings fuel closed
  -- Everything else waits, or is never done.
  | queued _ | rejected _ _ | fault _ => pure ()

/-- The error of a fault. -/
def fault? : Item → Option Error
  -- The other items let the pass go on.
  | fault error => some error
  | _ => none

/-- The command of an item that waits. -/
def queued? : Item → Option Command
  -- Only these go to the batch as commands.
  | queued command => some command
  | _ => none

/-- The number and the text of an item that is rejected. -/
def rejected? : Item → Option (Nat × String)
  -- The number is kept for the report.
  | rejected number text => some (number, text)
  | _ => none

/-- No error is found exactly if no item is a fault. -/
theorem findSome?_fault?_eq_none (items : List Item) :
    items.findSome? fault? = none ↔ ∀ error, fault error ∉ items := by
  rw [List.findSome?_eq_none_iff]
  -- An item gives an error exactly if it is a fault.
  constructor
  · intro sound error member
    exact Option.some_ne_none error (sound _ member)
  · intro sound item member
    cases item with
    | fault error => exact (sound error member).elim
    | _ => rfl

end Item

/-- A batch with what the items leave to be done at its end. -/
def Batch.extend (batch : Batch) (items : List Item) : Batch where
  -- The kinds are taken apart, each in the order of the items.
  queued := batch.queued ++ (items.filterMap Item.queued?).toArray
  rejected := batch.rejected ++ (items.filterMap Item.rejected?).toArray

/-- Items can be added to a batch in two parts. -/
theorem Batch.extend_append (batch : Batch) (first second : List Item) :
    (batch.extend first).extend second = batch.extend (first ++ second) := by
  -- Filtering goes through a concatenation.
  simp [Batch.extend, Array.append_assoc]

namespace Script

/-- The lines that are not blank, with their numbers and the commands that they spell. -/
def entries (number : Nat) (lines : List String) : List (Nat × Command) :=
  -- Blank lines are counted too.
  (lines.zipIdx number).filterMap fun (line, number) =>
    if (Text.trim line).isEmpty then none else some (number, Command.ofLine line)

/-- Whether a line neither opens nor closes a block. -/
def isPlain (entry : Nat × Command) : Bool :=
  -- A command that is no marker may stand in the body of a block.
  entry.2.marker?.isNone

/-- The commands of the lines before the next marker. -/
def bodyOf (entries : List (Nat × Command)) : Array Command :=
  -- The body ends at the next marker, whichever it is.
  ((entries.takeWhile isPlain).map Prod.snd).toArray

/--
The items of a script in the order of its lines.

A block takes all lines up to the next marker, which has to close it.
-/
def items : List (Nat × Command) → List Item
  | [] => []
  | (number, .opens kind condition) :: rest =>
    match _next : rest.dropWhile isPlain with
    | (_, .closes other) :: after =>
      if other = kind then
        .block { kind, condition, body := bodyOf rest, line := number } :: items after
      -- A fault ends the script, as nothing behind it is looked at.
      else [.fault (.nestedBlock (.closing other) kind number)]
    | (_, .opens other _) :: _ => [.fault (.nestedBlock (.opening other) kind number)]
    | _ => [.fault (.missingEnd kind number)]
  | (_, .closes kind) :: _ => [.fault (.unmatchedEnd kind)]
  | (number, command) :: rest => .outside number command :: items rest
termination_by entries => entries.length
decreasing_by
  all_goals simp only [List.length_cons]
  · -- What follows the closing line is a part of what follows the opening one.
    have shorter := (List.dropWhile_sublist isPlain (l := rest)).length_le
    simp only [_next, List.length_cons] at shorter
    omega
  · omega

/-- The markers of a script in the order of its lines. -/
def markers (entries : List (Nat × Command)) : List Marker :=
  -- The numbers are dropped: matching looks at kinds alone.
  entries.filterMap fun entry => entry.2.marker?

end Script

/-- Markers of blocks that are opened and closed one after the other. -/
inductive Bracketed : List Marker → Prop
  /-- There is no block. -/
  | nil : Bracketed []
  /-- A block is closed before any other one is opened. -/
  | block (kind : BlockKind) {rest : List Marker} (others : Bracketed rest) :
      Bracketed (.opening kind :: .closing kind :: rest)

namespace Script

/-- Lines are numbered one after the other, and blank ones are left out. -/
theorem entries_cons (number : Nat) (line : String) (rest : List String) :
    entries number (line :: rest) =
      if (Text.trim line).isEmpty then entries (number + 1) rest
      else (number, Command.ofLine line) :: entries (number + 1) rest := by
  unfold entries
  rw [List.zipIdx_cons, List.filterMap_cons]
  -- A blank line uses up its number.
  split <;> simp_all

/-- The command of an entry is what one of the lines spells. -/
theorem exists_line_of_mem_entries {number : Nat} {lines : List String} {entry : Nat × Command}
    (member : entry ∈ entries number lines) : ∃ line ∈ lines, Command.ofLine line = entry.2 := by
  obtain ⟨⟨line, found⟩, numbered, kept⟩ := List.mem_filterMap.mp member
  -- A blank line has no entry, and any other one has its command in it.
  simp only [Option.ite_none_left_eq_some, Option.some.injEq] at kept
  exact ⟨line, List.fst_mem_of_mem_zipIdx numbered, congrArg Prod.snd kept.2⟩

/-- The items of the lines that follow when a block is open, of which the first part is known. -/
def itemsInside (opened : Block) (entries : List (Nat × Command)) : List Item :=
  -- The next marker decides alone: it closes the block, or it is a fault, as is none at all.
  match entries.dropWhile isPlain with
  | (_, .closes other) :: after =>
    if other = opened.kind then
      .block { opened with body := opened.body ++ bodyOf entries } :: items after
    else [.fault (.nestedBlock (.closing other) opened.kind opened.line)]
  | (_, .opens other _) :: _ => [.fault (.nestedBlock (.opening other) opened.kind opened.line)]
  | _ => [.fault (.missingEnd opened.kind opened.line)]

/-- Without lines there are no items. -/
@[simp] theorem items_nil : items [] = [] := by
  -- The recursion ends here.
  rw [items]

/-- A plain line outside of blocks is an item of its own. -/
theorem items_plain (number : Nat) {command : Command} (plain : command.marker? = none)
    (rest : List (Nat × Command)) :
    items ((number, command) :: rest) = .outside number command :: items rest := by
  -- The line falls through to the last case, as it neither opens nor closes a block.
  rw [items]
  · rintro kind condition rfl
    simp [Command.marker?] at plain
  · rintro kind rfl
    simp [Command.marker?] at plain

/-- An opening line starts a block without commands. -/
theorem items_opens (number : Nat) (kind : BlockKind) (condition : String)
    (rest : List (Nat × Command)) :
    items ((number, .opens kind condition) :: rest) =
      itemsInside { kind, condition, line := number } rest := by
  -- An opening marker alone has an empty body so far.
  rw [items, itemsInside]
  simp only [Array.empty_append]
  split <;> simp_all

/-- A plain line becomes a part of the block that is open. -/
theorem itemsInside_plain (opened : Block) (number : Nat) {command : Command}
    (plain : command.marker? = none) (rest : List (Nat × Command)) :
    itemsInside opened ((number, command) :: rest) = itemsInside (opened.push command) rest := by
  have through : isPlain (number, command) = true := by simp [isPlain, plain]
  -- The command counts as the last one before the point or as the first one after it.
  have grown : opened.body ++ bodyOf ((number, command) :: rest) =
      (opened.push command).body ++ bodyOf rest := by
    apply Array.toList_inj.mp
    simp [bodyOf, through, Block.push]
  unfold itemsInside
  rw [List.dropWhile_cons_of_pos through, grown]
  rfl

/-- A closing line of its kind completes a block. -/
theorem itemsInside_closes (opened : Block) (number : Nat) (rest : List (Nat × Command)) :
    itemsInside opened ((number, .closes opened.kind) :: rest) = .block opened :: items rest := by
  -- The closing marker is the first that is not plain, so nothing joins the body.
  have stays : ¬ isPlain (number, .closes opened.kind) = true := by simp [isPlain, Command.marker?]
  unfold itemsInside
  rw [List.dropWhile_cons_of_neg stays]
  simp [bodyOf, stays]

/-- A marker that does not close the open block is a fault. -/
theorem itemsInside_marker (opened : Block) (number : Nat) {command : Command} {marker : Marker}
    (marked : command.marker? = some marker) (other : command ≠ .closes opened.kind)
    (rest : List (Nat × Command)) :
    itemsInside opened ((number, command) :: rest) =
      [.fault (.nestedBlock marker opened.kind opened.line)] := by
  have stays : ¬ isPlain (number, command) = true := by simp [isPlain, marked]
  unfold itemsInside
  rw [List.dropWhile_cons_of_neg stays]
  obtain ⟨kind, condition, rfl, rfl⟩ | ⟨kind, rfl, rfl⟩ := Command.marker?_eq_some marked
  · rfl
  · -- A closing line of the same kind is the one that is left out.
    have differs : ¬ kind = opened.kind := fun same => other (by rw [same])
    simp only [if_neg differs]

/-- Plain lines have no markers, so those of a script are the ones from its next marker on. -/
theorem markers_dropWhile (entries : List (Nat × Command)) :
    markers (entries.dropWhile isPlain) = markers entries := by
  -- Only plain lines are dropped.
  induction entries with
  | nil => rfl
  | cons entry rest ih =>
    by_cases plain : isPlain entry = true
    · have unmarked : entry.2.marker? = none := by simpa [isPlain] using plain
      rw [List.dropWhile_cons_of_pos plain, ih]
      simp [markers, unmarked]
    · rw [List.dropWhile_cons_of_neg plain]

/-- The items of lines outside of blocks are no faults. -/
theorem fault_ne_outside (number : Nat) (command : Command) (error : Error) :
    Item.fault error ≠ .outside number command := by
  -- No command outside a block becomes a fault.
  cases command <;> simp [Item.outside]

/-- The markers from an opening line on, without the plain lines behind it. -/
theorem markers_opens (number : Nat) (kind : BlockKind) (condition : String)
    (rest : List (Nat × Command)) :
    markers ((number, .opens kind condition) :: rest) =
      .opening kind :: markers (rest.dropWhile isPlain) := by
  rw [markers_dropWhile]
  -- Lines before the next marker have none to give.
  simp [markers, Command.marker?]

/-- A plain line is the same to the markers as none. -/
theorem markers_plain (number : Nat) {command : Command} (plain : command.marker? = none)
    (rest : List (Nat × Command)) : markers ((number, command) :: rest) = markers rest := by
  -- A plain command has no marker to give.
  simp [markers, plain]

/-- A script has no fault exactly if its blocks are opened and closed one after the other. -/
theorem items_faultless_iff (entries : List (Nat × Command)) :
    (∀ error, .fault error ∉ items entries) ↔ Bracketed (markers entries) := by
  have faulty : ∀ found, ¬ ∀ error, Item.fault error ∉ [.fault found] :=
    fun found none => none found (List.mem_singleton_self _)
  -- The induction follows the items, so a block is taken in one step.
  fun_induction items entries with
  | case1 => simp [markers, Bracketed.nil]
  | case2 number condition rest line kind after next ih =>
    -- A block that is closed adds a pair of markers and no fault.
    rw [markers_opens, next]
    have closing : markers ((line, .closes kind) :: after) = .closing kind :: markers after := rfl
    rw [closing]
    constructor
    · intro faultless
      exact .block kind (ih.mp fun error member => faultless error (List.mem_cons_of_mem _ member))
    · rintro (_ | ⟨_, others⟩)
      simpa using ih.mpr others
  | case3 number kind condition rest _ other after next differs =>
    -- The marker after the opening one closes the wrong kind.
    refine iff_of_false (faulty _) ?_
    rw [markers_opens, next]
    rintro (_ | _)
    exact differs rfl
  | case4 number kind condition rest _ other _ after next =>
    -- The marker after the opening one opens another block.
    refine iff_of_false (faulty _) ?_
    rw [markers_opens, next]
    rintro (_ | _)
  | case5 number kind condition rest noClosing noOpening =>
    refine iff_of_false (faulty _) ?_
    -- Nothing but plain lines follows the opening one.
    have none : rest.dropWhile isPlain = [] := by
      rcases dropped : rest.dropWhile isPlain with _ | ⟨⟨line, command⟩, after⟩
      · rfl
      · have stays := List.head?_dropWhile_not isPlain rest
        rw [dropped] at stays
        cases command with
        | opens other _ => exact (noOpening line other _ after dropped).elim
        | closes other => exact (noClosing line other after dropped).elim
        | _ => simp [isPlain, Command.marker?] at stays
    rw [markers_opens, none]
    rintro (_ | _)
  | case6 number kind rest =>
    -- No list of bracketed markers starts with a closing one.
    refine iff_of_false (faulty _) ?_
    rintro (_ | _)
  | case7 number command rest noOpening noClosing ih =>
    have plain := Command.marker?_eq_none noOpening noClosing
    -- A plain line changes neither side.
    rw [markers_plain number plain]
    simpa [fault_ne_outside] using ih

end Script

/-- The item is made of the given lines, and no marker is taken for a command. -/
def Item.From (entries : List (Nat × Command)) : Item → Prop
  -- An item never invents anything: its texts and commands are lines of the script.
  | assignment name value => ∃ number, (number, .assign name value) ∈ entries
  | block closed =>
    (closed.line, .opens closed.kind closed.condition) ∈ entries ∧
      ∀ command ∈ closed.body, command.marker? = none ∧ ∃ number, (number, command) ∈ entries
  | queued command => command.marker? = none ∧ ∃ number, (number, command) ∈ entries
  | rejected number text => (number, .unrecognized text) ∈ entries
  | fault _ => True

namespace Item

/-- An item of some lines is an item of more lines. -/
theorem From.mono {fewer more : List (Nat × Command)} (part : ∀ entry ∈ fewer, entry ∈ more)
    {item : Item} (made : item.From fewer) : item.From more := by
  -- Every case only asks for entries among the lines.
  cases item with
  | assignment name value =>
    obtain ⟨number, member⟩ := made
    exact ⟨number, part _ member⟩
  | block closed =>
    refine ⟨part _ made.1, fun command member => ?_⟩
    obtain ⟨plain, number, listed⟩ := made.2 command member
    exact ⟨plain, number, part _ listed⟩
  | queued command =>
    obtain ⟨plain, number, member⟩ := made
    exact ⟨plain, number, part _ member⟩
  | rejected number text => exact part _ made
  | fault error => trivial

/-- A plain line outside of blocks makes an item. -/
theorem from_outside {number : Nat} {command : Command} (plain : command.marker? = none)
    {entries : List (Nat × Command)} (listed : (number, command) ∈ entries) :
    (outside number command).From entries := by
  -- An assignment and a rejected line are kept as such, and any other command is queued.
  cases command with
  | assign name value => exact ⟨number, listed⟩
  | unrecognized text => exact listed
  | _ => exact ⟨plain, number, listed⟩

end Item

namespace Script

/-- The commands between two markers are plain lines. -/
theorem mem_bodyOf {entries : List (Nat × Command)} {command : Command}
    (member : command ∈ bodyOf entries) :
    command.marker? = none ∧ ∃ number, (number, command) ∈ entries := by
  simp only [bodyOf, List.mem_toArray, List.mem_map] at member
  -- A command of the body has passed the test of the plain ones, and is one of the entries.
  obtain ⟨⟨number, found⟩, taken, rfl⟩ := member
  have plain := List.all_eq_true.mp List.all_takeWhile _ taken
  exact ⟨by simpa [isPlain] using plain, number, (List.takeWhile_sublist isPlain).mem taken⟩

/-- Every item of a script is made of its lines. -/
theorem from_of_mem_items {entries : List (Nat × Command)} :
    ∀ item ∈ items entries, item.From entries := by
  fun_induction items entries with
  | case1 => simp
  | case2 number condition rest line kind after next ih =>
    intro item member
    rcases List.mem_cons.mp member with rfl | member
    · refine ⟨List.mem_cons_self, fun command inside => ?_⟩
      obtain ⟨plain, found, listed⟩ := mem_bodyOf inside
      exact ⟨plain, found, List.mem_cons_of_mem _ listed⟩
    · -- The lines after the block are lines of the script.
      refine (ih item member).mono fun entry later => List.mem_cons_of_mem _ ?_
      refine (List.dropWhile_sublist isPlain).mem ?_
      rw [next]
      exact List.mem_cons_of_mem _ later
  | case3 | case4 | case5 | case6 =>
    -- All that is left is a fault, about which there is nothing to show.
    intro item member
    rw [List.mem_singleton.mp member]
    trivial
  | case7 number command rest noOpening noClosing ih =>
    have plain := Command.marker?_eq_none noOpening noClosing
    intro item member
    rcases List.mem_cons.mp member with rfl | member
    · exact Item.from_outside plain List.mem_cons_self
    · exact (ih item member).mono fun entry later => List.mem_cons_of_mem _ later

end Script

end Plotter
