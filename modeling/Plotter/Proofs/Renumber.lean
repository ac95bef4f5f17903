import Plotter.Proofs.Conduct
import Plotter.Proofs.Effect

/-! The numbers of lines are only ever shown, so a pass does the same however lines are numbered. -/

namespace Plotter

open Plotter.Action

/-- The error with another number for the line that it names. -/
def Error.renumber (change : Nat → Nat) : Error → Error
  | missingEnd kind line => missingEnd kind (change line)
  | nestedBlock marker kind line => nestedBlock marker kind (change line)
  -- No other error names a line.
  | error => error

/-- The reason for a stop with another number for the line that it names. -/
def Halt.renumber (change : Nat → Nat) : Halt → Halt
  -- Running out of fuel names no line.
  | failure error => failure (error.renumber change)
  | outOfFuel => outOfFuel

/-- The block with another number for its opening line. -/
def Block.renumber (change : Nat → Nat) (block : Block) : Block :=
  -- The line of a block is that of its opening marker.
  { block with line := change block.line }

/-- The batch with other numbers for its rejected lines. -/
def Batch.renumber (change : Nat → Nat) (batch : Batch) : Batch :=
  -- The queue keeps no numbers.
  { batch with rejected := batch.rejected.map (Prod.map change id) }

/-- The item with other numbers for its lines. -/
def Item.renumber (change : Nat → Nat) : Item → Item
  -- Assignments and queued commands have forgotten where they came from.
  | block closed => block (closed.renumber change)
  | rejected number text => rejected (change number) text
  | fault error => fault (error.renumber change)
  | item => item

namespace Item

variable (change : Nat → Nat)

/-- The item of a line has the number of the line. -/
theorem outside_renumber (number : Nat) (command : Command) :
    outside (change number) command = (outside number command).renumber change := by
  -- A number is kept for a rejected line and for no other.
  cases command <;> rfl

/-- What an item does at once does not depend on the numbers of its lines. -/
theorem atOnce_renumber {κ : Type} [Canvas κ] (settings : Settings) (fuel : Nat) (item : Item) :
    ((item.renumber change).atOnce settings fuel : Action κ Unit) = item.atOnce settings fuel := by
  -- What a block does when it is run does not depend on the line that opened it.
  cases item <;> rfl

/-- The error of a fault names the line by its number. -/
theorem fault?_renumber (item : Item) :
    (item.renumber change).fault? = item.fault?.map (Error.renumber change) := by
  -- Being a fault does not depend on the number in it.
  cases item <;> rfl

/-- The command of an item that waits has no number. -/
theorem queued?_renumber (item : Item) : (item.renumber change).queued? = item.queued? := by
  -- Queued commands have no number.
  cases item <;> rfl

/-- A rejected line is listed under its number. -/
theorem rejected?_renumber (item : Item) :
    (item.renumber change).rejected? = item.rejected?.map (Prod.map change id) := by
  -- The text of a rejected line stays.
  cases item <;> rfl

/-- The first fault of items with other numbers is the same fault with its number. -/
theorem findSome?_fault?_renumber (items : List Item) :
    (items.map (renumber change)).findSome? fault? =
      (items.findSome? fault?).map (Error.renumber change) := by
  rw [List.findSome?_map, List.map_findSome?]
  -- The first fault is in the same place.
  congr 1
  funext item
  exact item.fault?_renumber change

end Item

/-- What items leave to be done is numbered as they are. -/
theorem Batch.extend_renumber (change : Nat → Nat) (batch : Batch) (items : List Item) :
    (batch.renumber change).extend (items.map (Item.renumber change)) =
      (batch.extend items).renumber change := by
  -- The queue has no numbers, and the rejected lines are renumbered one by one.
  have queue : (items.map (Item.renumber change)).filterMap Item.queued? =
      items.filterMap Item.queued? := by
    rw [List.filterMap_map]
    congr 1
    funext item
    exact item.queued?_renumber change
  have rejected : (items.map (Item.renumber change)).filterMap Item.rejected? =
      (items.filterMap Item.rejected?).map (Prod.map change id) := by
    rw [List.filterMap_map, List.map_filterMap]
    congr 1
    funext item
    exact item.rejected?_renumber change
  simp only [extend, renumber, queue, rejected, Array.map_append, List.map_toArray]

namespace Script

/-- The items of lines with other numbers are the same items with these numbers. -/
theorem items_renumber (change : Nat → Nat) (entries : List (Nat × Command)) :
    items (entries.map (Prod.map change id)) = (items entries).map (Item.renumber change) ∧
      ∀ opened : Block,
        itemsInside (opened.renumber change) (entries.map (Prod.map change id)) =
          (itemsInside opened entries).map (Item.renumber change) := by
  -- The induction is on the lines, both outside of blocks and inside an open one.
  induction entries with
  | nil =>
    refine ⟨?_, ?_⟩
    · rw [List.map_nil, items_nil, List.map_nil]
    · intro opened
      rfl
  | cons entry rest ih =>
    obtain ⟨number, command⟩ := entry
    obtain ⟨outside, inside⟩ := ih
    rw [List.map_cons, Prod.map_apply, id_eq]
    cases marked : command.marker? with
    | none =>
      refine ⟨?_, ?_⟩
      · rw [items_plain _ marked, items_plain _ marked, outside, List.map_cons,
          Item.outside_renumber]
      · intro opened
        rw [itemsInside_plain _ _ marked, itemsInside_plain _ _ marked]
        exact inside (opened.push command)
    | some marker =>
      refine ⟨?_, ?_⟩
      · obtain ⟨kind, condition, rfl, -⟩ | ⟨kind, rfl, -⟩ := Command.marker?_eq_some marked
        · rw [items_opens, items_opens]
          exact inside { kind, condition, line := number }
        · -- There is no block that the line could close.
          rw [items, items]
          rfl
      · intro opened
        by_cases closing : command = .closes opened.kind
        · -- The block is complete, and the lines behind it are on their own again.
          have complete := itemsInside_closes (opened.renumber change) (change number)
            (rest.map (Prod.map change id))
          rw [outside] at complete
          rw [closing, itemsInside_closes, List.map_cons]
          exact complete
        · rw [itemsInside_marker opened number marked closing]
          exact itemsInside_marker (opened.renumber change) (change number) marked closing _

/-- Lines behind others are numbered on from them. -/
theorem entries_append (number : Nat) (first second : List String) :
    entries number (first ++ second) =
      entries number first ++ entries (number + first.length) second := by
  -- The second part is numbered on from the length of the first.
  simp only [entries, List.zipIdx_append, List.filterMap_append]

/-- Lines that start later have larger numbers, all by the same count. -/
theorem entries_add (number count : Nat) (lines : List String) :
    entries (number + count) lines = (entries number lines).map (Prod.map (· + count) id) := by
  induction lines generalizing number with
  | nil => rfl
  | cons line rest ih =>
    have shifted : number + count + 1 = number + 1 + count := by omega
    rw [entries_cons, entries_cons, shifted, ih]
    -- A blank line has no entry on either side.
    split
    · rfl
    · rw [List.map_cons]
      rfl

end Script

namespace Conduct

variable {κ : Type}

/-- Whatever stops for a reason that names no line keeps to this conduct. -/
def unnumbered (κ : Type) : Conduct κ where
  -- Where the session goes is left open: the conduct is about the stops alone.
  moves _ _ := True
  stops halt _ := ∀ change, halt.renumber change = halt
  refl _ := trivial
  trans _ _ := trivial

/-- An error for a name without a number names no line. -/
theorem renumber_of_misses {store : Variables} {names : List String} {error : Error}
    (misses : store.Misses names error) (change : Nat → Nat) : error.renumber change = error := by
  -- The only thing in the error is the token, which no renumbering changes.
  obtain ⟨name, -, rfl, -⟩ := misses
  rfl

variable [Canvas κ] (settings : Settings)

/-- A command that fails names no line. -/
theorem unnumbered_allows_execute (command : Command) :
    (unnumbered κ).Allows (execute settings command) := by
  intro session
  rw [outcome_execute]
  cases decided : Effect.ofCommand settings session.store session.context command with
  | ok effect => exact ⟨trivial, fun _ stopped => nomatch stopped⟩
  | error error =>
    refine ⟨trivial, ?_⟩
    rintro halt ⟨⟩ change
    -- None of the reasons for which a command fails is about the lines of a script.
    have kept : error.renumber change = error := by
      cases Effect.fails_of_ofCommand decided with
      | unresolved misses => exact renumber_of_misses misses change
      | loose marked => rfl
      | badName target bad => rfl
      | outOfRange kind =>
        cases error with
        | missingEnd _ _ | nestedBlock _ _ _ => exact nomatch kind
        | _ => rfl
      | divisionByZero => rfl
    rw [Halt.renumber, kept]

/-- Commands that fail name no line. -/
theorem unnumbered_allows_executeAll (commands : List Command) :
    (unnumbered κ).Allows (executeAll settings commands) :=
  -- Each command is of the kind.
  allows_executeAll fun command _ => unnumbered_allows_execute settings command

omit [Canvas κ] in
/-- A condition that cannot be evaluated names no line. -/
theorem unnumbered_decides (condition : String) : (unnumbered κ).Decides condition := by
  intro session error unclear change
  have kept : error.renumber change = error := by
    -- The condition is malformed, or one of its operands stands for no number.
    cases read : Condition.parse condition with
    | error malformed =>
      rw [Condition.evaluate_of_parse_error read] at unclear
      obtain rfl := Except.error.inj unclear
      rw [Condition.parse_error read]
      rfl
    | ok parsed =>
      rw [Condition.evaluate_of_parse read] at unclear
      exact renumber_of_misses (Condition.holds_error unclear) change
  rw [Halt.renumber, kept]

/-- What an item does at once never stops at the number of a line. -/
theorem unnumbered_allows_atOnce (fuel : Nat) (item : Item) :
    (unnumbered κ).Allows (item.atOnce settings fuel) := by
  cases item with
  | assignment name value =>
    exact Allows.congr (unnumbered_allows_execute settings (.assign name value)) fun session =>
      (outcome_execute_assign settings name value session).symm
  | block closed =>
    refine allows_runBlock (unnumbered_decides closed.condition) ?_ fun command _ =>
      unnumbered_allows_execute settings command
    -- Neither the limit of a loop nor a lack of fuel is about a line.
    intro session change
    unfold exhausted
    cases settings.loopLimit <;> rfl
  | queued _ | rejected _ _ | fault _ => exact Allows.pure _

/-- What items do at once never stops at the number of a line. -/
theorem unnumbered_allows_forM_atOnce (fuel : Nat) (items : List Item) :
    (unnumbered κ).Allows (items.forM (Item.atOnce settings fuel)) :=
  -- Each item is of the kind.
  Allows.forM (atOnce_logBlind settings fuel) fun item _ =>
    unnumbered_allows_atOnce settings fuel item

end Conduct

namespace Action

variable {κ : Type}

/-- The outcome of a pass with other numbers for the lines that it names. -/
def renumbered (change : Nat → Nat) (passed : Except Halt Batch × Session κ) :
    Except Halt Batch × Session κ :=
  -- The session has no line numbers, so it stays.
  match passed with
  | (.ok batch, session) => (.ok (batch.renumber change), session)
  | (.error halt, session) => (.error (halt.renumber change), session)

variable [Canvas κ]

/-- Items that are renumbered do the same at once. -/
theorem forM_atOnce_renumber (change : Nat → Nat) (settings : Settings) (fuel : Nat)
    (items : List Item) :
    (items.map (Item.renumber change)).forM (Item.atOnce settings fuel) =
      (items.forM (Item.atOnce settings fuel) : Action κ Unit) := by
  -- Item by item, the same is done.
  rw [List.forM_eq_forM, List.forM_map]
  simp only [Item.atOnce_renumber]

/-- Items that are renumbered are carried out in the same way. -/
theorem outcome_carryOut_renumber (change : Nat → Nat) (settings : Settings) (fuel : Nat)
    (batch : Batch) (items : List Item) (session : Session κ) :
    outcome (carryOut settings fuel (batch.renumber change) (items.map (Item.renumber change)))
        session =
      renumbered change (outcome (carryOut settings fuel batch items) session) := by
  -- What the items do at once is the same, and whatever stops it names no line.
  have stops := (Conduct.unnumbered_allows_forM_atOnce settings fuel items session).2
  rw [outcome_carryOut, outcome_carryOut, forM_atOnce_renumber, Item.findSome?_fault?_renumber,
    Batch.extend_renumber]
  rcases ran : outcome (items.forM (Item.atOnce settings fuel)) session with ⟨halt | ⟨⟩, after⟩
  · have kept := stops halt (by rw [ran])
    rw [follow_error, follow_error, renumbered, kept]
  · rw [follow_ok, follow_ok]
    cases items.findSome? Item.fault? <;> rfl

end Action

end Plotter
