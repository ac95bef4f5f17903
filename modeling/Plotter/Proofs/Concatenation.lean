import Plotter.Canvas.Recording
import Plotter.Proofs.Renumber

/-! A script can be passed over in parts, as long as no block is open where it is cut. -/

namespace Plotter

namespace Script

/-- Lines without a fault leave the items of the lines behind them alone. -/
theorem items_append (first second : List (Nat × Command)) :
    ((∀ error, .fault error ∉ items first) →
      items (first ++ second) = items first ++ items second) ∧
    ∀ opened : Block, (∀ error, .fault error ∉ itemsInside opened first) →
      itemsInside opened (first ++ second) = itemsInside opened first ++ items second := by
  -- The induction is on the first lines, both outside of blocks and inside an open one.
  induction first with
  | nil =>
    refine ⟨?_, ?_⟩
    · intro faultless
      rw [List.nil_append, items_nil, List.nil_append]
    · intro opened faultless
      -- A block that is still open lacks its end.
      exact absurd (List.mem_singleton_self _) (faultless (.missingEnd opened.kind opened.line))
  | cons entry rest ih =>
    obtain ⟨number, command⟩ := entry
    obtain ⟨outside, inside⟩ := ih
    rw [List.cons_append]
    cases marked : command.marker? with
    | none =>
      refine ⟨?_, ?_⟩
      · intro faultless
        rw [items_plain number marked] at faultless ⊢
        rw [items_plain number marked, List.cons_append,
          outside fun error member => faultless error (List.mem_cons_of_mem _ member)]
      · intro opened faultless
        rw [itemsInside_plain opened number marked] at faultless ⊢
        rw [itemsInside_plain opened number marked]
        exact inside (opened.push command) faultless
    | some marker =>
      refine ⟨?_, ?_⟩
      · intro faultless
        obtain ⟨kind, condition, rfl, -⟩ | ⟨kind, rfl, -⟩ := Command.marker?_eq_some marked
        · rw [items_opens] at faultless ⊢
          rw [items_opens]
          exact inside { kind, condition, line := number } faultless
        · -- There is no block that the line could close.
          rw [items] at faultless
          exact absurd (List.mem_singleton_self _) (faultless (.unmatchedEnd kind))
      · intro opened faultless
        by_cases closing : command = .closes opened.kind
        · -- The block is complete, and the lines behind it are on their own again.
          rw [closing, itemsInside_closes] at faultless ⊢
          rw [itemsInside_closes, List.cons_append,
            outside fun error member => faultless error (List.mem_cons_of_mem _ member)]
        · -- Any other marker is a fault.
          rw [itemsInside_marker opened number marked closing] at faultless
          exact absurd (List.mem_singleton_self _) (faultless _)

end Script

/-- The batch of two scripts, one behind the other, whose lines are numbered on. -/
def Batch.join (first second : Batch) : Batch where
  -- Nothing of the first batch moves: the second one only comes behind it.
  queued := first.queued ++ second.queued
  rejected := first.rejected ++ second.rejected

namespace Action

variable {κ : Type} [Canvas κ]

/-- Items without a fault are carried out before the items behind them. -/
theorem outcome_carryOut_append (settings : Settings) (fuel : Nat) (batch : Batch)
    {first : List Item} (faultless : ∀ error, .fault error ∉ first) (second : List Item)
    (session : Session κ) :
    outcome (carryOut settings fuel batch (first ++ second)) session =
      follow (outcome (carryOut settings fuel batch first) session) fun grown after =>
        outcome (carryOut settings fuel grown second) after := by
  have sound := (Item.findSome?_fault?_eq_none first).mpr faultless
  -- Without a fault in the first items, the first fault of all is the first of the others.
  have found : (first ++ second).findSome? Item.fault? = second.findSome? Item.fault? := by
    rw [List.findSome?_append, sound, Option.none_or]
  rw [outcome_carryOut, outcome_carryOut, outcome_forM_append (atOnce_logBlind settings fuel),
    found, sound]
  rcases outcome (first.forM (Item.atOnce settings fuel)) session with ⟨halt | ⟨⟩, middle⟩
  · rfl
  · simp only [follow_ok]
    rw [outcome_carryOut, Batch.extend_append]

/-- What items leave to be done is added to what there is already. -/
theorem outcome_carryOut_join (settings : Settings) (fuel : Nat) (batch : Batch)
    (items : List Item) (session : Session κ) :
    outcome (carryOut settings fuel batch items) session =
      follow (outcome (carryOut settings fuel {} items) session) fun added after =>
        (.ok (batch.join added), after) := by
  have joined : batch.extend items = batch.join (Batch.extend {} items) := by
    simp [Batch.extend, Batch.join]
  rw [outcome_carryOut, outcome_carryOut, joined]
  -- Both sides carry out the same items, and stop for the same fault if there is one.
  rcases outcome (items.forM (Item.atOnce settings fuel)) session with ⟨halt | ⟨⟩, after⟩
  · rfl
  · -- Whether there is a fault does not depend on the batch.
    simp only [follow_ok]
    cases items.findSome? Item.fault? <;> rfl

/-- A pass that has come to the end of some lines with no block open goes on with the others. -/
theorem outcome_validate_append {settings : Settings} {fuel : Nat} {first : List String}
    {session middle : Session κ} {batch : Batch}
    (passed : outcome (validate settings fuel first) session = (.ok batch, middle))
    (second : List String) :
    outcome (validate settings fuel (first ++ second)) session =
      follow (renumbered (· + first.length) (outcome (validate settings fuel second) middle))
        fun added after => (.ok (batch.join added), after) := by
  have faultless := faultless_of_validate passed
  -- The lines behind have the items that they have on their own, under larger numbers.
  have behind : Script.items (Script.entries (1 + first.length) second) =
      (Script.items (Script.entries 1 second)).map (Item.renumber (· + first.length)) := by
    rw [Script.entries_add]
    exact (Script.items_renumber _ _).1
  have alone := outcome_carryOut_renumber (· + first.length) settings fuel {}
    (Script.items (Script.entries 1 second)) middle
  have empty : Batch.renumber (· + first.length) {} = {} := by
    simp [Batch.renumber]
  rw [empty] at alone
  rw [outcome_validate] at passed
  rw [outcome_validate, Script.entries_append, (Script.items_append _ _).1 faultless,
    outcome_carryOut_append settings fuel {} faultless, passed, follow_ok, behind,
    outcome_carryOut_join, alone, ← outcome_validate]

/-- A pass stops where it stops without the lines behind, unless it lacks the end of a block. -/
theorem outcome_validate_append_error {settings : Settings} {fuel : Nat} {first : List String}
    {session after : Session κ} {halt : Halt}
    (stopped : outcome (validate settings fuel first) session = (.error halt, after))
    (closed : ∀ kind line, halt ≠ .failure (.missingEnd kind line)) (second : List String) :
    outcome (validate settings fuel (first ++ second)) session = (.error halt, after) := by
  -- A pass stops at one of its lines, or after the last of them.
  rw [outcome_validate_eq] at stopped ⊢
  rw [outcome_takeLines_append]
  rcases ran : outcome (takeLines settings fuel 1 first {}) session with ⟨early | pass, left⟩
  · -- One of the lines stops the pass, before it comes to the others.
    rw [ran, follow_error] at stopped
    rw [follow_error, follow_error, stopped]
  · -- All lines were taken, so the only fault left is a block that is open.
    rw [ran, follow_ok] at stopped
    cases opened : pass.opened with
    | none =>
      rw [opened] at stopped
      exact absurd (congrArg Prod.fst stopped) (by simp)
    | some block =>
      rw [opened] at stopped
      simp only [Prod.mk.injEq, Except.error.injEq] at stopped
      exact absurd stopped.1.symm (closed block.kind block.line)

/--
A pass over two scripts, one behind the other, is a pass over the first and then over the second.

If the first pass succeeds, the second one starts from the session that it leaves. It decides how
the whole pass ends and which session it leaves. The batches are joined, and the numbers of lines
of the second script grow by the length of the first, in the list of rejected lines as well as in
errors. If the first pass stops for any other reason than that a block is open at its end, the whole
pass stops for the same reason and leaves the same session.
-/
theorem validate_append (settings : Settings) (fuel : Nat) (first second : List String)
    (session : Session κ) :
    (∀ batch middle, outcome (validate settings fuel first) session = (.ok batch, middle) →
      outcome (validate settings fuel (first ++ second)) session =
        match outcome (validate settings fuel second) middle with
        | (.ok other, after) =>
          (.ok { queued := batch.queued ++ other.queued,
                 rejected := batch.rejected ++ other.rejected.map fun (number, text) =>
                   (number + first.length, text) }, after)
        | (.error halt, after) => (.error (halt.renumber (· + first.length)), after)) ∧
    ∀ halt after, outcome (validate settings fuel first) session = (.error halt, after) →
      (∀ kind line, halt ≠ .failure (.missingEnd kind line)) →
        outcome (validate settings fuel (first ++ second)) session = (.error halt, after) := by
  -- A first part that passes hands its state on; one that stops hides what comes behind it.
  refine ⟨?_, ?_⟩
  · intro batch middle passed
    rw [outcome_validate_append passed second]
    rcases outcome (validate settings fuel second) middle with ⟨halt | other, after⟩
    · rfl
    · rfl
  · intro halt after stopped closed
    exact outcome_validate_append_error stopped closed second

/--
A second script is cut off inside a block, and the error counts the lines of the first one.

The first script alone succeeds. Another first script fails at a line that closes no block, and
fails there whatever comes behind it.
-/
theorem validate_append_open_block :
    ∃ (session middle : Session Recording) (batch : Batch),
      outcome (validate {} 9 ["x = 1", "", "spin"]) session = (.ok batch, middle) ∧
      outcome (validate {} 9 (["x = 1", "", "spin"] ++ ["while x < 3", "x = x + 1"])) session =
        (.error (.failure (.missingEnd .loop 4)), middle) ∧
      outcome (validate {} 9 (["x = 1", "endif"] ++ ["x = 2"])) session =
        (.error (.failure (.unmatchedEnd .branch)), middle) := by
  let session : Session Recording := Session.start {} {}
  let middle : Session Recording := { session with store := { entries := [("x", .int 1)] } }
  -- The same first part is followed by a block that stays open, and by nothing that counts.
  have passed : outcome (validate {} 9 ["x = 1", "", "spin"]) session =
      (.ok { rejected := #[(3, "spin")] }, middle) := by decide +kernel
  have cut : outcome (validate {} 9 ["while x < 3", "x = x + 1"]) middle =
      (.error (.failure (.missingEnd .loop 1)), middle) := by decide +kernel
  have unmatched : outcome (validate {} 9 ["x = 1", "endif"]) session =
      (.error (.failure (.unmatchedEnd .branch)), middle) := by decide +kernel
  refine ⟨session, middle, _, passed, ?_, ?_⟩
  · rw [(validate_append {} 9 _ ["while x < 3", "x = x + 1"] session).1 _ middle passed, cut]
    rfl
  · exact (validate_append {} 9 _ ["x = 2"] session).2 _ middle unmatched (by simp)

end Action

end Plotter
