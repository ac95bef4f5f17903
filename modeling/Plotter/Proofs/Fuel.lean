import Plotter.Proofs.LoopLimit

/-! Fuel: what comes to an end comes to the same end with more fuel. -/

namespace Plotter.Action

variable {κ α β : Type}

/-- The second action does what the first one does, wherever that one does not run out of fuel. -/
def Outlasted (first second : Action κ α) : Prop :=
  -- Running out is the one outcome that more fuel may change.
  ∀ session, (outcome first session).1 ≠ .error .outOfFuel →
    outcome second session = outcome first session

namespace Outlasted

/-- Every action is outlasted by itself. -/
protected theorem refl (action : Action κ α) : Outlasted action action :=
  -- Nothing has changed, so neither has the outcome.
  fun _ _ => rfl

/-- Actions that have the outcomes of others are outlasted as these are. -/
theorem congr {first second third fourth : Action κ α} (outlasted : Outlasted third fourth)
    (one : ∀ session, outcome first session = outcome third session)
    (two : ∀ session, outcome second session = outcome fourth session) :
    Outlasted first second := by
  intro session ended
  -- Both sides may be replaced, as only their outcomes are compared.
  rw [one] at ended ⊢
  rw [two]
  exact outlasted session ended

/-- Two actions in a row are outlasted by two that outlast each of them. -/
protected theorem bind {first second : Action κ α} {next rest : α → Action κ β}
    (nextBlind : ∀ value, LogBlind (next value)) (restBlind : ∀ value, LogBlind (rest value))
    (outlasted : Outlasted first second) (also : ∀ value, Outlasted (next value) (rest value)) :
    Outlasted (first >>= next) (second >>= rest) := by
  intro session ended
  rw [outcome_bind nextBlind] at ended ⊢
  rw [outcome_bind restBlind]
  -- Where the whole comes to its end, so does its first action.
  have front : (outcome first session).1 ≠ .error .outOfFuel := by
    intro dry
    rcases ran : outcome first session with ⟨halt | value, after⟩
    · simp only [ran, Except.error.injEq] at dry
      simp [ran, dry] at ended
    · simp [ran] at dry
  rw [outlasted session front]
  rcases ran : outcome first session with ⟨halt | value, after⟩
  · rfl
  · rw [ran, follow_ok] at ended
    exact also value after ended

/-- Changing the value of an action makes no difference to what outlasts it. -/
protected theorem map {first second : Action κ α} (change : α → β)
    (outlasted : Outlasted first second) : Outlasted (change <$> first) (change <$> second) := by
  -- A change of the value is an action that is followed by giving the changed value.
  rw [← bind_pure_comp, ← bind_pure_comp]
  exact Outlasted.bind (fun _ => LogBlind.pure _) (fun _ => LogBlind.pure _) outlasted
    fun _ => Outlasted.refl _

/-- Items in a row are outlasted if each of them is. -/
protected theorem forM {step stride : α → Action κ Unit}
    (stepBlind : ∀ item, LogBlind (step item)) (strideBlind : ∀ item, LogBlind (stride item))
    (each : ∀ item, Outlasted (step item) (stride item)) (items : List α) :
    Outlasted (items.forM step) (items.forM stride) := by
  -- The induction is on the items, of which the first is followed by the others.
  induction items with
  | nil => exact Outlasted.refl _
  | cons item rest ih =>
    exact Outlasted.bind (fun _ => LogBlind.forM stepBlind rest)
      (fun _ => LogBlind.forM strideBlind rest) (each item) fun _ => ih

end Outlasted

variable [Canvas κ] {fuel more : Nat}

/-- A loop that comes to its end does so with more fuel. -/
theorem outlasted_runLoop (settings : Settings) (enough : fuel ≤ more) (condition : String)
    (body : List Command) :
    Outlasted (runLoop settings fuel condition body : Action κ Nat)
      (runLoop settings more condition body) := by
  intro session ended
  -- Both loops read the same condition, and a malformed one stops both.
  rw [outcome_runLoop] at ended ⊢
  rw [outcome_runLoop]
  cases read : Condition.parse condition with
  | error malformed => rfl
  | ok parsed =>
    rw [read] at ended
    cases bound : settings.loopLimit with
    | some limit => rfl
    | none =>
      -- Without a limit it is the fuel that the iterations are counted against.
      have reason : exhausted settings = .outOfFuel := by rw [exhausted, bound]
      have same : settings.withLimit settings.loopLimit = settings := rfl
      simp only [bound, Option.getD_none, ← reason] at ended ⊢
      have longer := outcome_iterate_withLimit ended enough settings.loopLimit
      rwa [same] at longer

/-- A block that comes to its end does so with more fuel. -/
theorem outlasted_runBlock (settings : Settings) (enough : fuel ≤ more) (block : Block) :
    Outlasted (runBlock settings fuel block : Action κ Unit) (runBlock settings more block) := by
  unfold runBlock
  -- A branch is gone through once, whatever the fuel.
  cases block.kind with
  | loop => exact (outlasted_runLoop settings enough _ _).map _
  | branch => exact Outlasted.refl _

/-- What an item does at once is done with more fuel if it comes to its end. -/
theorem outlasted_atOnce (settings : Settings) (enough : fuel ≤ more) (item : Item) :
    Outlasted (item.atOnce settings fuel : Action κ Unit) (item.atOnce settings more) := by
  -- Of all items, only a block is carried out at once and may loop.
  cases item with
  | block closed => exact outlasted_runBlock settings enough closed
  | assignment name value | queued command | rejected number text | fault error =>
    exact Outlasted.refl _

/-- Items that are carried out to the end are so with more fuel. -/
theorem outlasted_carryOut (settings : Settings) (enough : fuel ≤ more) (batch : Batch)
    (items : List Item) :
    Outlasted (carryOut settings fuel batch items : Action κ Batch)
      (carryOut settings more batch items) := by
  -- The second phase uses no fuel.
  refine Outlasted.bind (fun _ => ?first) (fun _ => ?second)
    (Outlasted.forM (atOnce_logBlind settings fuel) (atOnce_logBlind settings more)
      (outlasted_atOnce settings enough) items) fun _ => Outlasted.refl _
  case first | second => split <;> simp

/-- A pass over a script that comes to its end does so with more fuel. -/
theorem outlasted_validate (settings : Settings) (enough : fuel ≤ more) (lines : List String) :
    Outlasted (validate settings fuel lines : Action κ Batch) (validate settings more lines) :=
  -- A pass is its items carried out, and reading them needs no fuel.
  (outlasted_carryOut settings enough {} _).congr (outcome_validate settings fuel lines)
    (outcome_validate settings more lines)

/-- A run of a script that comes to its end does so with more fuel. -/
theorem outlasted_runScript (settings : Settings) (enough : fuel ≤ more) (lines : List String) :
    Outlasted (runScript settings fuel lines : Action κ Batch) (runScript settings more lines) :=
  -- Only the pass takes fuel to its blocks; the run of the batch does without.
  Outlasted.bind (runBatch_logBlind settings) (runBatch_logBlind settings)
    (outlasted_validate settings enough lines) fun _ => Outlasted.refl _

/-- Runs of a script that come to their ends come to the same one. -/
theorem outcome_runScript_unique {settings : Settings} {lines : List String} {session : Session κ}
    (ended : (outcome (runScript settings fuel lines) session).1 ≠ .error .outOfFuel)
    (also : (outcome (runScript settings more lines) session).1 ≠ .error .outOfFuel) :
    outcome (runScript settings fuel lines) session =
      outcome (runScript settings more lines) session := by
  -- The run with less fuel is outlasted by the other one.
  rcases Nat.le_total fuel more with enough | enough
  · exact (outlasted_runScript settings enough lines session ended).symm
  · exact outlasted_runScript settings enough lines session also

end Plotter.Action
