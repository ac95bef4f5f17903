import Mathlib.Data.List.Forall2
import Mathlib.Order.Nat
import Plotter.Canvas.Recording
import Plotter.Proofs.Execute
import Plotter.Proofs.Resolve
import Plotter.Proofs.Tokens

/-! Moves lead to exact sums, or stop where the first sum is no longer a number. -/

namespace Plotter

open Plotter.Action

/-- The exact coordinates of a point. -/
def Point.place (p : Point) : Int × Int :=
  -- In the integers a move can be added without any limit.
  (p.x.toInt, p.y.toInt)

/-- The exact coordinates that distances lead to from a point, as if numbers had no ends. -/
def Point.along (start : Point) (distances : List (Number × Number)) : Int × Int :=
  -- The sums are exact, even if a point on the way could not be stored.
  distances.foldl (fun (left, top) (dx, dy) => (left + dx.toInt, top + dy.toInt)) start.place

/-- Both coordinates are in the range of numbers. -/
def Fits (place : Int × Int) : Prop :=
  -- Both coordinates have to fit, each for itself.
  (-2147483648 ≤ place.1 ∧ place.1 ≤ 2147483647) ∧ -2147483648 ≤ place.2 ∧ place.2 ≤ 2147483647

instance (place : Int × Int) : Decidable (Fits place) :=
  -- The bounds are numbers, so the comparisons can be made.
  inferInstanceAs (Decidable (_ ∧ _))

/-- The session with its cursor at another point. -/
def Session.withCursor {κ : Type} (session : Session κ) (cursor : Point) : Session κ :=
  -- The rest of the context stays, as do canvas, store and notices.
  { session with context := { session.context with cursor } }

/-- The cursor is where it was put. -/
@[simp] theorem Session.cursor_withCursor {κ : Type} (session : Session κ) (cursor : Point) :
    (session.withCursor cursor).context.cursor = cursor := rfl

namespace Point

/-- Without a distance a point stays in its place. -/
@[simp] theorem along_nil (start : Point) : start.along [] = start.place := rfl

/-- One distance is added in both coordinates. -/
theorem along_singleton (start : Point) (distance : Number × Number) :
    start.along [distance] =
      (start.x.toInt + distance.1.toInt, start.y.toInt + distance.2.toInt) := rfl

/-- Distances lead on from the place that the distances before them have led to. -/
theorem along_append {start next : Point} {before : List (Number × Number)}
    (reached : next.place = start.along before) (after : List (Number × Number)) :
    start.along (before ++ after) = next.along after := by
  -- The second way starts from where the first one has led.
  rw [along, along, List.foldl_append, reached]
  rfl

/-- Every point has its coordinates in range. -/
theorem fits_place (p : Point) : Fits p.place :=
  -- Coordinates of a point are numbers already.
  ⟨(Number.exists_ofInt?_iff _).mp ⟨p.x, (Number.ofInt?_eq_some_iff _ _).mpr rfl⟩,
    (Number.exists_ofInt?_iff _).mp ⟨p.y, (Number.ofInt?_eq_some_iff _ _).mpr rfl⟩⟩

/-- If distances lead out of range at all, there is a first one that does. -/
theorem exists_first_wide (start : Point) {distances : List (Number × Number)}
    (wide : ∃ count ≤ distances.length, ¬ Fits (start.along (distances.take count))) :
    ∃ count < distances.length, (∀ earlier ≤ count, Fits (start.along (distances.take earlier))) ∧
      ¬ Fits (start.along (distances.take (count + 1))) := by
  classical
  obtain ⟨within, out⟩ := Nat.find_spec wide
  have before : ∀ earlier < Nat.find wide, Fits (start.along (distances.take earlier)) := by
    intro earlier less
    have inside := Nat.find_min wide less
    rw [not_and_not_right] at inside
    exact inside (Nat.le_trans (Nat.le_of_lt less) within)
  cases first : Nat.find wide with
  | zero =>
    -- Before the first distance the cursor is at a point, which is in range.
    rw [first, List.take_zero, along_nil] at out
    exact (out start.fits_place).elim
  | succ count =>
    rw [first] at within out before
    exact ⟨count, within, fun earlier less => before earlier (Nat.lt_succ_of_le less), out⟩

end Point

namespace Effect

variable {cursor : Point} {distance : Number × Number}

/-- A move to a place in range comes to the point there. -/
theorem moved_of_fits (fits : Fits (cursor.along [distance])) :
    ∃ target, target.place = cursor.along [distance] ∧
      moved cursor distance.1 distance.2 = .ok target := by
  obtain ⟨left, top⟩ := fits
  -- Each coordinate in range is one number, and the two numbers are where the move ends.
  obtain ⟨x, first⟩ := (Number.exists_ofInt?_iff _).mpr left
  obtain ⟨y, second⟩ := (Number.exists_ofInt?_iff _).mpr top
  rw [Point.along_singleton] at first second
  refine ⟨⟨x, y⟩, ?_, by rw [moved, first, second]⟩
  rw [Number.ofInt?_eq_some_iff] at first second
  exact Prod.ext first second

/-- A move to a place that is out of range fails, whichever of the coordinates is. -/
theorem moved_of_not_fits (wide : ¬ Fits (cursor.along [distance])) :
    moved cursor distance.1 distance.2 =
      .error (.moveOverflow cursor distance.1 distance.2) := by
  unfold moved
  split
  · rename_i x y first second
    -- Two coordinates that are numbers would be in range.
    have fits : Fits (cursor.along [distance]) := by
      rw [Fits, ← Number.exists_ofInt?_iff, ← Number.exists_ofInt?_iff]
      exact ⟨⟨x, first⟩, y, second⟩
    exact (wide fits).elim
  · rfl

end Effect

/-- Two operands stand for the two numbers of a distance. -/
def Variables.Measures (store : Variables) (operands : Operand × Operand)
    (distance : Number × Number) : Prop :=
  -- Both operands are resolved in the same store.
  store.resolve operands.1 = .ok distance.1 ∧ store.resolve operands.2 = .ok distance.2

/-- The commands that move the cursor by some distances, one after the other. -/
def Command.moves (operands : List (Operand × Operand)) : List Command :=
  -- The order of the moves is that of the operands.
  operands.map fun (dx, dy) => moveBy dx dy

namespace Action

variable {κ : Type} [Canvas κ] {settings : Settings} {session : Session κ}

/-- A move changes the cursor and nothing else, or changes nothing at all. -/
theorem outcome_execute_moveBy {operands : Operand × Operand} {distance : Number × Number}
    (measured : session.store.Measures operands distance) :
    outcome (execute settings (.moveBy operands.1 operands.2)) session =
      match Effect.moved session.context.cursor distance.1 distance.2 with
      | .ok target => (.ok (), session.withCursor target)
      | .error error => (.error (.failure error), session) := by
  rw [outcome_execute, Effect.ofCommand, measured.1, measured.2]
  simp only [Bind.bind, Except.bind]
  -- With both operands resolved, only the sum is left to decide.
  cases Effect.moved session.context.cursor distance.1 distance.2 <;> rfl

/-- Moves whose sums are all in range lead to the exact sums of their distances. -/
theorem outcome_moves_of_fits (settings : Settings) (session : Session κ)
    {operands : List (Operand × Operand)} {distances : List (Number × Number)}
    (measured : List.Forall₂ session.store.Measures operands distances)
    (fits : ∀ count ≤ distances.length,
      Fits (session.context.cursor.along (distances.take count))) :
    ∃ cursor, cursor.place = session.context.cursor.along distances ∧
      outcome (executeAll settings (Command.moves operands)) session =
        (.ok (), session.withCursor cursor) := by
  generalize held : session.store = store at measured
  -- The induction is on the moves, each of which starts where the one before it has led.
  induction measured generalizing session with
  | nil => exact ⟨session.context.cursor, by simp, rfl⟩
  | @cons pair distance operands distances first rest ih =>
    obtain ⟨target, reached, moved⟩ := Effect.moved_of_fits (fits 1 (by simp))
    have step : outcome (execute settings (.moveBy pair.1 pair.2)) session =
        (.ok (), session.withCursor target) := by
      rw [outcome_execute_moveBy (held ▸ first), moved]
    -- What is in range along the whole way is so along what is left of it.
    have onward : ∀ count ≤ distances.length, Fits (target.along (distances.take count)) := by
      intro count within
      have later := fits (count + 1) (Nat.succ_le_succ within)
      exact Point.along_append reached (distances.take count) ▸ later
    obtain ⟨cursor, ends, ran⟩ := ih (session.withCursor target) onward held
    refine ⟨cursor, ends.trans (Point.along_append reached distances).symm, ?_⟩
    show outcome (executeAll settings (.moveBy pair.1 pair.2 :: Command.moves operands)) session = _
    rw [outcome_executeAll_cons, step, follow_ok, ran]
    rfl

/-- Moves stop at the first one whose sums are not in range, where the moves before it have led. -/
theorem outcome_moves_of_not_fits (settings : Settings) (session : Session κ)
    {operands : List (Operand × Operand)} {distances : List (Number × Number)}
    (measured : List.Forall₂ session.store.Measures operands distances) {count : Nat}
    (within : count < distances.length)
    (fits : ∀ earlier ≤ count, Fits (session.context.cursor.along (distances.take earlier)))
    (wide : ¬ Fits (session.context.cursor.along (distances.take (count + 1)))) :
    ∃ cursor, cursor.place = session.context.cursor.along (distances.take count) ∧
      outcome (executeAll settings (Command.moves operands)) session =
        (.error (.failure (.moveOverflow cursor distances[count].1 distances[count].2)),
          session.withCursor cursor) := by
  obtain ⟨cursor, reached, ran⟩ := outcome_moves_of_fits settings session
    (List.forall₂_take count measured) fun earlier less => by
      rw [List.length_take, Nat.min_eq_left (Nat.le_of_lt within)] at less
      rw [List.take_take, Nat.min_eq_left less]
      exact fits earlier less
  refine ⟨cursor, reached, ?_⟩
  -- Moves leave the variables alone, so the operands still stand for the same distance.
  have inside : count < operands.length := measured.length_eq ▸ within
  have here : (session.withCursor cursor).store.Measures operands[count] distances[count] :=
    measured.get inside within
  -- The move itself starts where the moves before it have led, and leads out of range.
  have out : ¬ Fits (cursor.along [distances[count]]) := by
    rwa [← Point.along_append reached, List.take_append_getElem within]
  -- All moves before it succeed, and it fails in the session that they have left behind.
  rw [outcome_executeAll_error_iff]
  refine ⟨count, by simpa [Command.moves] using inside, ?_, ?_⟩
  · rw [Command.moves, ← List.map_take]
    exact ran
  · simp only [Command.moves, List.getElem_map]
    rw [outcome_execute_moveBy here, Session.cursor_withCursor, Effect.moved_of_not_fits out]

/--
Moves are exact, and stop before they would leave the range of numbers.

Moves in order succeed exactly if both coordinates are in range after each of them, and then the
cursor is at the exact sums of all distances. Otherwise the first move that leads out of range in
either of its coordinates fails, and the cursor is at the exact sums of the distances before it.
Nothing but the cursor is changed in either case.
-/
theorem moves_reach_exact_sums (settings : Settings) (session : Session κ)
    {operands : List (Operand × Operand)} {distances : List (Number × Number)}
    (measured : List.Forall₂ session.store.Measures operands distances) :
    let place := fun count => session.context.cursor.along (distances.take count)
    let ran := outcome (executeAll settings (Command.moves operands)) session
    (ran.1 = .ok () ↔ ∀ count ≤ distances.length, Fits (place count)) ∧
    (ran.1 = .ok () → ∃ cursor, cursor.place = place distances.length ∧
      ran.2 = session.withCursor cursor) ∧
    (ran.1 ≠ .ok () → ∃ count, ∃ within : count < distances.length, ∃ cursor error,
      (∀ earlier ≤ count, Fits (place earlier)) ∧ ¬ Fits (place (count + 1)) ∧
      cursor.place = place count ∧ ran = (.error (.failure error), session.withCursor cursor) ∧
      error = .moveOverflow cursor distances[count].1 distances[count].2 ∧
      error.kind = .outOfRange) := by
  intro place ran
  -- Either no sum leaves the range, or there is a first one that does.
  by_cases fits : ∀ count ≤ distances.length, Fits (place count)
  · obtain ⟨cursor, reached, ended⟩ := outcome_moves_of_fits settings session measured fits
    have whole : place distances.length = session.context.cursor.along distances := by
      simp [place]
    have ok : ran = (.ok (), session.withCursor cursor) := ended
    rw [ok]
    exact ⟨iff_of_true rfl fits, fun _ => ⟨cursor, reached.trans whole.symm, rfl⟩,
      fun failed => (failed rfl).elim⟩
  · have some : ∃ count ≤ distances.length, ¬ Fits (place count) := by
      simpa only [not_forall, exists_prop] using fits
    obtain ⟨count, within, before, wide⟩ := session.context.cursor.exists_first_wide some
    obtain ⟨cursor, reached, stopped⟩ :=
      outcome_moves_of_not_fits settings session measured within before wide
    have error : ran = (.error (.failure (.moveOverflow cursor distances[count].1
        distances[count].2)), session.withCursor cursor) := stopped
    rw [error]
    exact ⟨iff_of_false nofun fits, nofun,
      fun _ => ⟨count, within, cursor, _, before, wide, reached, rfl, rfl, rfl⟩⟩

/--
A move is not made in one coordinate if the other one leads out of range.

The distances of three moves lead to a point, but the second of them leads too far up on the way.
-/
theorem moves_reach_exact_sums_too_far_up :
    ∃ (session : Session Recording) (operands : List (Operand × Operand))
      (distances : List (Number × Number)) (cursor : Point) (error : Error),
      List.Forall₂ session.store.Measures operands distances ∧
      Fits (session.context.cursor.along distances) ∧ cursor.place = (7, -2147483648) ∧
      outcome (executeAll {} (Command.moves operands)) session =
        (.error (.failure error), session.withCursor cursor) ∧ error.kind = .outOfRange := by
  let session : Session Recording :=
    { Session.start {} {} with store := { entries := [("x", .int 7)] } }
  let operands : List (Operand × Operand) :=
    [(.var "x", .lit (-2147483648)), (.lit 1, .lit (-1)), (.lit (-8), .lit 2147483647)]
  let distances : List (Number × Number) := [(7, -2147483648), (1, -1), (-8, 2147483647)]
  have measured : List.Forall₂ session.store.Measures operands distances :=
    .cons ⟨by decide +kernel, rfl⟩ (.cons ⟨rfl, rfl⟩ (.cons ⟨rfl, rfl⟩ .nil))
  obtain ⟨succeeds, -, fails⟩ := moves_reach_exact_sums {} session measured
  have failed := fails fun ok => absurd (succeeds.mp ok 2 (by decide)) (by decide)
  obtain ⟨count, within, cursor, error, before, wide, reached, stopped, -, kind⟩ := failed
  -- The first move does not lead out of range, and the last one is behind the one that does.
  obtain rfl : count = 1 := by
    match count, within with
    | 0, _ => exact (wide (by decide)).elim
    | 1, _ => rfl
    | 2, _ => exact absurd (before 2 (Nat.le_refl 2)) (by decide)
  exact ⟨session, operands, distances, cursor, error, measured, by decide, reached, stopped, kind⟩

end Action

end Plotter
