import Plotter.Proofs.Looks

/-! The text of an operation leaves out what does not show of it, and nothing else. -/

namespace Plotter

open Text

/-- A style in which everything that does not show is the same as in every other one. -/
def Style.erased (style : Style) : Style :=
  -- A filled shape has no outline, and the inside of an outlined one is not painted.
  if style.fill.enabled then { style with pen := { color := .black, width := 0 } }
  else { style with fill := { style.fill with color := .black } }

/-- A shape with everything erased that does not show of its style. -/
def Shape.erased : Shape → Shape
  -- A line has no fill, so nothing of it is hidden.
  | line start stop pen => line start stop pen
  | rect corner width height style => rect corner width height style.erased
  | triangle corner side style => triangle corner side style.erased
  | circle center radius style => circle center radius style.erased

/-- An operation with everything erased that does not show. -/
def DrawOp.erased : DrawOp → DrawOp
  -- A background is painted whole and keeps its colour.
  | shape drawn => shape drawn.erased
  | clear background => clear background

/-- Styles differ only in what does not show if they agree in the fill or the pen that is used. -/
theorem Style.erased_eq_iff (first second : Style) :
    first.erased = second.erased ↔
      first.fill.enabled = second.fill.enabled ∧
        (first.fill.enabled = true → first.fill.color = second.fill.color) ∧
        (first.fill.enabled = false → first.pen = second.pen) := by
  obtain ⟨pen, enabled, color⟩ := first
  obtain ⟨other, also, chosen⟩ := second
  -- Whether a style is filled is never erased, so both of them have to be, or neither.
  cases enabled <;> cases also <;> simp [erased]

/-- What is seen of a style is what is left of it. -/
theorem Style.paint_eq_iff (first second : Style) :
    first.paint = second.paint ↔ first.erased = second.erased := by
  rw [erased_eq_iff]
  obtain ⟨pen, enabled, color⟩ := first
  obtain ⟨other, also, chosen⟩ := second
  -- Whether each style fills decides which of its two colours can be seen.
  cases enabled <;> cases also <;> simp [paint]

/-- What is left of a shape is its figure and what is seen of its style. -/
theorem Shape.erased_eq_iff (first second : Shape) :
    first.erased = second.erased ↔ first.figure = second.figure ∧ first.paint = second.paint := by
  -- Shapes of different kinds have different figures, and only lines have a pen of their own.
  cases first with
  | line start stop pen => cases second <;> simp [erased, figure, paint, and_assoc]
  | rect corner width height style =>
    cases second <;> simp [erased, figure, paint, Style.paint_eq_iff, and_assoc]
  | triangle corner side style =>
    cases second <;> simp [erased, figure, paint, Style.paint_eq_iff, and_assoc]
  | circle center radius style =>
    cases second <;> simp [erased, figure, paint, Style.paint_eq_iff, and_assoc]

/-- The text of a shape does not start like that of clearing the drawing. -/
theorem Shape.text_ne_clear (drawn : Shape) (background : Color) :
    (DrawOp.shape drawn).text ≠ (DrawOp.clear background).text := by
  intro same
  have characters := congrArg String.toList same
  -- The first characters tell all kinds apart but one, and a circle by its second character.
  cases drawn <;> simp [DrawOp.text, Shape.text] at characters

/--
The text of an operation hides only what does not show.

Two operations have the same text exactly if they are of one kind and equal in all that is left of
them when the pen of filled shapes and the colour of the inside of outlined ones are erased.
-/
theorem DrawOp.text_eq_iff_erased_eq (first second : DrawOp) :
    first.text = second.text ↔ first.erased = second.erased := by
  cases first with
  | shape drawn =>
    cases second with
    | shape other =>
      rw [erased, erased, shape.injEq, Shape.erased_eq_iff, ← Shape.text_eq_iff]
      rfl
    | clear background => simpa [erased] using drawn.text_ne_clear background
  | clear background =>
    cases second with
    | shape drawn => simpa [erased] using (drawn.text_ne_clear background).symm
    | clear other =>
      -- Behind the first word there is nothing but the name of the colour.
      simp only [text, erased, clear.injEq, String.append_right_inj]
      exact ⟨Color.name_inj, congrArg Color.name⟩

end Plotter
