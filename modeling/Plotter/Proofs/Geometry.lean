import Plotter.Canvas.Recording
import Plotter.Proofs.Request
import Plotter.Proofs.RoundTrip

/-! Only checked geometry is recorded: one pen width, no sizes below zero, and known colours. -/

namespace Plotter

open Plotter.Action

/-- A fresh session with the given variables, and with nothing recorded yet. -/
def Session.onRecording (settings : Settings) (store : Variables) : Session Recording :=
  -- The store may hold anything, also values that no command has put there.
  { Session.start settings {} with store }

/-- What every style comes up to, and every operation, if commands are of an admitted kind. -/
structure Standard (settings : Settings) (admitted : Command → Prop) where
  /-- Whether a style comes up to the standard. -/
  good : Style → Prop
  /-- Whether an operation does. -/
  fine : DrawOp → Prop
  /-- The style at the start is good. -/
  start : good (Context.initial settings).style
  /-- It stays good with another fill. -/
  fill {style : Style} {enabled : Bool} {color : Color} (chosen : admitted (.fill enabled color))
    (before : good style) : good { style with fill := { enabled, color } }
  /-- It stays good with another colour of the pen. -/
  pen {style : Style} {color : Color} (chosen : admitted (.pen color)) (before : good style) :
    good { style with pen := { style.pen with color } }
  /-- A line with the pen of a good style is fine. -/
  line {style : Style} (before : good style) (start stop : Point) :
    fine (.shape (.line start stop style.pen))
  /-- So is a closed shape in such a style, if neither a size nor the pen is below zero. -/
  closed {style : Style} {shape : Shape} (before : good style) (styled : shape.style? = some style)
    (sizes : ∀ size ∈ shape.sizes, 0 ≤ size) (width : 0 ≤ style.pen.width) : fine (.shape shape)
  /-- So is clearing the drawing. -/
  clear : fine (.clear settings.background)

namespace Standard

variable {settings : Settings} {admitted : Command → Prop}

/-- The style of the context is good, and every recorded operation is fine. -/
structure Met (standard : Standard settings admitted) (session : Session Recording) : Prop where
  /-- The style that the next closed shape would have. -/
  style : standard.good session.context.style
  /-- The operations so far. -/
  ops : ∀ op ∈ session.canvas.ops, standard.fine op

variable {standard : Standard settings admitted}

/-- A session that has nothing recorded yet meets every standard. -/
theorem met_start (standard : Standard settings admitted) (store : Variables) :
    standard.Met (.onRecording settings store) :=
  -- Nothing is drawn yet, so only the initial style counts.
  ⟨standard.start, by simp [Session.onRecording, Session.start]⟩

/-- One effect of an admitted command leaves a standard met. -/
theorem Met.change {session : Session Recording} {command : Command} {effect : Effect}
    (met : standard.Met session) (allowed : admitted command)
    (has : Effect.Has settings session.context command effect) :
    standard.Met (effect.change session) := by
  -- A drawing operation is recorded behind the others, and only its own case is new.
  have recorded : ∀ op, standard.fine op →
      ∀ other ∈ session.canvas.ops.push op, standard.fine other := by
    intro op new other member
    rcases Array.mem_push.mp member with old | rfl
    · exact met.ops other old
    · exact new
  cases has with
  | line kind target => exact ⟨met.style, recorded _ (standard.line met.style _ _)⟩
  | closed kind style sizes width =>
    exact ⟨met.style, recorded _ (standard.closed met.style style sizes width)⟩
  | clear chosen => exact ⟨met.style, recorded _ standard.clear⟩
  | move kind cursor => exact ⟨met.style, met.ops⟩
  | reset chosen => exact ⟨standard.start, met.ops⟩
  | stay chosen => exact ⟨met.style, met.ops⟩
  | fill chosen => exact ⟨standard.fill (chosen ▸ allowed) met.style, met.ops⟩
  | pen chosen => exact ⟨standard.pen (chosen ▸ allowed) met.style, met.ops⟩
  | bind target passed => exact ⟨met.style, met.ops⟩
  | notify chosen => exact ⟨met.style, met.ops⟩

/-- Requests that bring admitted commands alone leave a standard met. -/
theorem Met.afterRequests {session : Session Recording} (met : standard.Met session)
    {requests : List (Nat × Request)}
    (each : ∀ fuel request command, (fuel, request) ∈ requests → request.Brings command →
      admitted command) : standard.Met (session.afterRequests settings requests) := by
  refine Session.invariant_afterRequests (fun fuel request command member brought => ?_) met
  -- One decided command is enough: the invariant carries it over all requests.
  intro before effect holds decided
  exact holds.change (each fuel request command member brought) (Effect.has_of_ofCommand decided)

end Standard

/-- A closed shape has the pen of its style. -/
theorem Shape.pen_of_style? {shape : Shape} {style : Style} (styled : shape.style? = some style) :
    shape.pen = style.pen := by
  -- The three closed shapes keep their pen in the style that they give.
  cases shape with
  | line start stop pen => cases styled
  | rect corner width height own => exact congrArg Style.pen (Option.some.inj styled)
  | triangle corner side own => exact congrArg Style.pen (Option.some.inj styled)
  | circle center radius own => exact congrArg Style.pen (Option.some.inj styled)

/-- A shape has the pen of the settings, and a closed one nothing below zero. -/
def Shape.Measured (settings : Settings) (shape : Shape) : Prop :=
  -- Only shapes with a style are held to sizes: a line may be drawn with a negative width.
  shape.pen.width = settings.lineWidth ∧
    (shape.style? ≠ none → 0 ≤ shape.pen.width ∧ ∀ size ∈ shape.sizes, 0 ≤ size)

/-- A closed shape is measured by its style and its sizes. -/
theorem Shape.measured_of_style? {settings : Settings} {shape : Shape} {style : Style}
    (styled : shape.style? = some style) (same : style.pen.width = settings.lineWidth)
    (width : 0 ≤ style.pen.width) (sizes : ∀ size ∈ shape.sizes, 0 ≤ size) :
    shape.Measured settings := by
  -- The pen of a closed shape is the pen of its style.
  rw [Measured, pen_of_style? styled]
  exact ⟨same, fun _ => ⟨width, sizes⟩⟩

/-- The colours that a session can come to have: that of the settings, and the palette. -/
def Settings.colors (settings : Settings) : List Color :=
  -- The initial pen may have any colour at all.
  settings.pen :: Color.palette

/-- The colours of a style are known, and what is filled is filled from the palette. -/
structure Style.Colored (settings : Settings) (style : Style) : Prop where
  /-- The colour of the pen. -/
  pen : style.pen.color ∈ settings.colors
  /-- The colour of the fill, whether it shows or not. -/
  fill : style.fill.color ∈ settings.colors
  /-- The colour of a fill that shows. -/
  filled : style.fill.enabled = true → style.fill.color ∈ Color.palette

/-- The colours of a shape are known. -/
def Shape.Colored (settings : Settings) (shape : Shape) : Prop :=
  -- For a closed shape both the pen and the fill have to be accounted for.
  shape.pen.color ∈ settings.colors ∧ ∀ style, shape.style? = some style → style.Colored settings

/-- A closed shape has the colours of its style. -/
theorem Shape.colored_of_style? {settings : Settings} {shape : Shape} {style : Style}
    (styled : shape.style? = some style) (known : style.Colored settings) :
    shape.Colored settings := by
  -- The style that a closed shape gives is the only one to look at.
  rw [Colored, pen_of_style? styled, styled]
  exact ⟨known.pen, fun other same => Option.some.inj same ▸ known⟩

/-- One width of the pen, and no sizes below zero, whatever the commands are. -/
def Standard.measured (settings : Settings) : Standard settings fun _ => True where
  -- No command sets a width, so the pen keeps the one that it began with.
  good style := style.pen.width = settings.lineWidth
  fine
    | .shape drawn => drawn.Measured settings
    | .clear background => background = settings.background
  start := rfl
  fill _ before := before
  pen _ before := before
  line before _ _ := ⟨before, fun closed => (closed rfl).elim⟩
  closed before styled sizes width := Shape.measured_of_style? styled before width sizes
  clear := rfl

/-- A line chooses fills and pens from the palette. -/
theorem Command.chosen_of_ofLine {line : String} {command : Command} {color : Color}
    (same : ofLine line = command)
    (chosen : command = .pen color ∨ ∃ enabled, command = .fill enabled color) :
    color ∈ Color.palette := by
  -- The grammar of both commands spells colours of the palette only.
  rcases chosen with rfl | ⟨enabled, rfl⟩
  · exact wellFormed_of_ofLine same rfl nofun
  · exact wellFormed_of_ofLine same rfl nofun

/-- The colours of the settings and the palette, if commands are spelled by lines. -/
def Standard.colored (settings : Settings) :
    Standard settings fun command => ∃ line, Command.ofLine line = command where
  -- A colour is chosen by a command that has a line, and lines name the palette.
  good := Style.Colored settings
  fine
    | .shape drawn => drawn.Colored settings
    | .clear _ => True
  start := ⟨List.mem_cons_self, List.mem_cons_self, nofun⟩
  fill chosen before := by
    obtain ⟨line, spelled⟩ := chosen
    have listed := Command.chosen_of_ofLine spelled (.inr ⟨_, rfl⟩)
    exact ⟨before.pen, List.mem_cons_of_mem _ listed, fun _ => listed⟩
  pen chosen before := by
    obtain ⟨line, spelled⟩ := chosen
    have listed := Command.chosen_of_ofLine spelled (.inl rfl)
    exact ⟨List.mem_cons_of_mem _ listed, before.fill, before.filled⟩
  line before _ _ := ⟨before.pen, nofun⟩
  closed before styled _ _ := Shape.colored_of_style? styled before
  clear := trivial

/--
Only checked geometry is recorded.

Whatever a session is asked to do and whether that succeeds or fails, the pen has the width of the
settings, and so has the pen of every recorded shape. A closed shape is recorded only if neither
that width nor a size of the shape is below zero. If all commands are spelled by lines, the colours
are those of the settings and the palette, and shapes are filled from the palette.
-/
theorem only_checked_geometry (settings : Settings) (store : Variables)
    (requests : List (Nat × Request)) :
    let session := (Session.onRecording settings store).afterRequests settings requests
    session.context.pen.width = settings.lineWidth ∧
    (∀ shape, .shape shape ∈ session.canvas.ops →
      shape.pen.width = settings.lineWidth ∧
        (shape.style? ≠ none → 0 ≤ shape.pen.width ∧ ∀ size ∈ shape.sizes, 0 ≤ size)) ∧
    (settings.lineWidth < 0 → ∀ shape, .shape shape ∈ session.canvas.ops → shape.style? = none) ∧
    (∀ background, .clear background ∈ session.canvas.ops → background = settings.background) ∧
    ((∀ fuel request command, (fuel, request) ∈ requests → request.Brings command →
        ∃ line, Command.ofLine line = command) →
      ∀ shape, .shape shape ∈ session.canvas.ops →
        shape.pen.color ∈ settings.pen :: Color.palette ∧
        ∀ style, shape.style? = some style →
          style.fill.color ∈ settings.pen :: Color.palette ∧
            (style.fill.enabled = true → style.fill.color ∈ Color.palette)) := by
  intro session
  have measured : (Standard.measured settings).Met session :=
    (Standard.met_start _ store).afterRequests fun _ _ _ _ _ => trivial
  have shapes : ∀ shape, .shape shape ∈ session.canvas.ops → shape.Measured settings :=
    fun shape recorded => measured.ops _ recorded
  refine ⟨measured.style, shapes, ?_, fun background recorded => measured.ops _ recorded, ?_⟩
  · intro negative shape recorded
    -- The width of a closed shape would be below zero, and is not.
    by_contra closed
    have width := (shapes shape recorded).1 ▸ ((shapes shape recorded).2 closed).1
    exact Int32.not_lt.mpr width negative
  · intro spelled shape recorded
    have colored : (Standard.colored settings).Met session :=
      (Standard.met_start _ store).afterRequests spelled
    obtain ⟨pen, styles⟩ : shape.Colored settings := colored.ops _ recorded
    refine ⟨pen, fun style styled => ?_⟩
    exact ⟨(styles style styled).fill, (styles style styled).filled⟩

/--
A filled triangle is recorded after a script that fails at a height below zero.

With a pen below zero, the line of the same script is recorded, and no closed shape is.
-/
theorem checked_geometry_after_failure :
    ∃ (requests : List (Nat × Request)) (triangle line : Shape) (style : Style),
      (∀ fuel request command, (fuel, request) ∈ requests → request.Brings command →
        ∃ line, Command.ofLine line = command) ∧
      .shape triangle ∈ ((Session.onRecording {} .empty).afterRequests {} requests).canvas.ops ∧
      triangle.style? = some style ∧ style.fill.enabled = true ∧
      0 ≤ triangle.pen.width ∧ (∀ size ∈ triangle.sizes, 0 ≤ size) ∧
      style.fill.color ∈ Color.palette ∧
      .shape line ∈ ((Session.onRecording { lineWidth := -1 } .empty).afterRequests
        { lineWidth := -1 } requests).canvas.ops ∧
      line.style? = none := by
  -- The script fails at its rectangle, after the loop has drawn and the fill was set.
  let requests : List (Nat × Request) :=
    [(9, .script ["x = 2", "while x > 1", "x = x - 1", "drawto x, -1", "endwhile",
      "fill on color:blue", "rect x, -1"]), (9, .command (.ofLine "trig x"))]
  let style : Style := ⟨⟨.black, 2⟩, ⟨true, .blue⟩⟩
  let triangle : Shape := .triangle ⟨1, -1⟩ 1 style
  let line : Shape := .line ⟨0, 0⟩ ⟨1, -1⟩ ⟨.black, -1⟩
  have spelled : ∀ fuel request command, (fuel, request) ∈ requests → request.Brings command →
      ∃ line, Command.ofLine line = command := by
    intro fuel request command member brought
    simp only [requests, List.mem_cons, Prod.mk.injEq, List.not_mem_nil, or_false] at member
    rcases member with ⟨-, rfl⟩ | ⟨-, rfl⟩
    · obtain ⟨line, -, same⟩ := brought
      exact ⟨line, same⟩
    · exact ⟨"trig x", brought.symm⟩
  obtain ⟨-, checked, -, -, colors⟩ := only_checked_geometry {} .empty requests
  obtain ⟨-, -, lines, -, -⟩ := only_checked_geometry { lineWidth := -1 } .empty requests
  have recorded : .shape triangle ∈
      ((Session.onRecording {} .empty).afterRequests {} requests).canvas.ops := by
    decide +kernel
  have also : .shape line ∈ ((Session.onRecording { lineWidth := -1 } .empty).afterRequests
      { lineWidth := -1 } requests).canvas.ops := by
    decide +kernel
  obtain ⟨width, sizes⟩ := (checked triangle recorded).2 (by decide)
  have color := ((colors spelled triangle recorded).2 style rfl).2 rfl
  exact ⟨requests, triangle, line, style, spelled, recorded, rfl, rfl, width, sizes, color, also,
    lines (by decide) line also⟩

end Plotter
