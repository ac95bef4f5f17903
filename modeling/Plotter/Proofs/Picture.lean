import Plotter.Canvas.Picture
import Plotter.Canvas.Recording
import Plotter.Proofs.Alike

/-! A picture shows what a recording has kept since the drawing was last cleared, after any run. -/

namespace Plotter

open Plotter.Action

/-- Two canvases that are related stay so when the same operation is carried out on both. -/
def Canvas.Keeps {κ ι : Type} [Canvas κ] [Canvas ι] (related : κ → ι → Prop) : Prop :=
  -- One drawn operation at a time is enough, as canvases change in no other way.
  ∀ first second, related first second →
    ∀ op, related (Canvas.draw first op) (Canvas.draw second op)

namespace Picture

/-- The operations that have put the shapes of a picture where they are. -/
def shown (picture : Picture) : List DrawOp :=
  -- The background is no shape and is kept apart.
  picture.shapes.toList.map DrawOp.shape

/--
The picture is what the recorded operations leave of one that was empty and had the given colour.

Its shapes are the operations after the last one that clears, in order, and the background has the
colour of that one. If nothing was cleared, all operations are shown on the first colour.
-/
def Shows (start : Color) (recording : Recording) (picture : Picture) : Prop :=
  -- What comes before the last clear cannot be seen any more.
  (recording.ops.toList = picture.shown ∧ picture.background = start) ∨
    ∃ before, recording.ops.toList = before ++ .clear picture.background :: picture.shown

/-- A picture never shows an operation that clears. -/
theorem ne_clear_of_mem_shown {picture : Picture} {op : DrawOp} (member : op ∈ picture.shown)
    (background : Color) : op ≠ .clear background := by
  -- All that is shown is made of shapes.
  obtain ⟨shape, -, rfl⟩ := List.mem_map.mp member
  exact nofun

/-- A shape is added at the end of what a picture shows. -/
theorem shown_draw_shape (picture : Picture) (shape : Shape) :
    (Canvas.draw picture (.shape shape)).shown = picture.shown ++ [.shape shape] := by
  -- A shape comes behind those that are there.
  simp [Canvas.draw, shown]

/-- A picture that takes every operation goes on showing what the recording leaves of it. -/
theorem keeps_shows (start : Color) : Canvas.Keeps (Shows start) := by
  intro recording picture related op
  cases op with
  | shape drawn =>
    -- The shape is the newest operation on both sides.
    have kept : (Canvas.draw recording (.shape drawn)).ops.toList =
        recording.ops.toList ++ [.shape drawn] := Array.toList_push
    rcases related with ⟨all, first⟩ | ⟨before, split⟩
    · exact .inl ⟨by rw [kept, shown_draw_shape, all], first⟩
    · refine .inr ⟨before, ?_⟩
      rw [kept, shown_draw_shape, split, List.append_assoc, List.cons_append]
      rfl
  | clear background =>
    -- All that was recorded lies before the operation that clears, and nothing after it.
    exact .inr ⟨recording.ops.toList, Array.toList_push⟩

end Picture

/-- Two sessions that have everything in common but their canvases, which are related. -/
structure Session.Alike {κ ι : Type} (related : κ → ι → Prop) (first : Session κ)
    (second : Session ι) : Prop where
  /-- The canvases are related. -/
  canvas : related first.canvas second.canvas
  /-- The variables are the same. -/
  store : first.store = second.store
  /-- The drawing contexts are the same. -/
  context : first.context = second.context
  /-- The same notices were given. -/
  notices : first.notices = second.notices

namespace Session

variable {κ ι : Type} [Canvas κ] [Canvas ι] {related : κ → ι → Prop}

/-- An effect changes two sessions in the same way. -/
theorem Alike.change (keeps : Canvas.Keeps related) {first : Session κ} {second : Session ι}
    (alike : first.Alike related second) (effect : Effect) :
    (effect.change first).Alike related (effect.change second) := by
  obtain ⟨canvas, store, context, notices⟩ := alike
  cases effect with
  | draw op cursor =>
    -- Of the four effects only a drawing operation reaches the canvas.
    exact ⟨keeps _ _ canvas op, store, by simp only [Effect.change, context], notices⟩
  | adjust adjusted => exact ⟨canvas, store, rfl, notices⟩
  | bind name value => exact ⟨canvas, by simp only [Effect.change, store], context, notices⟩
  | notify notice => exact ⟨canvas, store, context, by simp only [Effect.change, notices]⟩

/-- Steps in order have the same results whatever they draw on, and keep the canvases related. -/
theorem Alike.run (keeps : Canvas.Keeps related) (settings : Settings) {first : Session κ}
    {second : Session ι} (alike : first.Alike related second) (steps : List Step) :
    first.results settings steps = second.results settings steps ∧
      (first.after settings steps).Alike related (second.after settings steps) :=
  -- Being alike is a likeness of sessions, and those go through any steps.
  Likeness.run ⟨Alike related, Alike.store, Alike.context, Alike.change keeps⟩ settings alike steps

/--
A picture refines a recording.

Two sessions start with the same variables, context and notices, one of them on an empty recording
and the other on an empty picture. After any steps, whether they succeed or fail, both have had the
same results and again have the same variables, context and notices. The shapes of the picture are
the operations recorded since the last one that clears, and none of them clears.
-/
theorem picture_refines_recording (settings : Settings) (store : Variables) (context : Context)
    (notices : Array Notice) (size : Size) (background : Color) (steps : List Step) :
    let recorded : Session Recording := { canvas := {}, store, context, notices }
    let pictured : Session Picture := { canvas := { size, background }, store, context, notices }
    let kept := recorded.after settings steps
    let drawn := pictured.after settings steps
    pictured.results settings steps = recorded.results settings steps ∧
    drawn.store = kept.store ∧ drawn.context = kept.context ∧ drawn.notices = kept.notices ∧
    drawn.canvas.Shows background kept.canvas ∧
    ∀ op ∈ drawn.canvas.shown, ∀ color, op ≠ .clear color := by
  intro recorded pictured kept drawn
  -- At first nothing is recorded, and nothing is shown.
  have start : recorded.Alike (Picture.Shows background) pictured :=
    ⟨.inl ⟨rfl, rfl⟩, rfl, rfl, rfl⟩
  obtain ⟨same, alike⟩ := start.run (Picture.keeps_shows background) settings steps
  exact ⟨same.symm, alike.store.symm, alike.context.symm, alike.notices.symm, alike.canvas,
    fun _ member => Picture.ne_clear_of_mem_shown member⟩

end Session

end Plotter
