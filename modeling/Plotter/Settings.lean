import Plotter.Drawing

/-! Settings of a session, and the drawing context that they start it with. -/

namespace Plotter

/-- The choices that hold for a whole session. -/
structure Settings where
  /-- How many iterations a loop may have; without it, loops may run for ever. -/
  loopLimit : Option Nat := none
  /-- The width of lines and outlines. -/
  lineWidth : Number := 2
  /-- The colour that the pen starts with. -/
  pen : Color := .black
  /-- The colour that a cleared drawing has. -/
  background : Color := .slategray
  deriving DecidableEq, Repr

/-- Where the next shape goes and how it looks. -/
structure Context where
  /-- The current position. -/
  cursor : Point
  /-- The current stroke. -/
  pen : Pen
  /-- The current fill. -/
  fill : Fill
  deriving DecidableEq, Repr

namespace Context

/-- The context at the start of a session and after a reset. -/
def initial (settings : Settings) : Context where
  -- The fill has the colour of the pen until a script chooses another one.
  cursor := .origin
  pen := { color := settings.pen, width := settings.lineWidth }
  fill := { enabled := false, color := settings.pen }

/-- The style of closed shapes. -/
def style (context : Context) : Style where
  -- Both parts are kept, as a later fill decides which of them shows.
  pen := context.pen
  fill := context.fill

end Context

end Plotter
