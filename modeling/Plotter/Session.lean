import Plotter.Canvas.Recording
import Plotter.Settings

/-! Sessions, the state that commands act on. -/

namespace Plotter

/-- Everything that commands can change. -/
structure Session (κ : Type) where
  /-- The surface that is drawn on. -/
  canvas : κ
  /-- The variables. -/
  store : Variables
  /-- The drawing context. -/
  context : Context
  /-- The notices given so far, oldest first. -/
  notices : Array Notice
  deriving DecidableEq, Repr

/-- A session without variables and notices on the given canvas. -/
def Session.start {κ : Type} (settings : Settings) (canvas : κ) : Session κ where
  -- Apart from canvas and settings, all fresh sessions are the same.
  canvas := canvas
  store := .empty
  context := .initial settings
  notices := #[]

/-- A session that has the variables of another one and is fresh in every other way. -/
def Session.handOver {κ : Type} (settings : Settings) (canvas : κ) (session : Session κ) :
    Session κ :=
  -- Notices stay with the session that gave them.
  { Session.start settings canvas with store := session.store }

/-- A session together with the log of what happened in it. -/
structure Machine (κ : Type) where
  /-- The session. -/
  session : Session κ
  /-- The events so far, oldest first. -/
  log : Array Event := #[]
  deriving DecidableEq, Repr

end Plotter
