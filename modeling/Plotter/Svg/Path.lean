import Plotter.Drawing

/-! Outlines made of straight lines between points that may lie halfway between two units. -/

namespace Plotter.Svg

/-- An exact coordinate, counted in halves of a unit. -/
structure Halves where
  /-- How many halves the coordinate is away from zero. -/
  count : Int
  deriving DecidableEq, Repr

/-- A coordinate in decimal notation, with one place if it is not whole. -/
def Halves.text (h : Halves) : String :=
  if h.count % 2 = 0 then Number.decimal (h.count / 2)
  else
    -- The sign stands in front even if the whole part is zero.
    let sign := if h.count < 0 then "-" else ""
    sign ++ Number.decimal (h.count.natAbs / 2 : Nat) ++ ".5"

/-- One step of an outline. -/
inductive Step where
  /-- Starts at a point. -/
  | move (x y : Halves)
  /-- Goes straight to a point. -/
  | line (x y : Halves)
  /-- Goes back to the start. -/
  | close
  deriving DecidableEq, Repr

namespace Step

/-- The letter of a step. -/
def letter : Step → Char
  -- All letters are capitals, as every point is given by where it is.
  | move _ _ => 'M'
  | line _ _ => 'L'
  | close => 'Z'

/-- The text of a step. -/
def text (step : Step) : String :=
  -- Going back to the start needs no point.
  match step with
  | move x y | line x y => String.singleton step.letter ++ x.text ++ "," ++ y.text
  | close => String.singleton step.letter

end Step

/-- The text of an outline. -/
def pathText (path : List Step) : String :=
  -- Steps are kept in order, as an outline is drawn through them.
  String.intercalate " " (path.map Step.text)

/-- A triangle: its base starts at the corner, its apex lies a side below the middle of the base. -/
def triangle (corner : Point) (side : Number) : List Step :=
  -- All sums are exact; only the apex can lie between two units.
  let x := 2 * corner.x.toInt
  let y := 2 * corner.y.toInt
  [.move ⟨x⟩ ⟨y⟩, .line ⟨x + 2 * side.toInt⟩ ⟨y⟩,
   .line ⟨x + side.toInt⟩ ⟨y + 2 * side.toInt⟩, .close]

end Plotter.Svg
