import Plotter.Number

/-! Colours, points, pens, fills, and the operations that put shapes on a drawing. -/

namespace Plotter

/-- A colour that a drawing can use. -/
inductive Color where
  | black
  | red
  | green
  | blue
  | yellow
  | slategray
  deriving DecidableEq, Repr

namespace Color

/-- The name of a colour, which is also its SVG keyword. -/
def name : Color → String
  -- The names are lower-case, as every script is by the time it is read.
  | black => "black"
  | red => "red"
  | green => "green"
  | blue => "blue"
  | yellow => "yellow"
  | slategray => "slategray"

/-- The colours that a script can choose. -/
def palette : List Color :=
  -- Black and slate grey are for settings alone.
  [red, green, blue, yellow]

/-- The palette colour with the given name. -/
def ofPalette? (name : String) : Option Color :=
  -- A colour outside the palette is as unknown as no colour at all.
  palette.find? (·.name == name)

end Color

/-- A position on the drawing; `y` grows downwards. -/
structure Point where
  /-- The distance from the left edge. -/
  x : Number
  /-- The distance from the top edge. -/
  y : Number
  deriving DecidableEq, Repr

namespace Point

/-- The top left corner of the drawing. -/
def origin : Point :=
  -- A session starts here.
  ⟨0, 0⟩

/-- The two coordinates of a point, with a comma between them. -/
def text (p : Point) : String :=
  -- This text is for errors and for operations, not for pictures.
  p.x.text ++ "," ++ p.y.text

end Point

/-- The stroke of lines and outlines. -/
structure Pen where
  /-- The colour of the stroke. -/
  color : Color
  /-- The width of the stroke. -/
  width : Number
  deriving DecidableEq, Repr

/-- How the inside of a shape is painted. -/
structure Fill where
  /-- Whether shapes are filled instead of outlined. -/
  enabled : Bool
  /-- The colour of filled shapes. -/
  color : Color
  deriving DecidableEq, Repr

/-- Everything that decides how a closed shape looks. -/
structure Style where
  /-- The stroke, which shows when the shape is not filled. -/
  pen : Pen
  /-- The fill, which shows when it is enabled. -/
  fill : Fill
  deriving DecidableEq, Repr

/-- The text of a pen. -/
def Pen.text (pen : Pen) : String :=
  -- The width is written even where it is the usual one.
  "pen " ++ pen.color.name ++ " " ++ pen.width.text

/-- The text of the part of a style that shows. -/
def Style.text (style : Style) : String :=
  -- What does not show in the picture does not show in the text either.
  if style.fill.enabled then "fill " ++ style.fill.color.name else style.pen.text

/-- A shape on a drawing. -/
inductive Shape where
  /-- A straight line between two points. -/
  | line (start stop : Point) (pen : Pen)
  /-- A rectangle with its first corner at `corner`. -/
  | rect (corner : Point) (width height : Number) (style : Style)
  /-- A triangle whose base starts at `corner` and whose apex lies below the middle of the base. -/
  | triangle (corner : Point) (side : Number) (style : Style)
  /-- A circle around `center`. -/
  | circle (center : Point) (radius : Number) (style : Style)
  deriving DecidableEq, Repr

/-- The text of a shape. -/
def Shape.text : Shape → String
  -- A line has a pen only, as there is nothing in it to fill.
  | line start stop pen => "line " ++ start.text ++ " -> " ++ stop.text ++ " " ++ pen.text
  | rect corner width height style =>
    "rect " ++ corner.text ++ " " ++ width.text ++ "x" ++ height.text ++ " " ++ style.text
  | triangle corner side style => "trig " ++ corner.text ++ " " ++ side.text ++ " " ++ style.text
  | circle center radius style =>
    "circle " ++ center.text ++ " " ++ radius.text ++ " " ++ style.text

/-- One operation on a drawing. -/
inductive DrawOp where
  /-- Adds a shape on top of the others. -/
  | shape (drawn : Shape)
  /-- Removes every shape and paints the background. -/
  | clear (background : Color)
  deriving DecidableEq, Repr

/-- The text of an operation. -/
def DrawOp.text : DrawOp → String
  -- No shape is called clear, so the first word tells the two kinds apart.
  | shape drawn => drawn.text
  | clear background => "clear " ++ background.name

end Plotter
