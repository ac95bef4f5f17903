import Plotter.Canvas.Recording
import Plotter.Decimal.Shortest
import Plotter.Svg.Shape

/-! A canvas that becomes an SVG document. -/

namespace Plotter

/-- The width and height of a picture. -/
structure Size where
  /-- The extent to the right, or to the left if it is negative. -/
  width : Float
  /-- The extent downwards, or upwards if it is negative. -/
  height : Float

/-- The shapes that a drawing shows, on a background. -/
structure Picture where
  /-- The extent of the drawing. -/
  size : Size
  /-- The colour behind all shapes. -/
  background : Color
  /-- The shapes drawn since the drawing was last cleared, the lowest first. -/
  shapes : Array Shape := #[]

/-- A picture keeps shapes until it is cleared, and says how many it loses then. -/
instance : Canvas Picture where
  -- Shapes that a clear takes away would be hidden by its background in any case.
  draw picture op :=
    match op with
    | .shape drawn => { picture with shapes := picture.shapes.push drawn }
    | .clear background => { picture with background, shapes := #[] }
  announce picture op :=
    match op with
    | .shape _ => none
    | .clear _ => some (.clearing picture.shapes.size)

namespace Picture

/-- The lower end and the length of an extent from zero. -/
def span (extent : Float) : Float × Float :=
  -- A negative extent lies on the other side of zero, and its length is positive again.
  let stop := 0 + extent
  let low := min 0 stop
  (low, max 0 stop - low)

/-- The element that paints the background. -/
def backdrop (background : Color) : Svg.Element :=
  -- The percentages follow the picture to whatever size it is shown at.
  { name := "rect"
    attributes := [("width", "100%"), ("height", "100%"), ("fill", background.name)] }

/-- The text of the SVG document that shows a picture. -/
def document (picture : Picture) : String :=
  -- A document with a negative size still has its upper left corner named first.
  let (left, width) := span picture.size.width
  let (top, height) := span picture.size.height
  let edges := [left, top, width, height].map Decimal.ofFloat
  Svg.documentText
    [("viewBox", String.intercalate " " edges), ("width", Decimal.ofFloat width),
     ("height", Decimal.ofFloat height)]
    (backdrop picture.background :: picture.shapes.toList.map Svg.ofShape)

end Picture

end Plotter
