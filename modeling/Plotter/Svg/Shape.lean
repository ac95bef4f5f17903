import Plotter.Svg.Path

/-! Elements of an SVG document, their text, and the elements that show shapes. -/

namespace Plotter.Svg

/-- An element without content. -/
structure Element where
  /-- The name of the element. -/
  name : String
  /-- Names and values of the attributes, in any order. -/
  attributes : List (String × String)

/-- The attributes in the order of their names. -/
def sortAttributes (attributes : List (String × String)) : List (String × String) :=
  -- Attributes of the same name would stay in the order in which they were given.
  attributes.mergeSort fun first second => first.1 ≤ second.1

/-- The attributes in the order of their names, each after a space. -/
def attributesText (attributes : List (String × String)) : String :=
  -- The order in which attributes were given does not show.
  String.join ((sortAttributes attributes).map fun (name, value) =>
    " " ++ name ++ "=\"" ++ value ++ "\"")

/-- The text of an element. -/
def Element.text (element : Element) : String :=
  -- Without content, an element needs no end of its own.
  "<" ++ element.name ++ attributesText element.attributes ++ "/>"

/-- The text of a document: the outermost element around its children, each on its own line. -/
def documentText (attributes : List (String × String)) (children : List Element) : String :=
  -- The name of the vocabulary is sorted in with the other attributes.
  let attributes := ("xmlns", "http://www.w3.org/2000/svg") :: attributes
  let opening := "<svg" ++ attributesText attributes ++ ">"
  String.intercalate "\n" ((opening :: children.map Element.text) ++ ["</svg>"])

/-- The attributes of an outline. -/
def outline (pen : Pen) : List (String × String) :=
  -- Without a word about it, the inside would be black.
  [("fill", "none"), ("stroke", pen.color.name), ("stroke-width", pen.width.text)]

/-- The attributes of a closed shape: filled without an outline, or an outline only. -/
def styled (style : Style) : List (String × String) :=
  -- The pen has no part in a filled shape, so its width does not show there.
  if style.fill.enabled then [("fill", style.fill.color.name), ("stroke", "none")]
  else outline style.pen

/-- The smaller end of a stretch from a start over a signed length. -/
def lowEnd (start length : Number) : Int :=
  -- The sum is exact, though it need not be a number of a script.
  min start.toInt (start.toInt + length.toInt)

/-- The element that shows a shape. -/
def ofShape : Shape → Element
  | .line start stop pen =>
    { name := "line"
      attributes := [("x1", start.x.text), ("y1", start.y.text), ("x2", stop.x.text),
        ("y2", stop.y.text)] ++ outline pen }
  | .rect corner width height style =>
    -- A size below zero extends to the other side of the corner.
    { name := "rect"
      attributes := [("x", Number.decimal (lowEnd corner.x width)),
        ("y", Number.decimal (lowEnd corner.y height)),
        ("width", Number.decimal width.toInt.natAbs),
        ("height", Number.decimal height.toInt.natAbs)] ++ styled style }
  | .triangle corner side style =>
    { name := "path"
      attributes := ("d", pathText (triangle corner side)) :: styled style }
  | .circle center radius style =>
    { name := "circle"
      attributes := [("cx", center.x.text), ("cy", center.y.text), ("r", radius.text)] ++
        styled style }

end Plotter.Svg
