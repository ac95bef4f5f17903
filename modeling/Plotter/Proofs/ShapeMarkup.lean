import Plotter.Canvas.Picture
import Plotter.Proofs.Effect
import Plotter.Proofs.Looks
import Plotter.Proofs.Markup

/-! The text of an SVG document, which tells just what is seen of its shapes. -/

namespace Plotter

open Text

namespace Svg

/-- The attributes that show what is seen of a style. -/
def paintAttributes : Paint → List (String × String)
  -- A filled shape has its outline switched off, or one would be drawn by default.
  | .inside color => [("fill", color.name), ("stroke", "none")]
  | .outline pen => outline pen

/-- The attributes of a closed shape show what is seen of its style. -/
theorem styled_eq (style : Style) : styled style = paintAttributes style.paint := by
  unfold styled Style.paint
  -- Fill and outline exclude each other in the paint and in the markup.
  split <;> rfl

/-- The name of the element for a figure. -/
def figureName : Figure → String
  -- There is no element for triangles, so they are paths.
  | .line _ _ => "line"
  | .rect _ _ _ => "rect"
  | .triangle _ _ => "path"
  | .circle _ _ => "circle"

/-- The attributes that show a figure. -/
def figureAttributes : Figure → List (String × String)
  -- Rectangles may be drawn backwards, so their corner and sizes are put right first.
  | .line start stop =>
    [("x1", start.x.text), ("y1", start.y.text), ("x2", stop.x.text), ("y2", stop.y.text)]
  | .rect corner width height =>
    [("x", Number.decimal (lowEnd corner.x width)), ("y", Number.decimal (lowEnd corner.y height)),
      ("width", Number.decimal width.toInt.natAbs), ("height", Number.decimal height.toInt.natAbs)]
  | .triangle corner side => [("d", pathText (triangle corner side))]
  | .circle center radius =>
    [("cx", center.x.text), ("cy", center.y.text), ("r", radius.text)]

/-- The element of a shape shows its figure and what is seen of its style. -/
theorem ofShape_eq (shape : Shape) :
    ofShape shape =
      { name := figureName shape.figure
        attributes := figureAttributes shape.figure ++ paintAttributes shape.paint } := by
  -- A line has only an outline, and the others take their paint from the style.
  cases shape with
  | line start stop pen => rfl
  | rect corner width height style | triangle corner side style | circle center radius style =>
    rw [ofShape, styled_eq]
    rfl

/-- The names of attributes that show what is seen of a style. -/
def paintNames : List String :=
  -- An outline has all three, a filled shape only the first two.
  ["fill", "stroke", "stroke-width"]

/-- The attributes of a style have these names. -/
theorem mem_paintNames {paint : Paint} {entry : String × String}
    (listed : entry ∈ paintAttributes paint) : entry.1 ∈ paintNames := by
  -- The names alone are looked up, whatever the values are.
  have names : ∀ name ∈ (paintAttributes paint).map Prod.fst, name ∈ paintNames := by
    cases paint <;> simp [paintAttributes, outline, paintNames]
  exact names _ (List.mem_map_of_mem listed)

/-- The attributes of a figure have other names. -/
theorem not_mem_paintNames {figure : Figure} {entry : String × String}
    (listed : entry ∈ figureAttributes figure) : entry.1 ∉ paintNames := by
  -- Figures have attributes for their place and size, with other names.
  have names : ∀ name ∈ (figureAttributes figure).map Prod.fst, name ∉ paintNames := by
    cases figure <;> simp [figureAttributes, paintNames]
  exact names _ (List.mem_map_of_mem listed)

/-- What is seen of a style is known by its attributes. -/
theorem paint_of_subset {first second : Paint}
    (part : ∀ entry ∈ paintAttributes first, entry ∈ paintAttributes second) : first = second := by
  -- No colour has the name that stands for no colour.
  have named : ∀ color : Color, color.name ≠ "none" := by
    intro color
    cases color <;> decide
  cases first with
  | inside color =>
    have fill := part ("fill", color.name) (by simp [paintAttributes])
    cases second with
    | inside other =>
      have colors : color.name = other.name := by simpa [paintAttributes] using fill
      rw [Color.name_inj colors]
    | outline pen => simp [paintAttributes, outline, named] at fill
  | outline pen =>
    -- Only an outline has a width.
    have stroke := part ("stroke", pen.color.name) (by simp [paintAttributes, outline])
    have width := part ("stroke-width", pen.width.text) (by simp [paintAttributes, outline])
    cases second with
    | inside color => simp [paintAttributes] at width
    | outline other =>
      have colors : pen.color.name = other.color.name := by
        simpa [paintAttributes, outline] using stroke
      have widths : pen.width.text = other.width.text := by
        simpa [paintAttributes, outline] using width
      rw [Pen.eq_of_texts colors widths]

/-- The attributes of a style can be told apart from those of a figure. -/
theorem parts_of_attributes {first second : Figure} {one two : Paint}
    (same : ∀ entry, entry ∈ figureAttributes first ++ paintAttributes one ↔
      entry ∈ figureAttributes second ++ paintAttributes two) :
    (∀ entry ∈ figureAttributes first, entry ∈ figureAttributes second) ∧ one = two := by
  -- No name of an attribute of a style is one of a figure.
  refine ⟨fun entry listed => ?_, paint_of_subset fun entry listed => ?_⟩
  · rcases List.mem_append.mp ((same entry).mp (List.mem_append_left _ listed)) with place | seen
    · exact place
    · exact (not_mem_paintNames listed (mem_paintNames seen)).elim
  · rcases List.mem_append.mp ((same entry).mp (List.mem_append_right _ listed)) with place | seen
    · exact (not_mem_paintNames place (mem_paintNames listed)).elim
    · exact seen

/-- A whole coordinate is written as the number that it is. -/
theorem Halves.text_double (value : Int) : Halves.text ⟨2 * value⟩ = Number.decimal value := by
  -- An even number of halves is a whole, so no half is printed.
  have even : 2 * value % 2 = 0 := by omega
  have half : 2 * value / 2 = value := by omega
  rw [Halves.text, if_pos even, half]

/-- Whether a character can be a part of a coordinate. -/
def isCoordinate (c : Char) : Bool :=
  -- A point stands before the half of a coordinate.
  Number.isNumeral c || c == '.'

/-- A coordinate has nothing but digits, a sign and a point. -/
theorem Halves.within_text (h : Halves) : Within isCoordinate h.text := by
  have number : ∀ value, Within isCoordinate (Number.decimal value) := fun value =>
    (Number.within_decimal value).mono fun c numeral => by simp [isCoordinate, numeral]
  unfold Halves.text
  -- A half is written with a sign of its own, as the whole number in front of it may be zero.
  split
  · exact number _
  · have sign : Within isCoordinate (if h.count < 0 then "-" else "") := by
      split <;> simp [Within, isCoordinate, Number.isNumeral]
    have place : Within isCoordinate ".5" := by
      simp [Within, isCoordinate, Number.isNumeral]
    exact within_append.mpr ⟨within_append.mpr ⟨sign, number _⟩, place⟩

/-- Whether a character can be a part of a step. -/
def isDrawn (c : Char) : Bool :=
  -- The letters say how the pen moves, and the comma separates coordinates.
  isCoordinate c || c == ',' || c == 'M' || c == 'L' || c == 'Z'

/-- A step has coordinates, a comma between them, and a letter in front. -/
theorem Step.within_text (step : Step) : Within isDrawn step.text := by
  have coordinate : ∀ h : Halves, Within isDrawn h.text := fun h =>
    h.within_text.mono fun c coordinate => by simp [isDrawn, coordinate]
  have comma : Within isDrawn "," := by simp [Within, isDrawn]
  have letter : Within isDrawn (String.singleton step.letter) := by
    intro c member
    obtain rfl : c = step.letter := by simpa using member
    cases step <;> rfl
  -- A path is closed by a letter without coordinates.
  cases step with
  | move x y | line x y =>
    exact within_append.mpr ⟨within_append.mpr ⟨within_append.mpr ⟨letter, coordinate x⟩, comma⟩,
      coordinate y⟩
  | close => exact letter

/-- A step to a point with whole coordinates is known by its text. -/
theorem Step.whole_inj (letter : Char) (other : ',' ≠ letter) {x y u v : Int}
    (same : String.singleton letter ++ Halves.text ⟨2 * x⟩ ++ "," ++ Halves.text ⟨2 * y⟩ =
      String.singleton letter ++ Halves.text ⟨2 * u⟩ ++ "," ++ Halves.text ⟨2 * v⟩) :
    x = u ∧ y = v := by
  have front : ∀ h : Halves, Free [','] (String.singleton letter ++ h.text) := fun h =>
    free_append.mpr ⟨by simpa [Free] using other, h.within_text.free rfl⟩
  -- The comma between the coordinates is the first one in the text.
  obtain ⟨fronts, vertical⟩ := append_separator_inj rfl (front _) (front _) same
  have horizontal := (String.append_right_inj _).mp fronts
  rw [Halves.text_double, Halves.text_double] at horizontal vertical
  exact ⟨Number.decimal_inj horizontal, Number.decimal_inj vertical⟩

/-- A triangle is known by the text of its outline. -/
theorem triangle_of_pathText {first second : Point} {one two : Number}
    (same : pathText (triangle first one) = pathText (triangle second two)) :
    first = second ∧ one = two := by
  have free : ∀ (corner : Point) (side : Number),
      ∀ part ∈ (triangle corner side).map Step.text, Free [' '] part := by
    intro corner side part listed
    obtain ⟨step, -, rfl⟩ := List.mem_map.mp listed
    exact step.within_text.free rfl
  have steps := intercalate_inj rfl (free first one) (free second two) (by simp [triangle])
    (by simp [triangle]) same
  -- The first two steps lead to the ends of the base.
  simp only [triangle, List.map_cons, List.cons.injEq, Step.text, Step.letter] at steps
  obtain ⟨move, line, -⟩ := steps
  rw [← Int.mul_add, ← Int.mul_add] at line
  obtain ⟨left, top⟩ := Step.whole_inj 'M' (by decide) move
  obtain ⟨right, -⟩ := Step.whole_inj 'L' (by decide) line
  -- The corner is the same, so what the ends differ in is the side.
  have side : one.toInt = two.toInt := by omega
  exact ⟨Point.eq_of_coordinates left top, Int32.toInt_inj.mp side⟩

/-- The smaller end of a stretch that goes forward is its start. -/
theorem lowEnd_eq {length : Number} (forward : 0 ≤ length.toInt) (start : Number) :
    lowEnd start length = start.toInt := by
  -- Nothing is taken off for a length that is not negative.
  unfold lowEnd
  omega

/-- An attribute with the name of a colour is clear. -/
theorem clear_color {name : String} (plain : Free ['=', '\n'] name) (color : Color) :
    Clear (name, color.name) :=
  -- A colour is a single word, so it is free of all that has a meaning in markup.
  ⟨plain, color.free_name.mono (by simp)⟩

/-- An attribute with a number is clear. -/
theorem clear_decimal {name : String} (plain : Free ['=', '\n'] name) (value : Int) :
    Clear (name, Number.decimal value) :=
  -- Decimals are made of digits and a sign.
  ⟨plain, (Number.within_decimal value).free rfl⟩

/-- The attributes of a style are clear. -/
theorem clear_paintAttributes (paint : Paint) : ∀ entry ∈ paintAttributes paint, Clear entry := by
  -- The names are fixed, and the values are colours, numbers or a word.
  cases paint with
  | inside color =>
    simp only [paintAttributes, List.forall_mem_cons]
    exact ⟨clear_color (by decide) color, ⟨by decide, by decide⟩, by simp⟩
  | outline pen =>
    simp only [paintAttributes, outline, List.forall_mem_cons]
    exact ⟨⟨by decide, by decide⟩, clear_color (by decide) pen.color,
      clear_decimal (by decide) pen.width.toInt, by simp⟩

/-- An outline is on one line, and there is no quote in it. -/
theorem free_pathText (path : List Step) : Free ['"', '\n'] (pathText path) := by
  refine free_intercalate (by decide) fun part listed => ?_
  -- Every step of a path is made of letters and coordinates.
  obtain ⟨step, -, rfl⟩ := List.mem_map.mp listed
  exact step.within_text.free rfl

/-- The attributes of a figure are clear. -/
theorem clear_figureAttributes (figure : Figure) :
    ∀ entry ∈ figureAttributes figure, Clear entry := by
  -- All attributes are numbers, except for the path of a triangle.
  cases figure with
  | line start stop =>
    simp only [figureAttributes, List.forall_mem_cons]
    exact ⟨clear_decimal (by decide) _, clear_decimal (by decide) _, clear_decimal (by decide) _,
      clear_decimal (by decide) _, by simp⟩
  | rect corner width height =>
    simp only [figureAttributes, List.forall_mem_cons]
    exact ⟨clear_decimal (by decide) _, clear_decimal (by decide) _, clear_decimal (by decide) _,
      clear_decimal (by decide) _, by simp⟩
  | triangle corner side =>
    simp only [figureAttributes, List.forall_mem_cons]
    have plain : Free ['=', '\n'] "d" := by decide
    exact ⟨⟨plain, free_pathText (triangle corner side)⟩, by simp⟩
  | circle center radius =>
    simp only [figureAttributes, List.forall_mem_cons]
    exact ⟨clear_decimal (by decide) _, clear_decimal (by decide) _, clear_decimal (by decide) _,
      by simp⟩

/-- The name of the element for a figure is one word. -/
theorem free_figureName (figure : Figure) : Free [' ', '\n'] (figureName figure) := by
  -- The four names are plain words.
  cases figure <;> rw [figureName] <;> decide

/-- The element of a shape is clear. -/
theorem clear_ofShape (shape : Shape) : (ofShape shape).Clear := by
  rw [ofShape_eq]
  refine ⟨free_figureName shape.figure, ?filled, fun entry listed => ?attributes⟩
  -- Every figure has a place at least.
  case filled =>
    cases shape.figure <;> simp [figureAttributes]
  case attributes =>
    rcases List.mem_append.mp listed with place | seen
    · exact clear_figureAttributes shape.figure entry place
    · exact clear_paintAttributes shape.paint entry seen

/-- A figure without negative sizes is known by the name of its element and its attributes. -/
theorem figure_of_subset {first second : Figure} (one : ∀ size ∈ first.sizes, 0 ≤ size.toInt)
    (two : ∀ size ∈ second.sizes, 0 ≤ size.toInt) (name : figureName first = figureName second)
    (part : ∀ entry ∈ figureAttributes first, entry ∈ figureAttributes second) :
    first = second := by
  -- The name tells the kind of the figure, and each attribute a part of the rest.
  cases first with
  | line start stop =>
    cases second with
    | line begin ending =>
      simp only [figureAttributes, List.forall_mem_cons] at part
      have x1 : start.x.text = begin.x.text := by simpa using part.1
      have y1 : start.y.text = begin.y.text := by simpa using part.2.1
      have x2 : stop.x.text = ending.x.text := by simpa using part.2.2.1
      have y2 : stop.y.text = ending.y.text := by simpa using part.2.2.2.1
      rw [Point.eq_of_coordinates (Number.decimal_inj x1) (Number.decimal_inj y1),
        Point.eq_of_coordinates (Number.decimal_inj x2) (Number.decimal_inj y2)]
    | _ => simp [figureName] at name
  | rect corner width height =>
    cases second with
    | rect other wide high =>
      simp only [Figure.sizes, List.forall_mem_cons] at one two
      -- No size is negative, so the corner is at the lower end of both sides.
      rw [figureAttributes, lowEnd_eq one.1, lowEnd_eq one.2.1, figureAttributes, lowEnd_eq two.1,
        lowEnd_eq two.2.1] at part
      simp only [List.forall_mem_cons] at part
      have x : Number.decimal corner.x.toInt = Number.decimal other.x.toInt := by
        simpa using part.1
      have y : Number.decimal corner.y.toInt = Number.decimal other.y.toInt := by
        simpa using part.2.1
      have across : Number.decimal width.toInt.natAbs = Number.decimal wide.toInt.natAbs := by
        simpa using part.2.2.1
      have down : Number.decimal height.toInt.natAbs = Number.decimal high.toInt.natAbs := by
        simpa using part.2.2.2.1
      -- The sizes are the same without their signs, and so they are with them.
      have widths := Number.decimal_inj across
      have heights := Number.decimal_inj down
      obtain rfl : width = wide := Int32.toInt_inj.mp (by omega)
      obtain rfl : height = high := Int32.toInt_inj.mp (by omega)
      rw [Point.eq_of_coordinates (Number.decimal_inj x) (Number.decimal_inj y)]
    | _ => simp [figureName] at name
  | triangle corner side =>
    cases second with
    | triangle other size =>
      have path : pathText (triangle corner side) = pathText (triangle other size) := by
        simpa [figureAttributes] using part
      obtain ⟨corners, sides⟩ := triangle_of_pathText path
      rw [corners, sides]
    | _ => simp [figureName] at name
  | circle center radius =>
    cases second with
    | circle other size =>
      simp only [figureAttributes, List.forall_mem_cons] at part
      have cx : center.x.text = other.x.text := by simpa using part.1
      have cy : center.y.text = other.y.text := by simpa using part.2.1
      have r : radius.text = size.text := by simpa using part.2.2.1
      rw [Point.eq_of_coordinates (Number.decimal_inj cx) (Number.decimal_inj cy),
        Number.text_inj r]
    | _ => simp [figureName] at name

/-- The sizes of a shape are those of its figure. -/
theorem sizes_eq (shape : Shape) : shape.sizes = shape.figure.sizes := by
  -- Sizes belong to the figure, whatever it is painted with.
  cases shape <;> rfl

/-- Shapes without negative sizes have the same element text exactly if they have the same text. -/
theorem ofShape_text_eq_iff {first second : Shape} (one : ∀ size ∈ first.sizes, 0 ≤ size.toInt)
    (two : ∀ size ∈ second.sizes, 0 ≤ size.toInt) :
    (ofShape first).text = (ofShape second).text ↔ first.text = second.text := by
  rw [Shape.text_eq_iff]
  constructor
  · intro same
    obtain ⟨name, listed⟩ := Element.eq_of_text (clear_ofShape first) (clear_ofShape second) same
    rw [ofShape_eq, ofShape_eq] at name listed
    -- What belongs to the figure, and what to the style, is told by the names of the attributes.
    obtain ⟨part, seen⟩ := parts_of_attributes listed
    rw [sizes_eq] at one two
    exact ⟨figure_of_subset one two name part, seen⟩
  · rintro ⟨figure, seen⟩
    rw [ofShape_eq, ofShape_eq, figure, seen]

end Svg

namespace Picture

/-- The element of the background is clear. -/
theorem clear_backdrop (background : Color) : (backdrop background).Clear := by
  refine ⟨(by decide : Free [' ', '\n'] "rect"), by simp [backdrop], ?_⟩
  -- Only the colour depends on the picture.
  simp only [backdrop, List.forall_mem_cons]
  exact ⟨⟨by decide, by decide⟩, ⟨by decide, by decide⟩, Svg.clear_color (by decide) background,
    by simp⟩

/-- A background is known by the text of its element. -/
theorem backdrop_text_eq_iff (first second : Color) :
    (backdrop first).text = (backdrop second).text ↔ first = second := by
  -- The colour is one of the attributes, and those can be read back.
  constructor
  · intro same
    obtain ⟨-, listed⟩ := Svg.Element.eq_of_text (clear_backdrop first) (clear_backdrop second) same
    have fill := (listed ("fill", first.name)).mp (by simp [backdrop])
    exact Color.name_inj (by simpa [backdrop] using fill)
  · intro same
    rw [same]

/-- Shapes in a row have the same element texts exactly if they have the same texts. -/
theorem elements_eq_iff {first second : List Shape}
    (one : ∀ shape ∈ first, ∀ size ∈ shape.sizes, 0 ≤ size.toInt)
    (two : ∀ shape ∈ second, ∀ size ∈ shape.sizes, 0 ≤ size.toInt) :
    first.map (fun shape => (Svg.ofShape shape).text) =
        second.map (fun shape => (Svg.ofShape shape).text) ↔
      first.map Shape.text = second.map Shape.text := by
  -- The induction is on the shapes of one picture, beside which the other has to go on as well.
  induction first generalizing second with
  | nil => cases second <;> simp
  | cons shape rest ih =>
    cases second with
    | nil => simp
    | cons other others =>
      rw [List.forall_mem_cons] at one two
      rw [List.map_cons, List.map_cons, List.map_cons, List.map_cons, List.cons.injEq,
        List.cons.injEq, Svg.ofShape_text_eq_iff one.1 two.1, ih one.2 two.2]

/--
The text of the operations on a picture tells just as much as its document.

Two pictures of one size, none of whose shapes has a negative size, have the same document exactly
if they have the same background and as many shapes, which have the same texts in order.
-/
theorem document_eq_iff {first second : Picture} (sameSize : first.size = second.size)
    (one : ∀ shape ∈ first.shapes, ∀ size ∈ shape.sizes, 0 ≤ size.toInt)
    (two : ∀ shape ∈ second.shapes, ∀ size ∈ shape.sizes, 0 ≤ size.toInt) :
    first.document = second.document ↔
      first.background = second.background ∧
        first.shapes.toList.map (fun shape => (DrawOp.shape shape).text) =
          second.shapes.toList.map (fun shape => (DrawOp.shape shape).text) := by
  -- The background has an element of its own, in front of those of the shapes.
  have clear : ∀ picture : Picture,
      ∀ element ∈ backdrop picture.background :: picture.shapes.toList.map Svg.ofShape,
        element.Clear := by
    intro picture
    refine List.forall_mem_cons.mpr ⟨clear_backdrop _, fun element listed => ?_⟩
    obtain ⟨shape, -, rfl⟩ := List.mem_map.mp listed
    exact Svg.clear_ofShape shape
  unfold document
  rw [sameSize]
  -- The outermost elements are the same, and the others have a line each.
  refine (Svg.documentText_eq_iff _ (clear first) (clear second)).trans ?_
  rw [List.map_cons, List.map_cons, List.cons.injEq, backdrop_text_eq_iff, List.map_map,
    List.map_map]
  exact and_congr_right fun _ =>
    elements_eq_iff (fun shape listed => one shape (by simpa using listed))
      fun shape listed => two shape (by simpa using listed)

/-- The pen of a filled shape does not show in a document, but the side of a triangle does. -/
theorem hidden_pen_same_document :
    ∃ first second third : Picture, first.shapes ≠ second.shapes ∧
      first.document = second.document ∧ second.shapes ≠ third.shapes ∧
      second.document ≠ third.document := by
  let picture (pen : Pen) (side : Number) : Picture :=
    { size := ⟨0, 0⟩, background := .slategray
      shapes := #[.rect ⟨-3, 2⟩ 4 0 ⟨pen, ⟨true, .blue⟩⟩,
        .triangle ⟨1, 1⟩ side ⟨⟨.green, 2⟩, ⟨false, .red⟩⟩] }
  let first := picture ⟨.black, 2⟩ 3
  let second := picture ⟨.red, -1⟩ 3
  let third := picture ⟨.red, -1⟩ 5
  -- Only the side of the triangle is not given.
  have forward : ∀ (pen : Pen) (side : Number), 0 ≤ side.toInt →
      ∀ shape ∈ (picture pen side).shapes, ∀ size ∈ shape.sizes, 0 ≤ size.toInt := by
    intro pen side nonnegative
    simp [picture, Shape.sizes, nonnegative]
  have one := forward ⟨.black, 2⟩ 3 (by decide)
  have two := forward ⟨.red, -1⟩ 3 (by decide)
  have three := forward ⟨.red, -1⟩ 5 (by decide)
  have size : first.size = second.size := rfl
  have sameSize : second.size = third.size := rfl
  refine ⟨first, second, third, by decide, ?_, by decide, fun same => ?_⟩
  · -- Both rectangles are filled, so their pens are not in the texts.
    exact (document_eq_iff size one two).mpr ⟨rfl, by decide +kernel⟩
  · -- The last triangles have sides of different lengths.
    have texts := ((document_eq_iff sameSize two three).mp same).2
    exact absurd texts (by decide +kernel)

end Picture

end Plotter
