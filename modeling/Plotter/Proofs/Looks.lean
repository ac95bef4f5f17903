import Plotter.Proofs.Parts
import Plotter.Svg.Shape

/-! What is seen of a shape, which is just what its text tells of it. -/

namespace Plotter

open Text

/-- What is seen of a style: the colour of the inside, or the pen of the outline. -/
inductive Paint where
  /-- The inside is filled, and there is no outline. -/
  | inside (color : Color)
  /-- There is an outline, and nothing inside. -/
  | outline (pen : Pen)
  deriving DecidableEq, Repr

/-- What is seen of a style. -/
def Style.paint (style : Style) : Paint :=
  -- A filled shape is drawn without its pen.
  if style.fill.enabled then .inside style.fill.color else .outline style.pen

/-- Where a shape is and how far it reaches. -/
inductive Figure where
  /-- A straight line between two points. -/
  | line (start stop : Point)
  /-- A rectangle with its first corner at `corner`. -/
  | rect (corner : Point) (width height : Number)
  /-- A triangle whose base starts at `corner`. -/
  | triangle (corner : Point) (side : Number)
  /-- A circle around `center`. -/
  | circle (center : Point) (radius : Number)
  deriving DecidableEq, Repr

/-- Where a shape is and how far it reaches. -/
def Shape.figure : Shape → Figure
  -- Pen and style are dropped: only the geometry stays.
  | line start stop _ => .line start stop
  | rect corner width height _ => .rect corner width height
  | triangle corner side _ => .triangle corner side
  | circle center radius _ => .circle center radius

/-- The sizes of a figure. -/
def Figure.sizes : Figure → List Number
  -- The ends of a line are points, not sizes.
  | line _ _ => []
  | rect _ width height => [width, height]
  | triangle _ side => [side]
  | circle _ radius => [radius]

/-- What is seen of the style of a shape. -/
def Shape.paint : Shape → Paint
  -- A line has no inside, so it is always an outline.
  | line _ _ pen => .outline pen
  | rect _ _ _ style | triangle _ _ style | circle _ _ style => style.paint

/-- The words for what is seen of a style. -/
def Paint.words : Paint → List String
  -- What is hidden by the paint does not show in the words.
  | inside color => ["fill", color.name]
  | outline pen => ["pen", pen.color.name, pen.width.text]

/-- The words for where a shape is and how far it reaches. -/
def Figure.words : Figure → List String
  -- The arrow of a line is a word of its own, so a line has one word more.
  | line start stop => ["line", start.text, "->", stop.text]
  | rect corner width height => ["rect", corner.text, width.text ++ "x" ++ height.text]
  | triangle corner side => ["trig", corner.text, side.text]
  | circle center radius => ["circle", center.text, radius.text]

/-- The text of a style is made of the words for what is seen of it. -/
theorem Style.text_eq_words (style : Style) :
    style.text = " ".intercalate style.paint.words := by
  unfold Style.text paint Paint.words
  -- Filled or not, the text is the words with one space between them.
  split <;> simp [Pen.text, ← String.append_assoc]

/-- There are words for every figure. -/
theorem Figure.words_ne_nil (figure : Figure) : figure.words ≠ [] := by
  -- Every figure begins with the word for its kind.
  cases figure <;> simp [words]

/-- There are words for everything that is seen of a style. -/
theorem Paint.words_ne_nil (paint : Paint) : paint.words ≠ [] := by
  -- Every paint begins with the word for its kind.
  cases paint <;> simp [words]

/-- The text of a shape is made of the words for its figure and what is seen of its style. -/
theorem Shape.text_eq_words (shape : Shape) :
    shape.text = " ".intercalate (shape.figure.words ++ shape.paint.words) := by
  rw [String.intercalate_append_of_ne_nil shape.figure.words_ne_nil shape.paint.words_ne_nil]
  cases shape with
  | line start stop pen =>
    -- The arrow has a space in front of it as well.
    have arrow : " -> " = " " ++ "-> " := rfl
    rw [text, arrow, ← String.append_assoc]
    simp [figure, paint, Figure.words, Paint.words, Pen.text, ← String.append_assoc]
  | rect corner width height style | triangle corner side style | circle center radius style =>
    simp [text, figure, paint, Figure.words, style.text_eq_words, ← String.append_assoc]

/-- A colour is known by its name. -/
theorem Color.name_inj {first second : Color} (same : first.name = second.name) :
    first = second := by
  -- No two of the colours share a name.
  cases first <;> cases second <;> first | rfl | exact absurd same (by decide)

/-- The name of a colour is a word on one line. -/
theorem Color.free_name (color : Color) : Free [' ', '"', '\n'] color.name := by
  -- Each of the names is a single word.
  cases color <;> decide

/-- A point is known by the exact values of its coordinates. -/
theorem Point.eq_of_coordinates {first second : Point} (left : first.x.toInt = second.x.toInt)
    (top : first.y.toInt = second.y.toInt) : first = second := by
  -- A number is known by its integer.
  obtain ⟨x, y⟩ := first
  obtain ⟨u, v⟩ := second
  obtain rfl : x = u := Int32.toInt_inj.mp left
  obtain rfl : y = v := Int32.toInt_inj.mp top
  rfl

/-- A point is known by its text. -/
theorem Point.text_inj {first second : Point} (same : first.text = second.text) :
    first = second := by
  -- A number has no comma, so the text is cut behind the first coordinate.
  have free : ∀ number : Number, Free [','] number.text := fun number =>
    (Number.within_decimal number.toInt).free rfl
  obtain ⟨left, top⟩ := append_separator_inj rfl (free _) (free _) same
  exact eq_of_coordinates (Number.decimal_inj left) (Number.decimal_inj top)

/-- A pen is known by the name of its colour and its width. -/
theorem Pen.eq_of_texts {first second : Pen} (color : first.color.name = second.color.name)
    (width : first.width.text = second.width.text) : first = second := by
  obtain ⟨chosen, wide⟩ := first
  obtain ⟨other, broad⟩ := second
  -- Both fields can be read back from their texts.
  obtain rfl : chosen = other := Color.name_inj color
  obtain rfl : wide = broad := Number.text_inj width
  rfl

/-- What is seen of a style is known by its words. -/
theorem Paint.words_inj {first second : Paint} (same : first.words = second.words) :
    first = second := by
  -- The first word tells the two kinds apart.
  cases first with
  | inside color =>
    cases second with
    | inside other =>
      simp only [words, List.cons.injEq, and_true, true_and] at same
      rw [Color.name_inj same]
    | outline pen => simp [words] at same
  | outline pen =>
    cases second with
    | inside color => simp [words] at same
    | outline other =>
      simp only [words, List.cons.injEq, and_true, true_and] at same
      rw [Pen.eq_of_texts same.1 same.2]

/-- A figure and what is seen of a style are known by their words. -/
theorem Figure.words_inj {first second : Figure} {one two : Paint}
    (same : first.words ++ one.words = second.words ++ two.words) :
    first = second ∧ one = two := by
  -- The first word tells the kind of the figure, and so where the words of the style start.
  cases first with
  | line start stop =>
    cases second with
    | line begin ending =>
      simp only [words, List.cons_append, List.nil_append, List.cons.injEq, true_and] at same
      obtain ⟨starts, stops, paints⟩ := same
      rw [Point.text_inj starts, Point.text_inj stops, Paint.words_inj paints]
      exact ⟨rfl, rfl⟩
    | _ => simp [words] at same
  | rect corner width height =>
    cases second with
    | rect other wide high =>
      simp only [words, List.cons_append, List.nil_append, List.cons.injEq, true_and] at same
      obtain ⟨corners, sizes, paints⟩ := same
      -- Both sizes are in one word, which is cut at the sign between them.
      have free : ∀ number : Number, Free ['x'] number.text := fun number =>
        (Number.within_decimal number.toInt).free rfl
      obtain ⟨widths, heights⟩ := append_separator_inj rfl (free _) (free _) sizes
      rw [Point.text_inj corners, Number.text_inj widths, Number.text_inj heights,
        Paint.words_inj paints]
      exact ⟨rfl, rfl⟩
    | _ => simp [words] at same
  | triangle corner side =>
    cases second with
    | triangle other size =>
      simp only [words, List.cons_append, List.nil_append, List.cons.injEq, true_and] at same
      obtain ⟨corners, sides, paints⟩ := same
      rw [Point.text_inj corners, Number.text_inj sides, Paint.words_inj paints]
      exact ⟨rfl, rfl⟩
    | _ => simp [words] at same
  | circle center radius =>
    cases second with
    | circle other size =>
      simp only [words, List.cons_append, List.nil_append, List.cons.injEq, true_and] at same
      obtain ⟨centers, radii, paints⟩ := same
      rw [Point.text_inj centers, Number.text_inj radii, Paint.words_inj paints]
      exact ⟨rfl, rfl⟩
    | _ => simp [words] at same

/-- A number has no space in it. -/
theorem Number.free_text (number : Number) : Free [' '] number.text :=
  -- A decimal has digits and a sign, and no space among them.
  (within_decimal number.toInt).free rfl

/-- A point has no space in it. -/
theorem Point.free_text (p : Point) : Free [' '] p.text :=
  -- Brackets, comma and coordinates are free of spaces.
  free_append.mpr ⟨free_append.mpr ⟨p.x.free_text, by decide⟩, p.y.free_text⟩

/-- No word for what is seen of a style has a space in it. -/
theorem Paint.free_words (paint : Paint) : ∀ word ∈ paint.words, Free [' '] word := by
  have name : ∀ color : Color, Free [' '] color.name := fun color =>
    color.free_name.mono (by simp)
  -- The words are fixed ones, names of colors and numbers.
  cases paint with
  | inside color =>
    simp only [words, List.forall_mem_cons]
    exact ⟨by decide, name color, by simp⟩
  | outline pen =>
    simp only [words, List.forall_mem_cons]
    exact ⟨by decide, name pen.color, pen.width.free_text, by simp⟩

/-- No word for a figure has a space in it. -/
theorem Figure.free_words (figure : Figure) : ∀ word ∈ figure.words, Free [' '] word := by
  -- Every word is a name or is made of numbers.
  cases figure with
  | line start stop =>
    simp only [words, List.forall_mem_cons]
    exact ⟨by decide, start.free_text, by decide, stop.free_text, by simp⟩
  | rect corner width height =>
    simp only [words, List.forall_mem_cons, free_append]
    exact ⟨by decide, corner.free_text, ⟨⟨width.free_text, by decide⟩, height.free_text⟩, by simp⟩
  | triangle corner size | circle corner size =>
    simp only [words, List.forall_mem_cons]
    exact ⟨by decide, corner.free_text, size.free_text, by simp⟩

/-- Shapes have the same text exactly if they have the same figure and their styles look alike. -/
theorem Shape.text_eq_iff (first second : Shape) :
    first.text = second.text ↔ first.figure = second.figure ∧ first.paint = second.paint := by
  have free : ∀ shape : Shape,
      ∀ word ∈ shape.figure.words ++ shape.paint.words, Free [' '] word := by
    intro shape word listed
    rcases List.mem_append.mp listed with place | seen
    · exact shape.figure.free_words word place
    · exact shape.paint.free_words word seen
  have filled : ∀ shape : Shape, shape.figure.words ++ shape.paint.words ≠ [] := fun shape =>
    List.append_ne_nil_of_left_ne_nil shape.figure.words_ne_nil _
  -- As no word has a space in it, a text can be split into its words again.
  rw [text_eq_words, text_eq_words]
  constructor
  · intro same
    exact Figure.words_inj (intercalate_inj rfl (free _) (free _) (filled _) (filled _) same)
  · rintro ⟨place, seen⟩
    rw [place, seen]

end Plotter
