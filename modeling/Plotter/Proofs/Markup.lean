import Plotter.Proofs.Parts
import Plotter.Svg.Shape

/-! Elements are known by their text, but for the order of their attributes. -/

namespace Plotter

open Text

namespace Svg

/-- The text of attributes in the order in which they are given. -/
def listedText (attributes : List (String × String)) : String :=
  -- Each attribute brings the blank before it, so an empty list has no text.
  String.join (attributes.map fun (name, value) => " " ++ name ++ "=\"" ++ value ++ "\"")

/-- The first attribute stands in front of the others. -/
theorem listedText_cons (entry : String × String) (rest : List (String × String)) :
    listedText (entry :: rest) =
      " " ++ entry.1 ++ "=\"" ++ entry.2 ++ "\"" ++ listedText rest := by
  -- Joining begins with the first attribute.
  rw [listedText, List.map_cons, String.join_cons]
  rfl

/-- The name and the value of an attribute end where they should, and both are on one line. -/
structure Clear (entry : String × String) : Prop where
  /-- The name ends before the sign behind it. -/
  name : Free ['=', '\n'] entry.1
  /-- The value ends with the quote behind it. -/
  value : Free ['"', '\n'] entry.2

/-- Attributes are known by their text and the end of their element. -/
theorem listedText_inj {first second : List (String × String)}
    (one : ∀ entry ∈ first, Clear entry) (two : ∀ entry ∈ second, Clear entry)
    (same : listedText first ++ "/>" = listedText second ++ "/>") : first = second := by
  -- Where the attributes are at their end, there is no space.
  have ends : ∀ {entry : String × String} {rest : List (String × String)},
      listedText [] ++ "/>" ≠ listedText (entry :: rest) ++ "/>" := by
    intro entry rest written
    have heads := congrArg (fun text => text.toList.head?) written
    rw [listedText_cons] at heads
    simp [listedText] at heads
  induction first generalizing second with
  | nil =>
    cases second with
    | nil => rfl
    | cons other others => exact (ends same).elim
  | cons entry rest ih =>
    cases second with
    | nil => exact (ends same.symm).elim
    | cons other others =>
      rw [List.forall_mem_cons] at one two
      -- The text is cut behind the name and behind the value.
      have whole : " " ++ entry.1 ++ "=\"" ++ (entry.2 ++ "\"" ++ (listedText rest ++ "/>")) =
          " " ++ other.1 ++ "=\"" ++ (other.2 ++ "\"" ++ (listedText others ++ "/>")) := by
        simpa only [listedText_cons, String.append_assoc] using same
      have name : ∀ {entry : String × String}, Clear entry →
          Free ['='] (" " ++ entry.1) := fun clear =>
        free_append.mpr ⟨by decide, clear.name.mono (by simp)⟩
      have value : ∀ {entry : String × String}, Clear entry →
          Free ['"'] entry.2 := fun clear => clear.value.mono (by simp)
      obtain ⟨names, behind⟩ := append_separator_inj rfl (name one.1) (name two.1) whole
      obtain ⟨values, later⟩ := append_separator_inj rfl (value one.1) (value two.1) behind
      rw [ih one.2 two.2 later, Prod.ext ((String.append_right_inj " ").mp names) values]

/-- The name of an element ends where it should, and so do its attributes, of which it has some. -/
structure Element.Clear (element : Element) : Prop where
  /-- The name ends before the first attribute. -/
  name : Free [' ', '\n'] element.name
  /-- There is an attribute. -/
  filled : element.attributes ≠ []
  /-- All attributes are clear. -/
  attributes : ∀ entry ∈ element.attributes, Svg.Clear entry

/-- A clear element is known by its text, but for the order of its attributes. -/
theorem Element.eq_of_text {first second : Element} (one : first.Clear) (two : second.Clear)
    (same : first.text = second.text) :
    first.name = second.name ∧
      ∀ entry, entry ∈ first.attributes ↔ entry ∈ second.attributes := by
  -- Sorting keeps the attributes, and there is a space in front of the first one.
  have split : ∀ {element : Element}, element.Clear →
      (∀ entry ∈ sortAttributes element.attributes, Svg.Clear entry) ∧
      ∃ rest, listedText (sortAttributes element.attributes) ++ "/>" = " " ++ rest := by
    intro element clear
    have perm : (sortAttributes element.attributes).Perm element.attributes :=
      List.mergeSort_perm _ _
    refine ⟨fun entry listed => clear.attributes entry (perm.mem_iff.mp listed), ?_⟩
    cases sorted : sortAttributes element.attributes with
    | nil =>
      rw [sorted] at perm
      exact (clear.filled perm.nil_eq.symm).elim
    | cons entry rest =>
      simp only [listedText_cons, String.append_assoc]
      exact ⟨_, rfl⟩
  have name : ∀ {element : Element}, element.Clear → Free [' '] ("<" ++ element.name) :=
    fun clear => free_append.mpr ⟨by decide, clear.name.mono (by simp)⟩
  obtain ⟨clear, rest, starts⟩ := split one
  obtain ⟨also, tail, begins⟩ := split two
  have whole : "<" ++ first.name ++ " " ++ rest = "<" ++ second.name ++ " " ++ tail := by
    have texts : ∀ element : Element, element.text =
        "<" ++ element.name ++ (listedText (sortAttributes element.attributes) ++ "/>") := by
      intro element
      simp only [Element.text, attributesText, listedText, String.append_assoc]
    rw [texts, texts, starts, begins] at same
    simpa only [String.append_assoc] using same
  obtain ⟨names, behind⟩ := append_separator_inj rfl (name one) (name two) whole
  have sorted := listedText_inj clear also (by rw [starts, begins, behind])
  -- The sorted attributes are the same in order, and so all of them are the same in any order.
  refine ⟨(String.append_right_inj "<").mp names, fun entry => ?_⟩
  rw [← (List.mergeSort_perm first.attributes _).mem_iff, ← sortAttributes, sorted, sortAttributes,
    (List.mergeSort_perm second.attributes _).mem_iff]

/-- A clear element is on one line. -/
theorem Element.free_text {element : Element} (clear : element.Clear) :
    Free ['\n'] element.text := by
  have listed : ∀ attributes, (∀ entry ∈ attributes, Svg.Clear entry) →
      Free ['\n'] (listedText attributes) := by
    intro attributes each
    induction attributes with
    | nil => decide
    | cons entry rest ih =>
      rw [List.forall_mem_cons] at each
      rw [listedText_cons]
      simp only [free_append]
      exact ⟨⟨⟨⟨⟨by decide, each.1.name.mono (by simp)⟩, by decide⟩,
        each.1.value.mono (by simp)⟩, by decide⟩, ih each.2⟩
  have attributes : Free ['\n'] (attributesText element.attributes) := listed _ fun entry found =>
    clear.attributes entry ((List.mergeSort_perm _ _).mem_iff.mp found)
  -- The signs around the name and the attributes are no line ends either.
  rw [text]
  simp only [free_append]
  exact ⟨⟨⟨by decide, clear.name.mono (by simp)⟩, attributes⟩, by decide⟩

/-- Documents with the same outermost element have the same text if all their elements do. -/
theorem documentText_eq_iff (attributes : List (String × String)) {first second : List Element}
    (one : ∀ element ∈ first, element.Clear) (two : ∀ element ∈ second, element.Clear) :
    documentText attributes first = documentText attributes second ↔
      first.map Element.text = second.map Element.text := by
  -- Each element has a line of its own, and so has the end of the document.
  have lines : ∀ {elements : List Element}, (∀ element ∈ elements, element.Clear) →
      ∀ line ∈ elements.map Element.text ++ ["</svg>"], Free ['\n'] line := by
    intro elements each line listed
    rcases List.mem_append.mp listed with inner | last
    · obtain ⟨element, member, rfl⟩ := List.mem_map.mp inner
      exact Element.free_text (each element member)
    · rw [List.mem_singleton.mp last]
      decide
  -- The end of the document is there without any elements, too.
  have filled : ∀ elements : List Element, elements.map Element.text ++ ["</svg>"] ≠ [] := by simp
  dsimp only [documentText]
  rw [List.cons_append, List.cons_append, String.intercalate_cons_of_ne_nil (filled first),
    String.intercalate_cons_of_ne_nil (filled second), String.append_right_inj]
  constructor
  · intro same
    exact List.append_cancel_right
      (intercalate_inj rfl (lines one) (lines two) (filled first) (filled second) same)
  · intro same
    rw [same]

end Svg

end Plotter
