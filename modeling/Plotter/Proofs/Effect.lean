import Plotter.Effect
import Plotter.Proofs.Identifier
import Plotter.Proofs.Resolve

/-! What commands can come to: the effects that they have, and the reasons why they may fail. -/

namespace Plotter

/-- The names that a command looks up when it is carried out. -/
def Command.names : Command → List String
  -- A literal names no variable, and a computation takes its source as it is written.
  | drawTo first second | moveBy first second | rect first second => first.names ++ second.names
  | triangle size | circle size => size.names
  | compute _ source _ _ => [source]
  | _ => []

/-- The name that a command binds. -/
def Command.target? : Command → Option String
  -- No other command changes the store.
  | assign name _ | compute name _ _ _ => some name
  | _ => none

/-- The pen that a shape is drawn with. -/
def Shape.pen : Shape → Pen
  -- A line carries its pen alone, a closed shape has it inside its style.
  | line _ _ pen => pen
  | rect _ _ _ style | triangle _ _ style | circle _ _ style => style.pen

/-- The style of a shape, if it is closed. -/
def Shape.style? : Shape → Option Style
  -- Lines are never filled, so they have no style.
  | line _ _ _ => none
  | rect _ _ _ style | triangle _ _ style | circle _ _ style => some style

/-- The sizes of a shape. -/
def Shape.sizes : Shape → List Number
  -- The ends of a line are points, not sizes.
  | line _ _ _ => []
  | rect _ width height _ => [width, height]
  | triangle _ side _ => [side]
  | circle _ radius _ => [radius]

namespace Effect

/-- The effects that a command can have in a context. -/
inductive Has (settings : Settings) (context : Context) (command : Command) : Effect → Prop
  /-- It draws a line from the cursor, and leaves the cursor at its end. -/
  | line (kind : command.name = "drawto") (target : Point) :
      Has settings context command
        (draw (.shape (.line context.cursor target context.pen)) target)
  /-- It draws a closed shape, for which neither a size nor the width of the pen is below zero. -/
  | closed (kind : command.name ∈ ["rect", "trig", "circle"]) {shape : Shape}
      (style : shape.style? = some context.style) (sizes : ∀ size ∈ shape.sizes, 0 ≤ size)
      (width : 0 ≤ context.pen.width) :
      Has settings context command (draw (.shape shape) context.cursor)
  /-- It clears the drawing. -/
  | clear (chosen : command = .clear) :
      Has settings context command (draw (.clear settings.background) context.cursor)
  /-- It moves the cursor and nothing else. -/
  | move (kind : command.name = "moveto") (cursor : Point) :
      Has settings context command (adjust { context with cursor })
  /-- It takes the context back to its start. -/
  | reset (chosen : command = .reset) : Has settings context command (adjust (.initial settings))
  /-- It leaves the context as it is. -/
  | stay (chosen : command = .run) : Has settings context command (adjust context)
  /-- It chooses the fill. -/
  | fill {enabled : Bool} {color : Color} (chosen : command = .fill enabled color) :
      Has settings context command (adjust { context with fill := { enabled, color } })
  /-- It chooses the colour of the pen. -/
  | pen {color : Color} (chosen : command = .pen color) :
      Has settings context command (adjust { context with pen := { context.pen with color } })
  /-- It binds a name to a number, after the check of the two. -/
  | bind {name : String} {number : Number} (target : command.target? = some name)
      (passed : Variables.check name (.int number) = .ok ()) :
      Has settings context command (bind name (.int number))
  /-- It gives a notice of a line that has none of the known forms. -/
  | notify {text : String} (chosen : command = .unrecognized text) :
      Has settings context command (notify (.unrecognized text))

/-- A size that is not refused is not below zero. -/
theorem nonNegative_ok {what : Quantity} {value : Number} {given : Unit}
    (passed : nonNegative what value = .ok given) : 0 ≤ value := by
  unfold nonNegative at passed
  -- The test for being negative has failed.
  split at passed
  · cases passed
  · rename_i natural
    exact Int32.not_lt.mp natural

/-- A size that can be had is not below zero. -/
theorem size_ok {store : Variables} {what : Quantity} {operand : Operand} {value : Number}
    (sized : size store what operand = .ok value) : 0 ≤ value := by
  -- The operand is resolved before its value is tested.
  obtain ⟨number, -, checked⟩ := (bind_eq_ok_iff _ _ _).mp sized
  obtain ⟨_, passed, same⟩ := (bind_eq_ok_iff _ _ _).mp checked
  obtain rfl := Except.ok.inj same
  exact nonNegative_ok passed

/-- An assignment that is made binds its name to its value, and both have passed the check. -/
theorem has_of_assignment {settings : Settings} {context : Context} {command : Command}
    {name : String} {number : Number} {effect : Effect} (target : command.target? = some name)
    (made : assignment name (.int number) = .ok effect) : Has settings context command effect := by
  -- An assignment that is made has passed the check of the variable.
  obtain ⟨_, passed, same⟩ := (bind_eq_ok_iff _ _ _).mp made
  obtain rfl := Except.ok.inj same
  exact .bind target passed

/-- A shape of one size is drawn if neither that nor the width of the pen is below zero. -/
theorem has_of_shape {settings : Settings} {store : Variables} {context : Context}
    {command : Command} {what : Quantity} {operand : Operand} {made : Number → Shape}
    {effect : Effect} (kind : command.name ∈ ["rect", "trig", "circle"])
    (decided : (do
      let value ← size store what operand
      nonNegative .lineWidth context.pen.width
      return draw (.shape (made value)) context.cursor) = Except.ok effect)
    (style : ∀ value, (made value).style? = some context.style)
    (sizes : ∀ value, 0 ≤ value → ∀ size ∈ (made value).sizes, 0 ≤ size) :
    Has settings context command effect := by
  -- The size is tested before the width, and both have passed.
  obtain ⟨value, sized, later⟩ := (bind_eq_ok_iff _ _ _).mp decided
  obtain ⟨_, wide, same⟩ := (bind_eq_ok_iff _ _ _).mp later
  obtain rfl := Except.ok.inj same
  exact .closed kind (style value) (sizes value (size_ok sized)) (nonNegative_ok wide)

/-- A command that does not fail has one of the effects. -/
theorem has_of_ofCommand {settings : Settings} {store : Variables} {context : Context}
    {command : Command} {effect : Effect}
    (decided : ofCommand settings store context command = .ok effect) :
    Has settings context command effect := by
  -- Each step of a command has to succeed before the next one is made.
  cases command with
  | drawTo x y =>
    obtain ⟨_, -, later⟩ := (bind_eq_ok_iff _ _ _).mp decided
    obtain ⟨_, -, same⟩ := (bind_eq_ok_iff _ _ _).mp later
    obtain rfl := Except.ok.inj same
    exact .line rfl _
  | moveBy dx dy =>
    obtain ⟨_, -, later⟩ := (bind_eq_ok_iff _ _ _).mp decided
    obtain ⟨_, -, last⟩ := (bind_eq_ok_iff _ _ _).mp later
    obtain ⟨_, -, same⟩ := (bind_eq_ok_iff _ _ _).mp last
    obtain rfl := Except.ok.inj same
    exact .move rfl _
  | rect width height =>
    obtain ⟨wide, sized, later⟩ := (bind_eq_ok_iff _ _ _).mp decided
    refine has_of_shape (by simp [Command.name]) later (fun _ => rfl) fun high natural => ?_
    simpa [Shape.sizes] using ⟨size_ok sized, natural⟩
  | triangle side =>
    exact has_of_shape (by simp [Command.name]) decided (fun _ => rfl) (by simp [Shape.sizes])
  | circle radius =>
    exact has_of_shape (by simp [Command.name]) decided (fun _ => rfl) (by simp [Shape.sizes])
  | clear =>
    obtain rfl := Except.ok.inj decided
    exact .clear rfl
  | reset =>
    obtain rfl := Except.ok.inj decided
    exact .reset rfl
  | run =>
    obtain rfl := Except.ok.inj decided
    exact .stay rfl
  | fill enabled color =>
    obtain rfl := Except.ok.inj decided
    exact .fill rfl
  | pen color =>
    obtain rfl := Except.ok.inj decided
    exact .pen rfl
  | assign name value => exact has_of_assignment rfl decided
  | compute name source op operand =>
    obtain ⟨_, -, later⟩ := (bind_eq_ok_iff _ _ _).mp decided
    obtain ⟨_, -, made⟩ := (bind_eq_ok_iff _ _ _).mp later
    exact has_of_assignment rfl made
  | unrecognized line =>
    obtain rfl := Except.ok.inj decided
    exact .notify rfl
  | opens kind condition => cases decided
  | closes kind => cases decided

/-- A command binds a name only to a number, and only after the check of the two. -/
theorem bound_of_ofCommand {settings : Settings} {store : Variables} {context : Context}
    {command : Command} {name : String} {value : Value}
    (decided : ofCommand settings store context command = .ok (bind name value)) :
    (∃ number, value = .int number) ∧ Variables.check name value = .ok () := by
  -- Only one way of having an effect binds a variable.
  cases has_of_ofCommand decided with
  | bind target passed => exact ⟨⟨_, rfl⟩, passed⟩

/-- The reasons for which a command can fail. -/
inductive Fails (store : Variables) (command : Command) : Error → Prop
  /-- One of the names that it looks up stands for no number. -/
  | unresolved {error : Error} (misses : store.Misses command.names error) :
      Fails store command error
  /-- It is a marker, and not a command to be carried out. -/
  | loose {marker : Marker} (marked : command.marker? = some marker) :
      Fails store command (.looseMarker marker)
  /-- What it binds is not a name. -/
  | badName {name : String} (target : command.target? = some name)
      (bad : ¬ Identifier.Spelled name) : Fails store command (.badName name)
  /-- One of its numbers is out of range. -/
  | outOfRange {error : Error} (kind : error.kind = .outOfRange) : Fails store command error
  /-- It divides by zero. -/
  | divisionByZero : Fails store command .divisionByZero

/-- A size that is negative is out of range. -/
theorem nonNegative_error {what : Quantity} {value : Number} {error : Error}
    (failed : nonNegative what value = .error error) : error.kind = .outOfRange := by
  unfold nonNegative at failed
  -- There is one way to fail, and it is about a number out of range.
  split at failed
  · exact Except.error.inj failed ▸ rfl
  · cases failed

/-- A size cannot be had if its operand stands for no number, or for one that is out of range. -/
theorem size_error {store : Variables} {what : Quantity} {operand : Operand} {error : Error}
    (failed : size store what operand = .error error) :
    store.Misses operand.names error ∨ error.kind = .outOfRange := by
  rw [size, bind_eq_error_iff] at failed
  -- Either the operand has no value, or its value is negative.
  rcases failed with missing | ⟨value, -, later⟩
  · exact .inl (Variables.resolve_error missing)
  · rw [bind_eq_error_iff] at later
    rcases later with negative | ⟨_, -, given⟩
    · exact .inr (nonNegative_error negative)
    · cases given

/-- A move that cannot be made leads out of range. -/
theorem moved_error {cursor : Point} {dx dy : Number} {error : Error}
    (failed : moved cursor dx dy = .error error) : error.kind = .outOfRange := by
  unfold moved at failed
  -- A move fails only if a coordinate leaves the range.
  split at failed
  · cases failed
  · exact Except.error.inj failed ▸ rfl

/-- An operation that has no result divides by zero, or its result is out of range. -/
theorem apply_error {op : ArithOp} {lhs rhs : Number} {error : Error}
    (failed : op.apply lhs rhs = .error error) :
    error = .divisionByZero ∨ error.kind = .outOfRange := by
  unfold ArithOp.apply at failed
  -- The divisor is tested before the result is.
  split at failed
  · exact .inl (Except.error.inj failed).symm
  · split at failed
    · cases failed
    · exact .inr (Except.error.inj failed ▸ rfl)

/-- A number is refused if it is out of range, or if what it is given to is not a name. -/
theorem assignment_error {name : String} {number : Number} {error : Error}
    (failed : assignment name (.int number) = .error error) :
    error = .badName name ∧ ¬ Identifier.Spelled name ∨ error.kind = .outOfRange := by
  rw [assignment, bind_eq_error_iff] at failed
  -- The check of the variable is the only part that can fail.
  rcases failed with refused | ⟨_, -, made⟩
  · -- The name is checked first, and with a good name the number decides.
    rw [← Identifier.isValid_iff]
    cases valid : Identifier.isValid name with
    | false =>
      simp only [Variables.check, valid, Bool.not_false, if_true] at refused
      exact .inl ⟨(Except.error.inj refused).symm, Bool.false_ne_true⟩
    | true =>
      simp only [Variables.check, valid, Bool.not_true, Bool.false_eq_true, if_false] at refused
      split at refused
      · exact .inr (Except.error.inj refused ▸ rfl)
      · cases refused
  · cases made

/-- A command fails with an operand of its own that stands for no number. -/
theorem fails_of_resolve {store : Variables} {command : Command} {operand : Operand}
    {error : Error} (failed : store.resolve operand = .error error)
    (used : operand.names ⊆ command.names) : Fails store command error :=
  -- The missing name is one of the operand, so it is one of the command.
  .unresolved ((Variables.resolve_error failed).mono used)

/-- A command fails with a size of its own that cannot be had. -/
theorem fails_of_size {store : Variables} {command : Command} {what : Quantity}
    {operand : Operand} {error : Error} (failed : size store what operand = .error error)
    (used : operand.names ⊆ command.names) : Fails store command error := by
  -- A size fails for its operand or for its value.
  rcases size_error failed with misses | kind
  · exact .unresolved (misses.mono used)
  · exact .outOfRange kind

/-- A shape of one size fails with the size, or with the pen. -/
theorem fails_of_shape {store : Variables} {command : Command} {what : Quantity}
    {operand : Operand} {width : Number} {made : Number → Effect} {error : Error}
    (failed : (do
      let value ← size store what operand
      nonNegative .lineWidth width
      return made value) = Except.error error)
    (used : operand.names ⊆ command.names) : Fails store command error := by
  rw [bind_eq_error_iff] at failed
  -- The size fails first, and the width is tested only behind it.
  rcases failed with sized | ⟨value, -, later⟩
  · exact fails_of_size sized used
  · rw [bind_eq_error_iff] at later
    rcases later with negative | ⟨_, -, drawn⟩
    · exact .outOfRange (nonNegative_error negative)
    · cases drawn

/-- A command that has no effect fails for one of the reasons. -/
theorem fails_of_ofCommand {settings : Settings} {store : Variables} {context : Context}
    {command : Command} {error : Error}
    (failed : ofCommand settings store context command = .error error) :
    Fails store command error := by
  -- Each step of a command is looked at in its turn, as the steps before it have not failed.
  cases command with
  | drawTo x y =>
    rw [ofCommand, bind_eq_error_iff] at failed
    rcases failed with first | ⟨_, -, later⟩
    · exact fails_of_resolve first (List.subset_append_left ..)
    · rw [bind_eq_error_iff] at later
      rcases later with second | ⟨_, -, drawn⟩
      · exact fails_of_resolve second (List.subset_append_right ..)
      · cases drawn
  | moveBy dx dy =>
    rw [ofCommand, bind_eq_error_iff] at failed
    rcases failed with first | ⟨_, -, later⟩
    · exact fails_of_resolve first (List.subset_append_left ..)
    · rw [bind_eq_error_iff] at later
      rcases later with second | ⟨_, -, last⟩
      · exact fails_of_resolve second (List.subset_append_right ..)
      · rw [bind_eq_error_iff] at last
        rcases last with away | ⟨_, -, adjusted⟩
        · exact .outOfRange (moved_error away)
        · cases adjusted
  | rect width height =>
    rw [ofCommand, bind_eq_error_iff] at failed
    rcases failed with first | ⟨_, -, later⟩
    · exact fails_of_size first (List.subset_append_left ..)
    · exact fails_of_shape later (List.subset_append_right ..)
  | triangle side => exact fails_of_shape failed (List.Subset.refl _)
  | circle radius => exact fails_of_shape failed (List.Subset.refl _)
  | opens kind condition =>
    obtain rfl := Except.error.inj failed
    exact .loose rfl
  | closes kind =>
    obtain rfl := Except.error.inj failed
    exact .loose rfl
  | assign name value =>
    rcases assignment_error failed with ⟨rfl, bad⟩ | kind
    · exact .badName rfl bad
    · exact .outOfRange kind
  | compute name source op operand =>
    rw [ofCommand, bind_eq_error_iff] at failed
    rcases failed with missing | ⟨lhs, -, later⟩
    · exact .unresolved (Variables.resolveToken_error missing)
    · rw [bind_eq_error_iff] at later
      rcases later with nothing | ⟨result, -, made⟩
      · rcases apply_error nothing with rfl | kind
        · exact .divisionByZero
        · exact .outOfRange kind
      · rcases assignment_error made with ⟨rfl, bad⟩ | kind
        · exact .badName rfl bad
        · exact .outOfRange kind
  | _ => cases failed

/-- No command fails because of the limit of a loop. -/
theorem ofCommand_ne_loopLimit {settings : Settings} {store : Variables}
    {context : Context} {command : Command} {error : Error}
    (failed : ofCommand settings store context command = .error error) (limit : Nat) :
    error ≠ .loopLimit limit := by
  rintro rfl
  -- The limit is none of the reasons for which a command fails.
  cases fails_of_ofCommand failed with
  | unresolved misses =>
    obtain ⟨_, -, same, -⟩ := misses
    exact nomatch same
  | outOfRange kind => exact nomatch kind

end Effect

end Plotter
