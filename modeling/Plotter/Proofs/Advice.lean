import Plotter.Canvas.Recording
import Plotter.Proofs.Alike

/-! Lines with none of the known forms are advisory: they give notices and change nothing else. -/

namespace Plotter

open Plotter.Action

namespace Command

/-- The notice that a command gives whenever it is carried out. -/
def notice? : Command → Option Notice
  -- The command only ever gives a notice, so nothing of the session is needed to tell it.
  | unrecognized line => some (.unrecognized line)
  | _ => none

/-- Whether a command does nothing at all, or nothing but to give a notice. -/
def isAdvisory : Command → Bool
  -- A run command asks for what is happening anyway.
  | unrecognized _ | run => true
  | _ => false

/-- The commands that are left without the advisory ones. -/
def substance (commands : List Command) : List Command :=
  -- The order of the remaining commands stays as it was written.
  commands.filter fun command => !command.isAdvisory

/-- The commands that are left without the advisory ones give no notices. -/
theorem notice?_of_mem_substance {command : Command} {commands : List Command}
    (member : command ∈ substance commands) : command.notice? = none := by
  obtain ⟨-, other⟩ := List.mem_filter.mp member
  -- Only an unrecognized line has a notice, and the filter has dropped those.
  cases command with
  | unrecognized line => exact nomatch other
  | _ => rfl

end Command

variable {κ : Type}

/-- Two sessions that have everything in common but the notices given so far. -/
structure Session.SameButNotices (first second : Session κ) : Prop where
  /-- The canvases are the same. -/
  canvas : first.canvas = second.canvas
  /-- The variables are the same. -/
  store : first.store = second.store
  /-- The drawing contexts are the same. -/
  context : first.context = second.context

variable [Canvas κ]

/-- No command finds out which notices were given. -/
def Likeness.butNotices (κ : Type) [Canvas κ] : Likeness κ κ where
  alike := Session.SameButNotices
  store := Session.SameButNotices.store
  context := Session.SameButNotices.context
  change := by
    intro first second ⟨canvas, store, context⟩ effect
    -- Of the four effects only a notice reaches the notices.
    cases effect with
    | draw op cursor => exact ⟨by simp only [Effect.change, canvas], store,
        by simp only [Effect.change, context]⟩
    | adjust adjusted => exact ⟨canvas, store, rfl⟩
    | bind name value => exact ⟨canvas, by simp only [Effect.change, store], context⟩
    | notify notice => exact ⟨canvas, store, context⟩

namespace Action

variable (settings : Settings)

/-- An advisory command ends, and leaves everything but the notices as it was. -/
theorem execute_of_isAdvisory {command : Command} (advisory : command.isAdvisory = true)
    (session : Session κ) :
    ∃ after, outcome (execute settings command) session = (.ok (), after) ∧
      after.SameButNotices session := by
  -- The two kinds differ in the notice that an unrecognized line leaves behind.
  cases command with
  | unrecognized line =>
    exact ⟨(Effect.notify (.unrecognized line)).change session, outcome_execute .., rfl, rfl, rfl⟩
  | run => exact ⟨session, outcome_execute .., rfl, rfl, rfl⟩
  | _ => exact nomatch advisory

/-- Commands do the same without the advisory ones among them. -/
theorem mirrors_substance (commands : List Command) :
    Mirrors (Likeness.butNotices κ) (executeAll settings commands)
      (executeAll settings (Command.substance commands)) := by
  simp only [executeAll_eq_forM]
  -- The induction is on the commands; an advisory one is passed over on the right.
  induction commands with
  | nil => exact fun before other alike => ⟨rfl, alike⟩
  | cons command rest ih =>
    intro before other alike
    rw [outcome_forM_cons (execute_logBlind settings)]
    cases advisory : command.isAdvisory with
    | true =>
      have left : Command.substance (command :: rest) = Command.substance rest :=
        List.filter_cons_of_neg (by simp [advisory])
      obtain ⟨after, ended, same⟩ := execute_of_isAdvisory settings advisory before
      rw [left, ended, follow_ok]
      exact ih after other ⟨same.canvas.trans alike.canvas, same.store.trans alike.store,
        same.context.trans alike.context⟩
    | false =>
      have kept : Command.substance (command :: rest) = command :: Command.substance rest :=
        List.filter_cons_of_pos (by simp [advisory])
      rw [kept, outcome_forM_cons (execute_logBlind settings)]
      exact (mirrors_execute _ settings command before other alike).follow
        fun _ after left => ih after left

/-- A command adds its notice to those given so far, if it has one. -/
theorem notices_execute (command : Command) (session : Session κ) :
    (outcome (execute settings command) session).2.notices.toList =
      session.notices.toList ++ command.notice?.toList := by
  rw [outcome_execute]
  cases command with
  | unrecognized line => exact Array.toList_push
  | _ =>
    -- Any other command fails, or has an effect on something else.
    refine Eq.trans ?_ (List.append_nil _).symm
    split
    · rename_i effect decided
      cases Effect.has_of_ofCommand decided with
      | notify chosen => exact nomatch chosen
      | _ => rfl
    · rfl

/-- The commands that are reached in order: all of them, or those up to the first that fails. -/
def reached : List Command → Session κ → List Command
  | [], _ => []
  | command :: rest, session =>
    command :: match outcome (execute settings command) session with
      | (.ok _, after) => reached rest after
      -- The command that fails has been reached, but none behind it.
      | (.error _, _) => []

/-- The commands that a loop reaches: those of each iteration up to the first that fails. -/
def reachedByRounds (condition : Condition) (body : List Command) :
    Nat → Session κ → List Command
  | 0, _ => []
  | allowed + 1, session =>
    match condition.holds session.store with
    | .ok true =>
      reached settings body session ++
        match outcome (executeAll settings body) session with
        | (.ok _, after) => reachedByRounds condition body allowed after
        -- An iteration that fails is the last one.
        | (.error _, _) => []
    | _ => []

/-- The commands that a loop reaches, which are none if its condition is malformed. -/
def reachedByLoop (fuel : Nat) (condition : String) (body : List Command) (session : Session κ) :
    List Command :=
  -- A condition that does not parse stops the loop before its first round.
  match Condition.parse condition with
  | .ok parsed =>
    reachedByRounds settings parsed body (settings.loopLimit.getD fuel) session
  | .error _ => []

/-- The commands that a branch reaches, which are none if its condition does not hold. -/
def reachedByBranch (condition : String) (body : List Command) (session : Session κ) :
    List Command :=
  -- The body is reached only if the condition is decided and holds.
  match Condition.evaluate condition session.store with
  | .ok true => reached settings body session
  | _ => []

/-- Commands in order give the notices of those that are reached. -/
theorem notices_executeAll (commands : List Command) (session : Session κ) :
    (outcome (executeAll settings commands) session).2.notices.toList =
      session.notices.toList ++ (reached settings commands session).filterMap Command.notice? := by
  rw [executeAll_eq_forM]
  -- The induction is on the commands, each of which starts from what those before it left.
  induction commands generalizing session with
  | nil => exact (List.append_nil _).symm
  | cons command rest ih =>
    have first := notices_execute settings command session
    have split : ∀ others : List Command, (command :: others).filterMap Command.notice? =
        command.notice?.toList ++ others.filterMap Command.notice? := by
      intro others
      cases noted : command.notice? <;> simp [noted]
    rw [outcome_forM_cons (execute_logBlind settings), reached, split, ← List.append_assoc, ← first]
    rcases outcome (execute settings command) session with ⟨halt | ⟨⟩, after⟩
    · exact (List.append_nil _).symm
    · exact ih after

/-- The iterations of a loop give the notices of the commands that they reach. -/
theorem notices_iterate (condition : Condition) (body : List Command) (allowed done : Nat)
    (session : Session κ) :
    (outcome (iterate settings condition body allowed done) session).2.notices.toList =
      session.notices.toList ++
        (reachedByRounds settings condition body allowed session).filterMap Command.notice? := by
  -- The induction is on the iterations that are left; each of them gives its own notices.
  induction allowed generalizing done session with
  | zero =>
    refine Eq.trans ?_ (List.append_nil _).symm
    rw [outcome_iterate_zero]
    rcases condition.holds session.store with error | (_ | _) <;> rfl
  | succ allowed ih =>
    rw [outcome_iterate_succ, reachedByRounds]
    rcases condition.holds session.store with error | (_ | _)
    · exact (List.append_nil _).symm
    · exact (List.append_nil _).symm
    · have once := notices_executeAll settings body session
      simp only [List.filterMap_append]
      rw [← List.append_assoc, ← once]
      rcases outcome (executeAll settings body) session with ⟨halt | ⟨⟩, after⟩
      · exact (List.append_nil _).symm
      · exact ih (done + 1) after

/-- A loop gives the notices of the commands that it reaches. -/
theorem notices_runLoop (fuel : Nat) (condition : String) (body : List Command)
    (session : Session κ) :
    (outcome (runLoop settings fuel condition body) session).2.notices.toList =
      session.notices.toList ++
        (reachedByLoop settings fuel condition body session).filterMap Command.notice? := by
  rw [outcome_runLoop]
  delta reachedByLoop
  -- A condition that cannot be read gives no round, hence no notice.
  cases Condition.parse condition with
  | error malformed => exact (List.append_nil _).symm
  | ok parsed => exact notices_iterate settings parsed body _ 0 session

/-- A branch gives the notices of the commands that it reaches. -/
theorem notices_runBranch (condition : String) (body : List Command) (session : Session κ) :
    (outcome (runBranch settings condition body) session).2.notices.toList =
      session.notices.toList ++
        (reachedByBranch settings condition body session).filterMap Command.notice? := by
  rw [outcome_runBranch]
  delta reachedByBranch
  -- A branch that is not taken reaches no command, and gives no notice.
  rcases Condition.evaluate condition session.store with error | (_ | _)
  · exact (List.append_nil _).symm
  · exact (List.append_nil _).symm
  · have once := notices_executeAll settings body session
    rw [← once]
    rcases outcome (executeAll settings body) session with ⟨halt | ⟨⟩, after⟩ <;> rfl

/-- A request whose commands give no notices leaves those given so far as they are. -/
theorem notices_of_silent {request : Request}
    (silent : ∀ command, request.Brings command → command.notice? = none) (fuel : Nat)
    (session : Session κ) :
    (outcome (request.action settings fuel) session).2.notices = session.notices := by
  have kept : (Conduct.keeping fun later : Session κ => later.notices = session.notices).Allows
      (request.action settings fuel) := by
    refine Conduct.keeping_allows_request
      (fun command brought before effect same decided => ?_) fuel
    -- The effect that gives a notice is that of a command which none of these is.
    cases Effect.has_of_ofCommand decided with
    | notify chosen =>
      subst chosen
      exact nomatch silent _ brought
    | _ => exact same
  exact (kept session).1 rfl

/-- Commands that are reached are all of them if none fails. -/
theorem reached_of_ended {commands : List Command} {session : Session κ}
    (ended : (outcome (executeAll settings commands) session).1 = .ok ()) :
    reached settings commands session = commands := by
  rw [executeAll_eq_forM] at ended
  -- The induction is on the commands, none of which may stop the others.
  induction commands generalizing session with
  | nil => rfl
  | cons command rest ih =>
    rw [outcome_forM_cons (execute_logBlind settings)] at ended
    rw [reached]
    rcases ran : outcome (execute settings command) session with ⟨halt | ⟨⟩, after⟩
    · rw [ran] at ended
      exact nomatch ended
    · rw [ran, follow_ok] at ended
      exact congrArg (command :: ·) (ih ended)

/-- A loop that ends has reached its whole body once in each of its iterations. -/
theorem reachedByRounds_of_ended {condition : Condition} {body : List Command}
    {allowed done count : Nat} {session : Session κ}
    (ended : (outcome (iterate settings condition body allowed done) session).1 = .ok count) :
    ∃ rounds, count = done + rounds ∧
      reachedByRounds settings condition body allowed session =
        (List.replicate rounds body).flatten := by
  -- The induction is on the iterations that are allowed, of which one more is done each time.
  induction allowed generalizing done session with
  | zero =>
    rw [outcome_iterate_zero] at ended
    rcases holds : condition.holds session.store with error | (_ | _) <;> rw [holds] at ended
    · exact nomatch ended
    · exact ⟨0, (Except.ok.inj ended).symm, rfl⟩
    · exact nomatch ended
  | succ allowed ih =>
    rw [outcome_iterate_succ] at ended
    rw [reachedByRounds]
    rcases holds : condition.holds session.store with error | (_ | _) <;> rw [holds] at ended
    · exact nomatch ended
    · exact ⟨0, (Except.ok.inj ended).symm, rfl⟩
    · simp only at ended ⊢
      rcases ran : outcome (executeAll settings body) session with ⟨halt | ⟨⟩, after⟩
      · rw [ran] at ended
        exact nomatch ended
      · -- The first iteration is complete, and the others are those of a loop that ends.
        rw [ran, follow_ok] at ended
        obtain ⟨rounds, same, others⟩ := ih ended
        refine ⟨rounds + 1, by omega, ?_⟩
        rw [reached_of_ended settings (congrArg Prod.fst ran), List.replicate_succ,
          List.flatten_cons, ← others]

/-- A loop that ends after some iterations has reached its whole body in each of them. -/
theorem reachedByLoop_of_ended {fuel count : Nat} {condition : String} {body : List Command}
    {session : Session κ}
    (ended : (outcome (runLoop settings fuel condition body) session).1 = .ok count) :
    reachedByLoop settings fuel condition body session = (List.replicate count body).flatten := by
  rw [outcome_runLoop] at ended
  delta reachedByLoop
  -- A loop whose condition cannot be read does not end.
  cases read : Condition.parse condition with
  | error malformed =>
    rw [read] at ended
    exact nomatch ended
  | ok parsed =>
    rw [read] at ended
    obtain ⟨rounds, same, whole⟩ := reachedByRounds_of_ended settings ended
    rw [Nat.zero_add] at same
    rw [same]
    exact whole

end Action

/--
One of two runs of a session has advisory lines, and the other one is without them.

The runs only differ in the notices. The first gives those of the commands that it reaches, in order
and each time that it reaches them, and the second gives none.
-/
structure Session.Advises {α : Type} (session : Session κ) (full kept : Except Halt α × Session κ)
    (reached : List Command) : Prop where
  /-- The runs give the same value or stop for the same reason. -/
  ending : full.1 = kept.1
  /-- They leave the same canvas, variables and context. -/
  left : full.2.SameButNotices kept.2
  /-- The run with the lines adds the notices of the commands that it reaches. -/
  given : full.2.notices.toList = session.notices.toList ++ reached.filterMap Command.notice?
  /-- The run without them adds no notice. -/
  silent : kept.2.notices = session.notices

namespace Session

/--
Advisory lines change nothing but the notices, wherever they stand.

This goes for commands in order, for branches and for loops, from every session, with every limit
and with any fuel for a loop that has none. Commands that do not fail are all reached, and those of
a loop that ends are all reached in each of its iterations.
-/
theorem advisory_lines_give_notices_only (settings : Settings) (session : Session κ)
    (condition : String) (body : List Command) :
    session.Advises (outcome (executeAll settings body) session)
      (outcome (executeAll settings (Command.substance body)) session)
      (reached settings body session) ∧
    session.Advises (outcome (runBranch settings condition body) session)
      (outcome (runBranch settings condition (Command.substance body)) session)
      (reachedByBranch settings condition body session) ∧
    (∀ fuel, session.Advises (outcome (runLoop settings fuel condition body) session)
      (outcome (runLoop settings fuel condition (Command.substance body)) session)
      (reachedByLoop settings fuel condition body session)) ∧
    ((outcome (executeAll settings body) session).1 = .ok () →
      reached settings body session = body) ∧
    ∀ fuel count, (outcome (runLoop settings fuel condition body) session).1 = .ok count →
      reachedByLoop settings fuel condition body session = (List.replicate count body).flatten := by
  -- The bodies do the same, so the branches and the loops around them do.
  have bodies : Mirrors (Likeness.butNotices κ) _ _ := mirrors_substance settings body
  have start : session.SameButNotices session := ⟨rfl, rfl, rfl⟩
  have silent : ∀ request : Request, (∀ command, request.Brings command →
      command ∈ Command.substance body) → ∀ fuel,
      (outcome (request.action settings fuel) session).2.notices = session.notices :=
    fun request brought fuel => notices_of_silent settings
      (fun command member => Command.notice?_of_mem_substance (brought command member)) fuel session
  refine ⟨?_, ?_, fun fuel => ?_, reached_of_ended settings,
    fun _ _ => reachedByLoop_of_ended settings⟩
  · have same := bodies session session start
    exact ⟨same.ending, same.left, notices_executeAll settings body session,
      silent (.commands _) (fun _ member => member) 0⟩
  · have same := mirrors_runBranch _ condition bodies session session start
    exact ⟨same.ending, same.left, notices_runBranch settings condition body session,
      silent (.branch condition _) (fun _ member => member) 0⟩
  · have same := mirrors_runLoop _ fuel condition bodies session session start
    exact ⟨same.ending, same.left, notices_runLoop settings fuel condition body session,
      silent (.loop condition _) (fun _ member => member) fuel⟩

/-- A line with none of the known forms in a loop gives its notice once in each iteration. -/
theorem advisory_line_in_loop :
    let session : Session Recording :=
      { Session.start {} {} with store := { entries := [("x", .int 3)] } }
    let body : List Command := [.unrecognized "x - 1", .run, .compute "x" "x" .sub 1]
    reached {} body session = body ∧
    (outcome (runLoop {} 9 "x > 1" body) session).2.notices.toList =
      [.unrecognized "x - 1", .unrecognized "x - 1"] ∧
    (outcome (runLoop {} 9 "x > 1" (Command.substance body)) session).2.notices = #[] := by
  intro session body
  -- The body runs to its end, and the loop with it makes two rounds.
  have ended : (outcome (executeAll {} body) session).1 = .ok () := by decide +kernel
  have twice : (outcome (runLoop {} 9 "x > 1" body) session).1 = .ok 2 := by decide +kernel
  obtain ⟨-, -, looped, all, rounds⟩ := advisory_lines_give_notices_only {} session "x > 1" body
  refine ⟨all ended, ?_, (looped 9).silent⟩
  rw [(looped 9).given, rounds 9 2 twice]
  rfl

end Session

end Plotter
