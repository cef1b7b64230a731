import CreatureCards.Outcome
import Mathlib

/-!
# Plays

A play is what a player sees of a walk, laid out as a tree: something is
applied, and then the play is over, breaks off, or asks a question and goes on
with what follows the answer.  Nothing in it tells how the walk keeps its
questions in store, so plays say what a walk has to do.

What is applied is an element of a monoid.  The free monoid keeps all results in
order; a commutative one only counts what they say.
-/

namespace CreatureCards

/-- The moment in which a question is answered. -/
structure Moment where
  choice : Choice
  board : Board
  session : Session

instance : Inhabited Moment where
  default :=
    { choice := .number 0
      board := { card := fun _ => default, players := [] }
      session := { random := .scripted [] 0 } }

/-- A tree of applied parts and questions.  After a question stand the session
that the answer leaves and the rest of the play. -/
inductive Play (α : Type) where
  | finished (applied : α)
  | broken (applied : α) (failure : Failure)
  | asks (applied : α) (inquiry : Inquiry) (after : Moment → Session)
      (follow : Moment → Play α)

/-- Where a walk stands. -/
inductive Standing where
  | finished
  | broken (failure : Failure)
  | asks (inquiry : Inquiry)

def Standing.title? : Standing → Option String
  | asks inquiry => some inquiry.title
  | _ => none

/-- What is seen of a walk between two answers: the session that the earlier
answer left, what was applied since, and where the walk stands. -/
structure Stage (α : Type) where
  session : Session
  applied : α
  standing : Standing

def Stage.map {α β : Type} (view : α → β) (stage : Stage α) : Stage β where
  session := stage.session
  applied := view stage.applied
  standing := stage.standing

namespace Play

variable {α β : Type}

/-- The play that applies nothing and asks nothing. -/
def skip [Zero α] : Play α := finished 0

/-- The play that applies something more before everything else. -/
def bring [Add α] (ahead : α) : Play α → Play α
  | finished applied => finished (ahead + applied)
  | broken applied failure => broken (ahead + applied) failure
  | asks applied inquiry after follow => asks (ahead + applied) inquiry after follow

/-- One play and, when it is over, another one. -/
def andThen [Add α] : Play α → Play α → Play α
  | finished applied, next => next.bring applied
  | broken applied failure, _ => broken applied failure
  | asks applied inquiry after follow, next =>
    asks applied inquiry after fun moment => (follow moment).andThen next

/-- Several plays one after the other. -/
def inTurn [AddMonoid α] (plays : List (Play α)) : Play α :=
  plays.foldr andThen skip

def map (view : α → β) : Play α → Play β
  | finished applied => finished (view applied)
  | broken applied failure => broken (view applied) failure
  | asks applied inquiry after follow =>
    asks (view applied) inquiry after fun moment => (follow moment).map view

/-- What is seen of a play when its questions are answered in these moments. -/
def stages (session : Session) : Play α → List Moment → List (Stage α)
  | finished applied, _ => [⟨session, applied, .finished⟩]
  | broken applied failure, _ => [⟨session, applied, .broken failure⟩]
  | asks applied inquiry _ _, [] => [⟨session, applied, .asks inquiry⟩]
  | asks applied inquiry after follow, moment :: moments =>
    ⟨session, applied, .asks inquiry⟩ ::
      (follow moment).stages (after moment) moments

/-- A map of what is applied changes nothing else of what is seen. -/
theorem stages_map (view : α → β) (play : Play α) (session : Session)
    (moments : List Moment) :
    (play.map view).stages session moments =
      (play.stages session moments).map (Stage.map view) := by
  induction play generalizing session moments with
  | finished applied => simp [map, stages, Stage.map]
  | broken applied failure => simp [map, stages, Stage.map]
  | asks applied inquiry after follow ih =>
      cases moments with
      | nil => simp [map, stages, Stage.map]
      | cons moment moments => simp [map, stages, Stage.map, ih]

section Laws

variable [AddMonoid α]

@[simp]
theorem bring_zero (play : Play α) : play.bring 0 = play := by
  cases play <;> simp [bring]

@[simp]
theorem bring_bring (first second : α) (play : Play α) :
    (play.bring second).bring first = play.bring (first + second) := by
  cases play <;> simp [bring, add_assoc]

@[simp]
theorem skip_andThen (play : Play α) : skip.andThen play = play := by
  simp [skip, andThen]

theorem bring_andThen (ahead : α) (play next : Play α) :
    (play.bring ahead).andThen next = (play.andThen next).bring ahead := by
  cases play with
  | finished applied =>
      change next.bring (ahead + applied) = (next.bring applied).bring ahead
      rw [bring_bring]
  | broken applied failure => rfl
  | asks applied inquiry after follow => rfl

@[simp]
theorem andThen_skip (play : Play α) : play.andThen skip = play := by
  induction play with
  | finished applied => simp [skip, andThen, bring]
  | broken applied failure => rfl
  | asks applied inquiry after follow ih => simp [andThen, ih]

theorem andThen_assoc (first second third : Play α) :
    (first.andThen second).andThen third = first.andThen (second.andThen third) := by
  induction first with
  | finished applied => simp [andThen, bring_andThen]
  | broken applied failure => rfl
  | asks applied inquiry after follow ih => simp [andThen, ih]

@[simp]
theorem inTurn_nil : inTurn ([] : List (Play α)) = skip :=
  rfl

@[simp]
theorem inTurn_cons (play : Play α) (plays : List (Play α)) :
    inTurn (play :: plays) = play.andThen (inTurn plays) :=
  rfl

@[simp]
theorem inTurn_append (first second : List (Play α)) :
    inTurn (first ++ second) = (inTurn first).andThen (inTurn second) := by
  induction first with
  | nil => simp
  | cons play plays ih => simp [ih, andThen_assoc]

end Laws

section Maps

variable [AddMonoid α] [AddMonoid β]

@[simp]
theorem map_skip (view : α →+ β) : skip.map view = skip := by
  simp [skip, map]

theorem map_bring (view : α →+ β) (ahead : α) (play : Play α) :
    (play.bring ahead).map view = (play.map view).bring (view ahead) := by
  cases play <;> simp [bring, map]

theorem map_andThen (view : α →+ β) (first second : Play α) :
    (first.andThen second).map view = (first.map view).andThen (second.map view) := by
  induction first with
  | finished applied => simp [andThen, map, map_bring]
  | broken applied failure => rfl
  | asks applied inquiry after follow ih => simp [andThen, map, ih]

end Maps

section Scripts

/-- What a play asks, whatever it applies. -/
def script (play : Play α) : Play Unit :=
  play.map fun _ => ()

theorem bring_unit (ahead : Unit) (play : Play Unit) : play.bring ahead = play := by
  cases play <;> rfl

theorem script_map (view : α → β) (play : Play α) : (play.map view).script = play.script := by
  induction play with
  | finished applied => rfl
  | broken applied failure => rfl
  | asks applied inquiry after follow ih => exact congrArg _ (funext ih)

variable [AddMonoid α]

@[simp]
theorem script_skip : (skip : Play α).script = skip :=
  rfl

@[simp]
theorem script_bring (ahead : α) (play : Play α) : (play.bring ahead).script = play.script := by
  cases play <;> rfl

@[simp]
theorem script_andThen (first second : Play α) :
    (first.andThen second).script = first.script.andThen second.script := by
  induction first with
  | finished applied =>
      rw [andThen, script_bring]
      exact (bring_unit () second.script).symm
  | broken applied failure => rfl
  | asks applied inquiry after follow ih => exact congrArg _ (funext ih)

@[simp]
theorem script_inTurn (plays : List (Play α)) :
    (inTurn plays).script = inTurn (plays.map script) := by
  induction plays with
  | nil => rfl
  | cons play plays ih => rw [inTurn_cons, script_andThen, ih, List.map_cons, inTurn_cons]

end Scripts

end Play

end CreatureCards
