import CreatureCards.Proofs.Harmless

/-!
# Elementary runs

Most runs look at the board, tell something, draw a number or break off, and do
nothing else.  They neither look at the seats that contexts have taken nor read
definitions, so they go the same way in any two sessions that agree in the rest,
and they never report or refuse a definition.
-/

namespace CreatureCards

theorem Engine.require_of_some {α : Type} {part : Option α} {value : α} (found : part = some value)
    (board : Board) (session : Session) :
    Engine.require part board session = (.ok value, session) := by
  rw [found]
  rfl

theorem Engine.run_drawn (drawn : Except Failure (Int × RandomSource)) (board : Board)
    (session : Session) :
    (match drawn with
      | .ok (number, random) => do
        modify fun session => { session with random }
        return number
      | .error failure => MonadExcept.throw failure : Engine Int) board session =
    match drawn with
      | .ok (number, random) => (.ok number, { session with random })
      | .error failure => (.error failure, session) := by
  cases drawn <;> rfl

theorem Engine.draw_eq (size : Int) (board : Board) (session : Session) :
    Engine.draw size board session = match session.random.draw size with
      | .ok (number, random) => (.ok number, { session with random })
      | .error failure => (.error failure, session) :=
  run_drawn (session.random.draw size) board session

/-- The sessions differ in nothing but the seats that contexts have taken. -/
structure Session.SameRecords (first second : Session) : Prop where
  log : first.log = second.log
  warnings : first.warnings = second.warnings
  random : first.random = second.random

namespace Session.SameRecords

theorem refl (session : Session) : session.SameRecords session :=
  ⟨rfl, rfl, rfl⟩

theorem symm {first second : Session} (same : first.SameRecords second) :
    second.SameRecords first :=
  ⟨same.log.symm, same.warnings.symm, same.random.symm⟩

theorem trans {first second third : Session} (one : first.SameRecords second)
    (next : second.SameRecords third) : first.SameRecords third :=
  ⟨one.log.trans next.log, one.warnings.trans next.warnings, one.random.trans next.random⟩

end Session.SameRecords

/-- The run is made of a few steps that read no definition, and whatever it comes
to is good. -/
inductive Elementary : {α : Type} → (good : α → Prop) → Engine α → Prop
  | pure {α : Type} {good : α → Prop} {value : α} (isGood : good value) :
      Elementary good (Pure.pure value)
  | throw {α : Type} {good : α → Prop} {failure : Failure}
      (isOther : ¬ failure.RefusesDefinition) : Elementary good (MonadExcept.throw failure)
  | bind {α β : Type} {good : α → Prop} {goodNext : β → Prop} {running : Engine α}
      {next : α → Engine β} (first : Elementary good running)
      (each : ∀ value, good value → Elementary goodNext (next value)) :
      Elementary goodNext (running >>= next)
  | board {good : Board → Prop} (each : ∀ board, good board) : Elementary good Engine.board
  | announce {good : Unit → Prop} (message : String) (isGood : good ()) :
      Elementary good (Engine.announce message)
  | warn {good : Unit → Prop} {warning : Warning} (isOther : ¬ warning.ReportsDefinition)
      (isGood : good ()) : Elementary good (Engine.warn warning)
  | draw {good : Int → Prop} (bound : Int) (each : ∀ number, good number) :
      Elementary good (Engine.draw bound)

namespace Elementary

variable {α β : Type} {good : α → Prop}

/-- Elementary runs are harmless on every board. -/
theorem harmless {running : Engine α} (elementary : Elementary good running) :
    Harmless (fun _ => True) good running := by
  induction elementary with
  | pure isGood => exact .pure isGood
  | throw isOther => exact .throw fun blames => isOther blames.refusesDefinition
  | bind first each ihFirst ihEach => exact ihFirst.bind ihEach
  | board each => exact Harmless.board.weaken fun board _ => each board
  | announce message isGood => exact (Harmless.announce message).weaken fun _ _ => isGood
  | warn isOther isGood =>
      exact (Harmless.warn fun blames => isOther blames.reportsDefinition).weaken fun _ _ => isGood
  | draw bound each => exact (Harmless.draw bound).weaken fun number _ => each number

theorem weaken {wider : α → Prop} {running : Engine α} (elementary : Elementary good running)
    (each : ∀ value, good value → wider value) : Elementary wider running := by
  induction elementary with
  | pure isGood => exact .pure (each _ isGood)
  | throw isOther => exact .throw isOther
  | bind first later _ ih => exact first.bind fun value isGood => ih value isGood each
  | board isGood => exact .board fun board => each board (isGood board)
  | announce message isGood => exact .announce message (each _ isGood)
  | warn isOther isGood => exact .warn isOther (each _ isGood)
  | draw bound isGood => exact .draw bound fun number => each number (isGood number)

/-- What is read off the board may be anything. -/
theorem reading {next : Board → Engine α} (each : ∀ board, Elementary good (next board)) :
    Elementary good (Engine.board >>= next) :=
  have looking : Elementary (fun _ => True) Engine.board := .board fun _ => trivial
  looking.bind fun board _ => each board

/-- A message is told, and then something else happens. -/
theorem telling {message : String} {next : Unit → Engine α} (later : Elementary good (next ())) :
    Elementary good (Engine.announce message >>= next) :=
  have told : Elementary (fun _ => True) (Engine.announce message) := .announce message trivial
  told.bind fun _ _ => later

theorem warning {warning : Warning} {next : Unit → Engine α}
    (isOther : ¬ warning.ReportsDefinition) (later : Elementary good (next ())) :
    Elementary good (Engine.warn warning >>= next) :=
  have warned : Elementary (fun _ => True) (Engine.warn warning) := .warn isOther trivial
  warned.bind fun _ _ => later

/-- A number is drawn, and then something else happens. -/
theorem drawing {bound : Int} {next : Int → Engine α}
    (each : ∀ number, Elementary good (next number)) :
    Elementary good (Engine.draw bound >>= next) :=
  have drawn : Elementary (fun _ => True) (Engine.draw bound) := .draw bound fun _ => trivial
  drawn.bind fun number _ => each number

theorem ite {condition : Prop} [Decidable condition] {running otherwise : Engine α}
    (whenTrue : condition → Elementary good running)
    (whenFalse : ¬ condition → Elementary good otherwise) :
    Elementary good (if condition then running else otherwise) := by
  split
  · exact whenTrue ‹_›
  · exact whenFalse ‹_›

theorem orFail {made : Except Failure α} (never : NeverRefuses made) :
    Elementary (fun value => made = .ok value) (Engine.orFail made) := by
  cases made with
  | error failure => exact .throw (never failure rfl)
  | ok value => exact .pure rfl

theorem require (found : Option α) :
    Elementary (fun value => found = some value) (Engine.require found) := by
  cases found with
  | none => exact .throw id
  | some value => exact .pure rfl

theorem forM {entries : List α} {run : α → Engine Unit}
    (each : ∀ entry ∈ entries, Elementary (fun _ => True) (run entry)) :
    Elementary (fun _ => True) (entries.forM run) := by
  induction entries with
  | nil => exact .pure trivial
  | cons entry rest ih =>
      obtain ⟨here, later⟩ := List.forall_mem_cons.1 each
      change Elementary _ (run entry >>= fun _ => rest.forM run)
      exact here.bind fun _ _ => ih later

end Elementary

end CreatureCards
