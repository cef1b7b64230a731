import CreatureCards.Proofs.Quiet
import Mathlib.Data.List.Forall2

/-!
# Conduct

A conduct says on which boards and in which contexts something runs, what it may
ask, what it may do to the session, in which manner it runs, and how it may break off.
Quiet runs keep to every conduct, since a conduct leaves them what they do: messages,
reports, and seats that are taken for the first time.  Whatever is asked is a real
choice, and nothing but an endless chain of reactions may be ruled out as a failure.
-/

namespace CreatureCards

/-- There is something to choose: at least two candidates if they are known in
advance, and at least two options. -/
def Inquiry.IsChoice : Inquiry → Prop
  | .pick asked => ∀ candidates, asked.source = .listed candidates → 2 ≤ candidates.length
  | .menu asked => 2 ≤ asked.entries.length

/-- A manner of running, whatever a run comes to.  Quiet runs run in every manner, so do
runs that break off or take a seat, and runs one after the other where each of them does. -/
structure Manner where
  does : {α : Type} → Board → Engine α → Session → Prop
  quietly : ∀ {α : Type} {running : Engine α} board session, Quiet running →
    does board running session
  throws : ∀ {α : Type} failure board session, does board (throw failure : Engine α) session
  derives : ∀ (context : Context) board session, does board context.derived session
  adopts : ∀ (context : Context) settings board session, does board (context.adopt settings) session
  next : ∀ {α β : Type} {running : Engine α} {next : α → Engine β} {board session},
    does board running session →
      (∀ value after, running board session = (.ok value, after) → does board (next value) after) →
        does board (running >>= next) session
  rescue : ∀ {α : Type} {running : Engine α} {handle : Failure → Engine α} {board session},
    does board running session →
      (∀ failure after, running board session = (.error failure, after) →
        does board (handle failure) after) →
        does board (tryCatch running handle) session

/-- Anything may be done. -/
def Manner.any : Manner where
  does _ _ _ := True
  quietly _ _ _ := trivial
  throws _ _ _ := trivial
  derives _ _ _ := trivial
  adopts _ _ _ _ := trivial
  next _ _ := trivial
  rescue _ _ := trivial

/-- What runs may ask and do. -/
structure Conduct where
  /-- The boards on which something runs. -/
  admits : Board → Prop
  /-- The contexts in which effects act. -/
  acts : Context → Prop
  asks : Inquiry → Prop
  /-- What may become of a session. -/
  leaves : Session → Session → Prop
  fails : Failure → Prop
  manner : Manner := .any
  /-- Contexts are passed on for another creature, with another target or resolver. -/
  passed : ∀ {context : Context} creature target resolver, acts context →
    acts { context with creature, target, resolver }
  refl : ∀ session, leaves session session
  trans : ∀ {first second third}, leaves first second → leaves second third → leaves first third
  announced : ∀ session message, leaves session (session.announce message)
  warned : ∀ session warning, leaves session (session.warn warning)
  seated : ∀ {session seat} settings, session.seated seat = none →
    leaves session (session.occupy seat settings)
  chosen : ∀ {inquiry : Inquiry}, inquiry.IsChoice → asks inquiry
  fails_other : ∀ {failure}, failure ≠ .endlessReaction → fails failure

namespace Conduct

variable {conduct : Conduct} {α β : Type}

/-- The run left the session as it may, and came to something good or broke off as
it may. -/
inductive Passes (conduct : Conduct) (good : α → Prop) (before : Session) :
    Except Failure α × Session → Prop
  | ok {value : α} {after : Session} (left : conduct.leaves before after) (isGood : good value) :
      Passes conduct good before (.ok value, after)
  | failed {failure : Failure} {after : Session} (left : conduct.leaves before after)
      (breaks : conduct.fails failure) : Passes conduct good before (.error failure, after)

/-- On admitted boards the run keeps to the conduct, and whatever it comes to is
good. -/
structure Keeps (conduct : Conduct) (good : α → Prop) (running : Engine α) : Prop where
  passes : ∀ board, conduct.admits board → ∀ session,
    conduct.Passes good session (running board session)
  does : ∀ board, conduct.admits board → ∀ session, conduct.manner.does board running session

theorem Passes.weaken {good wider : α → Prop} {before : Session} {ran : Except Failure α × Session}
    (passes : conduct.Passes good before ran) (each : ∀ value, good value → wider value) :
    conduct.Passes wider before ran := by
  cases passes with
  | ok left isGood => exact .ok left (each _ isGood)
  | failed left breaks => exact .failed left breaks

/-- The same passes under a conduct that leaves as much to be done. -/
theorem Passes.imp {other : Conduct} {good : α → Prop} {before : Session}
    {ran : Except Failure α × Session} (passes : conduct.Passes good before ran)
    (leaves : ∀ {after}, conduct.leaves before after → other.leaves before after)
    (fails : ∀ {failure}, conduct.fails failure → other.fails failure) :
    other.Passes good before ran := by
  cases passes with
  | ok left isGood => exact .ok (leaves left) isGood
  | failed left breaks => exact .failed (leaves left) (fails breaks)

/-- What may be done after something that was done as it may, may be done. -/
theorem Passes.after {good : α → Prop} {before middle : Session}
    {ran : Except Failure α × Session} (left : conduct.leaves before middle)
    (passes : conduct.Passes good middle ran) : conduct.Passes good before ran := by
  cases passes with
  | ok later isGood => exact .ok (conduct.trans left later) isGood
  | failed later breaks => exact .failed (conduct.trans left later) breaks

theorem Passes.followed {good : α → Prop} {goodNext : β → Prop} {before : Session}
    {ran : Except Failure α × Session} {next : α → Session → Except Failure β × Session}
    (passes : conduct.Passes good before ran)
    (each : ∀ value after, good value → conduct.Passes goodNext after (next value after)) :
    conduct.Passes goodNext before (Engine.followed ran next) := by
  cases passes with
  | ok left isGood => exact (each _ _ isGood).after left
  | failed left breaks => exact .failed left breaks

theorem Passes.rescued {good : α → Prop} {before : Session} {ran : Except Failure α × Session}
    {handle : Failure → Session → Except Failure α × Session}
    (passes : conduct.Passes good before ran)
    (each : ∀ failure after, conduct.Passes good after (handle failure after)) :
    conduct.Passes good before (Engine.rescued ran handle) := by
  cases passes with
  | ok left isGood => exact .ok left isGood
  | failed left breaks => exact (each _ _).after left

namespace Keeps

variable {good : α → Prop} {goodNext : β → Prop}

theorem pure {value : α} (isGood : good value) :
    conduct.Keeps good (Pure.pure value : Engine α) where
  passes _ _ session := .ok (conduct.refl session) isGood
  does board _ session := conduct.manner.quietly board session (.pure value)

theorem throw {failure : Failure} (breaks : conduct.fails failure) :
    conduct.Keeps good (throw failure : Engine α) where
  passes _ _ session := .failed (conduct.refl session) breaks
  does board _ session := conduct.manner.throws failure board session

theorem bind {running : Engine α} {next : α → Engine β} (first : conduct.Keeps good running)
    (each : ∀ value, good value → conduct.Keeps goodNext (next value)) :
    conduct.Keeps goodNext (running >>= next) where
  passes board admitted session := (first.passes board admitted session).followed
    fun value after isGood => (each value isGood).passes board admitted after
  does board admitted session := by
    have passes := first.passes board admitted session
    refine conduct.manner.next (first.does board admitted session) fun value after ran => ?_
    rw [ran] at passes
    cases passes with
    | ok _ isGood => exact (each value isGood).does board admitted after

/-- Whatever is tried, and done if it breaks off. -/
theorem rescue {running : Engine α} {handle : Failure → Engine α}
    (first : conduct.Keeps good running) (each : ∀ failure, conduct.Keeps good (handle failure)) :
    conduct.Keeps good (tryCatch running handle) where
  passes board admitted session := (first.passes board admitted session).rescued
    fun failure after => (each failure).passes board admitted after
  does board admitted session := conduct.manner.rescue (first.does board admitted session)
    fun failure after _ => (each failure).does board admitted after

theorem attempted {running : Engine α} (keeps : conduct.Keeps good running) :
    conduct.Keeps (fun made => ∀ value, made = .ok value → good value) running.attempt := by
  refine .rescue (keeps.bind fun value isGood => .pure ?_) fun failure => .pure nofun
  rintro _ ⟨⟩
  exact isGood

theorem weaken {wider : α → Prop} {running : Engine α} (keeps : conduct.Keeps good running)
    (each : ∀ value, good value → wider value) : conduct.Keeps wider running where
  passes board admitted session := (keeps.passes board admitted session).weaken each
  does := keeps.does

theorem ite {condition : Prop} [Decidable condition] {running otherwise : Engine α}
    (whenTrue : condition → conduct.Keeps good running)
    (whenFalse : ¬ condition → conduct.Keeps good otherwise) :
    conduct.Keeps good (if condition then running else otherwise) := by
  split
  · exact whenTrue ‹_›
  · exact whenFalse ‹_›

/-- Quiet runs keep to every conduct. -/
theorem of_quiet {running : Engine α} (quiet : Quiet running) :
    conduct.Keeps (fun _ => True) running where
  passes board admitted session := by
    induction quiet generalizing session with
    | pure value => exact .ok (conduct.refl session) trivial
    | throw isOther => exact .failed (conduct.refl session) (conduct.fails_other isOther)
    | bind first each ihFirst ihEach =>
        exact (ihFirst session).followed fun value after _ => ihEach value after
    | board => exact .ok (conduct.refl session) trivial
    | announce message => exact .ok (conduct.announced session message) trivial
    | warn warning => exact .ok (conduct.warned session warning) trivial
    | settings context => exact .ok (conduct.refl session) trivial
  does board _ session := conduct.manner.quietly board session quiet

/-- A quiet run, and then something else. -/
theorem quietly {running : Engine α} {next : α → Engine β} (quiet : Quiet running)
    (each : ∀ value, conduct.Keeps goodNext (next value)) :
    conduct.Keeps goodNext (running >>= next) :=
  (of_quiet quiet).bind fun value _ => each value

/-- What is read off the board may be anything. -/
theorem reading {next : Board → Engine α} (each : ∀ board, conduct.Keeps good (next board)) :
    conduct.Keeps good (Engine.board >>= next) :=
  quietly .board each

theorem telling {message : String} {next : Unit → Engine α}
    (later : conduct.Keeps good (next ())) :
    conduct.Keeps good (Engine.announce message >>= next) :=
  quietly (.announce message) fun _ => later

theorem orFail {made : Except Failure α} (fails : FailsOnly conduct.fails made) :
    conduct.Keeps (fun value => made = .ok value) (Engine.orFail made) := by
  cases made with
  | error failure => exact .throw (fails failure rfl)
  | ok value => exact .pure rfl

theorem derived {context : Context} (acting : conduct.acts context) :
    conduct.Keeps conduct.acts context.derived where
  passes _ _ session :=
    .ok (conduct.refl session) (conduct.passed context.creature context.target _ acting)
  does board _ session := conduct.manner.derives context board session

/-- A seat is taken unless it was before. -/
theorem passes_occupying {context : Context} (acting : conduct.acts context) (settings : Settings)
    {seat : Nat} (taken : Option Settings) {session : Session} (board : Board) :
    session.seated seat = taken → conduct.Passes conduct.acts session
      ((match taken with
        | some _ => Pure.pure context
        | none => do
          modify fun session => session.occupy seat settings
          return context : Engine Context) board session) := by
  intro found
  cases taken with
  | some _ => exact .ok (conduct.refl session) acting
  | none => exact .ok (conduct.seated settings found) acting

theorem adopt {context : Context} (acting : conduct.acts context) (settings : Settings) :
    conduct.Keeps conduct.acts (context.adopt settings) where
  passes board _ session := by
    unfold Context.adopt
    split
    · exact .ok (conduct.refl session) acting
    · exact .ok (conduct.refl session) (conduct.passed context.creature context.target _ acting)
    · exact passes_occupying acting settings _ board rfl
  does board _ session := conduct.manner.adopts context settings board session

/-- Several runs one after the other. -/
theorem mapM {goodFor : α → β → Prop} {entries : List α} {run : α → Engine β}
    (each : ∀ entry ∈ entries, conduct.Keeps (goodFor entry) (run entry)) :
    conduct.Keeps (fun results => List.Forall₂ goodFor entries results) (entries.mapM run) := by
  induction entries with
  | nil => exact .pure .nil
  | cons entry rest ih =>
      obtain ⟨here, later⟩ := List.forall_mem_cons.1 each
      rw [List.mapM_cons]
      exact here.bind fun result isGood => (ih later).bind fun results areGood =>
        .pure (.cons isGood areGood)

theorem of_ok {running : Engine α} (keeps : conduct.Keeps (fun _ => True) running)
    (follow : ∀ board, conduct.admits board → ∀ session value after,
      running board session = (.ok value, after) → good value) : conduct.Keeps good running where
  passes board admitted session := by
    have passes := keeps.passes board admitted session
    have follows := follow board admitted session
    generalize running board session = ran at passes follows
    cases passes with
    | failed left breaks => exact .failed left breaks
    | ok left _ => exact .ok left (follows _ _ rfl)
  does := keeps.does

theorem good_of_ok {running : Engine α} (keeps : conduct.Keeps good running) {board : Board}
    (admitted : conduct.admits board) {session after : Session} {value : α}
    (ran : running board session = (.ok value, after)) : good value := by
  have passes := keeps.passes board admitted session
  rw [ran] at passes
  cases passes with
  | ok _ isGood => exact isGood

theorem leaves {running : Engine α} (keeps : conduct.Keeps good running) {board : Board}
    (admitted : conduct.admits board) (session : Session) :
    conduct.leaves session (running board session).2 := by
  have passes := keeps.passes board admitted session
  generalize running board session = ran at passes ⊢
  cases passes with
  | ok left _ | failed left _ => exact left

theorem fails {running : Engine α} (keeps : conduct.Keeps good running) {board : Board}
    (admitted : conduct.admits board) {session : Session} {failure : Failure}
    (failed : (running board session).1 = .error failure) : conduct.fails failure := by
  have passes := keeps.passes board admitted session
  generalize running board session = ran at passes failed
  cases passes with
  | ok left isGood => cases failed
  | failed left breaks =>
      cases failed
      exact breaks

/-- A run that keeps to the conduct in whatever manner, and runs in the given one. -/
theorem in_manner {manner : Manner} {running : Engine α}
    (keeps : Conduct.Keeps { conduct with manner := .any } good running)
    (does : ∀ board, conduct.admits board → ∀ session, manner.does board running session) :
    Conduct.Keeps { conduct with manner } good running where
  passes board admitted session := (keeps.passes board admitted session).imp id id
  does := does

end Keeps

end Conduct

end CreatureCards
