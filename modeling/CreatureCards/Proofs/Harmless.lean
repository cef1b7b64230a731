import CreatureCards.Proofs.ShapeFault
import CreatureCards.Question

/-!
# Harmless runs

Reports and failures that are about a definition come from reading definitions
alone: an effect that was bound may fail in other ways, and may report names that
stand for nothing, but it never reports or refuses a definition.  Some of them
blame the definition for what it is, and not for its parameters.

A run is harmless if it blames no definition, and if whatever it comes to is as it
should be.  Being harmless is closed under everything that runs are built from.
-/

namespace CreatureCards

/-- The report blames a definition: it names no known effect type, or is neither
an object nor a list. -/
def Warning.BlamesDefinition : Warning → Prop
  | .unknownEffect _ => True
  | .malformed (.notDefinition _) => True
  | _ => False

/-- The failure blames a definition in the same way, under strict settings. -/
def Failure.BlamesDefinition : Failure → Prop
  | .unknownEffect _ => True
  | .invalidDefinition errors => ∃ kind, errors = [(Malformation.notDefinition kind).text]
  | _ => False

theorem Failure.IsShapeFault.not_blamesDefinition {failure : Failure}
    (fault : failure.IsShapeFault) : ¬ failure.BlamesDefinition := by
  intro blames
  cases failure <;> first | exact fault | exact blames

/-- Computations that blame no definition when they fail. -/
abbrev FailsBlameless {α : Type} (made : Except Failure α) : Prop :=
  FailsOnly (fun failure => ¬ failure.BlamesDefinition) made

/-- The report is about a definition that cannot be used. -/
def Warning.ReportsDefinition : Warning → Prop
  | .unknownEffect _ | .malformed _ => True
  | _ => False

/-- The failure refuses a definition that cannot be used, as strict settings do. -/
def Failure.RefusesDefinition : Failure → Prop
  | .unknownEffect _ | .invalidDefinition _ => True
  | _ => False

theorem Warning.BlamesDefinition.reportsDefinition {warning : Warning}
    (blames : warning.BlamesDefinition) : warning.ReportsDefinition := by
  unfold BlamesDefinition at blames
  split at blames
  · trivial
  · trivial
  · exact blames.elim

theorem Failure.BlamesDefinition.refusesDefinition {failure : Failure}
    (blames : failure.BlamesDefinition) : failure.RefusesDefinition := by
  unfold BlamesDefinition at blames
  split at blames
  · trivial
  · trivial
  · exact blames.elim

theorem Failure.IsShapeFault.not_refusesDefinition {failure : Failure}
    (fault : failure.IsShapeFault) : ¬ failure.RefusesDefinition := by
  intro refuses
  cases failure <;> first | exact fault | exact refuses

/-- Computations that refuse no definition when they fail. -/
abbrev NeverRefuses {α : Type} (made : Except Failure α) : Prop :=
  FailsOnly (fun failure => ¬ failure.RefusesDefinition) made

theorem NeverRefuses.blameless {α : Type} {made : Except Failure α} (never : NeverRefuses made) :
    FailsBlameless made :=
  never.weaken fun _ isOther blames => isOther blames.refusesDefinition

/-- What was reported since blames no definition. -/
def Session.Blameless (before after : Session) : Prop :=
  ∃ reports, after.warnings = before.warnings ++ reports ∧
    ∀ warning ∈ reports, ¬ warning.BlamesDefinition

namespace Session.Blameless

theorem of_eq {before after : Session} (same : after.warnings = before.warnings) :
    before.Blameless after :=
  ⟨[], by simpa using same, by simp⟩

theorem refl (session : Session) : session.Blameless session :=
  .of_eq rfl

theorem trans {first second third : Session} (one : first.Blameless second)
    (other : second.Blameless third) : first.Blameless third := by
  obtain ⟨reports, reported, blameless⟩ := one
  obtain ⟨further, reportedFurther, blamelessFurther⟩ := other
  refine ⟨reports ++ further, by rw [reportedFurther, reported, List.append_assoc], ?_⟩
  intro warning member
  cases List.mem_append.1 member with
  | inl earlier => exact blameless warning earlier
  | inr later => exact blamelessFurther warning later

theorem warn {session : Session} {warning : Warning} (blameless : ¬ warning.BlamesDefinition) :
    session.Blameless (session.warn warning) := by
  refine ⟨[warning], rfl, ?_⟩
  intro other member
  exact List.mem_singleton.1 member ▸ blameless

end Session.Blameless

variable {α β : Type}

/-- The run left a session without blame, and it came to something good or failed
without blame. -/
inductive Passes (good : α → Prop) (before : Session) : Except Failure α × Session → Prop
  | ok {value : α} {after : Session} (blameless : before.Blameless after) (isGood : good value) :
      Passes good before (.ok value, after)
  | failed {failure : Failure} {after : Session} (blameless : before.Blameless after)
      (unblamed : ¬ failure.BlamesDefinition) : Passes good before (.error failure, after)

/-- On admitted boards the run blames no definition, and whatever it comes to is
good. -/
def Harmless (admits : Board → Prop) (good : α → Prop) (running : Engine α) : Prop :=
  ∀ board, admits board → ∀ session, Passes good session (running board session)

namespace Harmless

variable {admits : Board → Prop} {good : α → Prop} {goodNext : β → Prop}

theorem pure {value : α} (isGood : good value) :
    Harmless admits good (Pure.pure value : Engine α) :=
  fun _ _ session => .ok (.refl session) isGood

theorem throw {failure : Failure} (unblamed : ¬ failure.BlamesDefinition) :
    Harmless admits good (throw failure : Engine α) :=
  fun _ _ session => .failed (.refl session) unblamed

theorem bind {running : Engine α} {next : α → Engine β} (first : Harmless admits good running)
    (each : ∀ value, good value → Harmless admits goodNext (next value)) :
    Harmless admits goodNext (running >>= next) := by
  intro board admitted session
  have passes := first board admitted session
  rw [Engine.bind_apply]
  generalize running board session = ran at passes ⊢
  cases passes with
  | failed blameless unblamed => exact .failed blameless unblamed
  | @ok value after blameless isGood =>
      have passesOn := each value isGood board admitted after
      change Passes goodNext session (next value board after)
      generalize next value board after = ranOn at passesOn ⊢
      cases passesOn with
      | failed later unblamed => exact .failed (blameless.trans later) unblamed
      | ok later isGoodNext => exact .ok (blameless.trans later) isGoodNext

theorem weaken {wider : α → Prop} {running : Engine α} (harmless : Harmless admits good running)
    (each : ∀ value, good value → wider value) : Harmless admits wider running := by
  intro board admitted session
  have passes := harmless board admitted session
  generalize running board session = ran at passes ⊢
  cases passes with
  | failed blameless unblamed => exact .failed blameless unblamed
  | ok blameless isGood => exact .ok blameless (each _ isGood)

theorem ite {condition : Prop} [Decidable condition] {running otherwise : Engine α}
    (whenTrue : condition → Harmless admits good running)
    (whenFalse : ¬ condition → Harmless admits good otherwise) :
    Harmless admits good (if condition then running else otherwise) := by
  split
  · exact whenTrue ‹_›
  · exact whenFalse ‹_›

theorem board : Harmless admits admits Engine.board :=
  fun _ admitted session => .ok (.refl session) admitted

/-- What is read off the board may be anything. -/
theorem reading {next : Board → Engine α}
    (each : ∀ board, Harmless admits good (next board)) :
    Harmless admits good (Engine.board >>= next) :=
  board.bind fun board _ => each board

theorem announce (message : String) :
    Harmless admits (fun _ => True) (Engine.announce message) :=
  fun _ _ _ => .ok (.of_eq rfl) trivial

/-- A message is told, and then something else happens. -/
theorem telling {message : String} {next : Unit → Engine α}
    (later : Harmless admits good (next ())) :
    Harmless admits good (Engine.announce message >>= next) :=
  (announce message).bind fun _ _ => later

theorem warn {warning : Warning} (blameless : ¬ warning.BlamesDefinition) :
    Harmless admits (fun _ => True) (Engine.warn warning) :=
  fun _ _ _ => .ok (.warn blameless) trivial

theorem orFail {made : Except Failure α}
    (fails : FailsBlameless made) :
    Harmless admits (fun value => made = .ok value) (Engine.orFail made) := by
  cases made with
  | error failure => exact .throw (fails failure rfl)
  | ok value => exact .pure rfl

theorem require (found : Option α) :
    Harmless admits (fun value => found = some value) (Engine.require found) := by
  cases found with
  | none => exact .throw id
  | some value => exact .pure rfl

theorem settings (context : Context) : Harmless admits (fun _ => True) context.settings :=
  fun _ _ session => .ok (.refl session) trivial

theorem derived (context : Context) : Harmless admits (fun _ => True) context.derived :=
  fun _ _ session => .ok (.refl session) trivial

/-- A seat is taken unless it was before. -/
theorem passes_occupying (context : Context) (settings : Settings) (seat : Nat)
    (taken : Option Settings) {board : Board} (session : Session) :
    Passes (fun _ => True) session
      ((match taken with
        | some _ => Pure.pure context
        | none => do
          modify fun session => session.occupy seat settings
          return context : Engine Context) board session) := by
  cases taken with
  | some _ => exact .ok (.refl session) trivial
  | none => exact .ok (.of_eq rfl) trivial

theorem adopt (context : Context) (settings : Settings) :
    Harmless admits (fun _ => True) (context.adopt settings) := by
  unfold Context.adopt
  split
  · exact .pure trivial
  · exact .pure trivial
  · exact fun board admitted session => passes_occupying context settings _ _ session

theorem unrefused_draw (random : RandomSource) (bound : Int) :
    NeverRefuses (random.draw bound) := by
  unfold RandomSource.draw
  split
  · split
    · exact .ite (.error id) (.ok _)
    · exact .error id
  · exact .ite (.error id) (.ok _)

/-- A number that was drawn leaves its source behind. -/
theorem passes_drawn (drawn : Except Failure (Int × RandomSource)) (board : Board)
    (session : Session) :
    FailsBlameless drawn → Passes (fun _ => True) session
      ((match drawn with
        | .ok (number, random) => do
          modify fun session => { session with random }
          return number
        | .error failure => MonadExcept.throw failure : Engine Int) board session) := by
  intro fails
  cases drawn with
  | ok _ => exact .ok (.of_eq rfl) trivial
  | error failure => exact .failed (.refl session) (fails failure rfl)

theorem draw (bound : Int) : Harmless admits (fun _ => True) (Engine.draw bound) :=
  fun board _ session => passes_drawn _ board session
    (unrefused_draw session.random bound).blameless

theorem mapM {entries : List α} {run : α → Engine β}
    (each : ∀ entry ∈ entries, Harmless admits goodNext (run entry)) :
    Harmless admits (fun results => ∀ result ∈ results, goodNext result) (entries.mapM run) := by
  induction entries with
  | nil => exact .pure (by simp)
  | cons entry rest ih =>
      obtain ⟨here, later⟩ := List.forall_mem_cons.1 each
      rw [List.mapM_cons]
      refine here.bind fun result isGood => (ih later).bind fun results areGood => .pure ?_
      exact List.forall_mem_cons.2 ⟨isGood, areGood⟩

theorem forM {entries : List α} {run : α → Engine Unit}
    (each : ∀ entry ∈ entries, Harmless admits (fun _ => True) (run entry)) :
    Harmless admits (fun _ => True) (entries.forM run) := by
  induction entries with
  | nil => exact .pure trivial
  | cons entry rest ih =>
      obtain ⟨here, later⟩ := List.forall_mem_cons.1 each
      change Harmless admits _ (run entry >>= fun _ => rest.forM run)
      exact here.bind fun _ _ => ih later

theorem of_ok {running : Engine α} (blameless : Harmless admits (fun _ => True) running)
    (follow : ∀ board, admits board → ∀ session value after,
      running board session = (.ok value, after) → good value) : Harmless admits good running := by
  intro board admitted session
  have passes := blameless board admitted session
  have follows := follow board admitted session
  generalize running board session = ran at passes follows
  cases passes with
  | failed blameless unblamed => exact .failed blameless unblamed
  | ok blameless _ => exact .ok blameless (follows _ _ rfl)

theorem good_of_ok {running : Engine α} (harmless : Harmless admits good running) {board : Board}
    (admitted : admits board) {session after : Session} {value : α}
    (ran : running board session = (.ok value, after)) : good value := by
  have passes := harmless board admitted session
  rw [ran] at passes
  cases passes with
  | ok _ isGood => exact isGood

end Harmless

end CreatureCards
