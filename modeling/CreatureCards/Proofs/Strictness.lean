import CreatureCards.Proofs.AlikeResolution
import CreatureCards.Proofs.AlikeWalk
import CreatureCards.Proofs.BrokenAnswer

/-!
# Strict and lenient settings

A resolver with strict settings refuses the first definition that cannot be used,
and does until then what a lenient one does.  It breaks off exactly where the
lenient one makes its first report about a definition, and so does every walk
through what the two come to, answered in the same way.
-/

namespace CreatureCards

/-- The same settings, except that definitions that cannot be used are refused. -/
def Settings.strictly (settings : Settings) : Settings :=
  { settings with strict := true }

theorem Settings.matches_strictly {settings : Settings} (lenient : settings.strict = false) :
    settings.Matches true settings.strictly where
  strict := (Bool.or_true _).symm
  lenient := fun _ => lenient
  maxScaledDraw := rfl
  revealHandDuration := rfl

/-- As long as nothing was reported about a definition, the second run comes to the
same and leaves the same records.  It refuses a definition exactly if one was
reported. -/
structure AgreeUpToReport (before : Session) (run strictRun : Except Failure Outcome × Session) :
    Prop where
  same : ¬ before.Reported run.2 → ComesToSame run strictRun
  refuses_iff : (∃ failure, strictRun.1 = .error failure ∧ failure.RefusesDefinition) ↔
    before.Reported run.2

/-- Answered in the same way, the walks agree step by step up to the first report,
and they ask the same. -/
def Walk.AgreeAlong (walk strictWalk : Walk) (session strictSession : Session) :
    (answers : List (Choice × Board)) → Prop
  | [] => strictWalk.current.map Question.inquiry = walk.current.map Question.inquiry
  | (choice, board) :: later =>
    let answered := walk.submit choice board session
    let strictAnswered := strictWalk.submit choice board strictSession
    AgreeUpToReport session (answered.1.1, answered.2) (strictAnswered.1.1, strictAnswered.2) ∧
      (¬ session.Reported answered.2 →
        answered.1.2.AgreeAlong strictAnswered.1.2 answered.2 strictAnswered.2 later)

/-- Runs that resolved a definition agree up to the first report, and so do the
walks through what they came to. -/
structure AgreeThroughout (before : Session) (run strictRun : Except Failure Outcome × Session) :
    Prop where
  resolved : AgreeUpToReport before run strictRun
  walked : ¬ before.Reported run.2 → ∀ outcome walk, run.1 = .ok outcome →
    Walk.start outcome = .ok walk →
    ∃ strictOutcome strictWalk, strictRun.1 = .ok strictOutcome ∧
      Walk.start strictOutcome = .ok strictWalk ∧
      ∀ answers, walk.AgreeAlong strictWalk run.2 strictRun.2 answers

variable {pairing : Pairing} {before : Session}

theorem Pairing.Quiet.not_reported (parts : pairing.parts = true) {after : Session}
    (quiet : pairing.Quiet before after) : ¬ before.Reported after := by
  rintro ⟨reports, reported, warning, member, about⟩
  obtain ⟨others, same, isOther⟩ := quiet
  obtain rfl : reports = others := List.append_cancel_left (reported.symm.trans same)
  exact isOther parts warning member about

/-- Runs that came to the same without a report agree. -/
theorem AgreeUpToReport.of_quiet {result other : Except Failure Outcome}
    {after otherAfter : Session} (quiet : ¬ before.Reported after)
    (matched : Matched (Outcome.Alike pairing) result other) (never : NeverRefuses result)
    (records : after.SameRecords otherAfter) :
    AgreeUpToReport before (result, after) (other, otherAfter) where
  same := fun _ => ⟨matched.seen_eq, records⟩
  refuses_iff := by
    refine iff_of_false ?_ quiet
    rintro ⟨failure, failed, refuses⟩
    cases matched with
    | ok alike => cases failed
    | failed fault =>
        cases failed
        exact never failure rfl refuses

theorem AgreeUpToReport.of_reported {run : Except Failure Outcome × Session} {failure : Failure}
    {otherAfter : Session} (reported : before.Reported run.2)
    (refuses : failure.RefusesDefinition) :
    AgreeUpToReport before run (.error failure, otherAfter) where
  same := fun unreported => absurd reported unreported
  refuses_iff := iff_of_true ⟨failure, rfl, refuses⟩ reported

/-- Walks that have come equally far agree, whatever is answered. -/
theorem Walk.Alike.agreeAlong (parts : pairing.parts = true) {walk other : Walk}
    (alike : walk.Alike pairing other) {session counterpart : Session}
    (sessions : pairing.Sessions session counterpart) (answers : List (Choice × Board)) :
    walk.AgreeAlong other session counterpart answers := by
  induction answers generalizing walk other session counterpart with
  | nil =>
      obtain ⟨applied, queue, current⟩ := walk
      obtain ⟨appliedOther, queueOther, currentOther⟩ := other
      cases alike.current with
      | none => rfl
      | some same => exact congrArg some same.inquiry
  | cons answer later ih =>
      obtain ⟨choice, board⟩ := answer
      have answered := alike.submit choice board sessions
      unfold AgreeAlong
      generalize walk.submit choice board session = here at answered ⊢
      generalize other.submit choice board counterpart = there at answered ⊢
      cases answered with
      | same quiet after results isOther walks =>
          exact ⟨.of_quiet (quiet.not_reported parts) results (isOther parts) after.records,
            fun _ => ih walks after⟩
      | parted reported refuses =>
          exact ⟨.of_reported reported refuses, fun unreported => absurd reported unreported⟩

/-- What an accord of two runs says about their agreement. -/
theorem Accord.agreeThroughout (parts : pairing.parts = true)
    {run strictRun : Except Failure Outcome × Session}
    (accord : Accord pairing (Outcome.Alike pairing) before run strictRun) :
    AgreeThroughout before run strictRun := by
  cases accord with
  | @ok outcome strictOutcome after strictAfter quiet sessions alike =>
      refine ⟨.of_quiet (quiet.not_reported parts) (.ok alike) (.ok _) sessions.records, ?_⟩
      rintro - _ walk ⟨⟩ started
      have starts := Walk.alike_start alike
      rw [started] at starts
      generalize strictStarted : Walk.start strictOutcome = starting at starts
      cases starts with
      | ok walks =>
          exact ⟨_, _, rfl, strictStarted, fun answers => walks.agreeAlong parts sessions answers⟩
  | @failed failure after strictAfter quiet sessions isOther =>
      have failed : Matched (Outcome.Alike pairing) (.error failure) (.error failure) :=
        .failed failure
      refine ⟨.of_quiet (quiet.not_reported parts) failed (.error (isOther parts))
        sessions.records, ?_⟩
      rintro - _ _ ⟨⟩
  | parted _ reported sessions whole refuses =>
      exact ⟨.of_reported reported refuses, fun unreported => absurd reported unreported⟩

/-- Strict and lenient settings agree up to the first definition that cannot be used:
without a report the results, the log and the random numbers are the same, and the
strict resolver refuses a definition exactly if the lenient one reports one.  The same
holds along every walk, step by step. -/
theorem strict_settings_agree_up_to_the_first_report (definition : Value) {settings : Settings}
    (lenient : settings.strict = false) {context strictContext : Context}
    (same : strictContext = { context with resolver := strictContext.resolver })
    {session strictSession : Session} (records : session.SameRecords strictSession)
    (belongs : context.BelongsTo settings session)
    (strictBelongs : strictContext.BelongsTo settings.strictly strictSession) (board : Board) :
    AgreeThroughout session (resolve definition settings context board session)
      (resolve definition settings.strictly strictContext board strictSession) := by
  obtain ⟨after, adopted, held, kept⟩ := context.exists_adopted settings board session
  obtain ⟨strictAfter, strictAdopted, strictHeld, strictKept⟩ :=
    strictContext.exists_adopted settings.strictly board strictSession
  rw [belongs.getD_carried] at held
  rw [strictBelongs.getD_carried] at strictHeld
  let pairing : Pairing :=
    ⟨context.resolver.takenBy settings, strictContext.resolver.takenBy settings.strictly, settings,
      settings.strictly, true, Settings.matches_strictly lenient⟩
  have sessions : pairing.Sessions after strictAfter :=
    ⟨(kept.symm.trans records).trans strictKept, held, strictHeld⟩
  have contexts : pairing.Contexts { context with resolver := pairing.seat }
      { strictContext with resolver := pairing.otherSeat } := ⟨by rw [same], .inl rfl, .inl rfl⟩
  have accord :=
    accords_resolveWith (accords_reactWithin reactionPatience) definition pairing.suited
    _ _ contexts board after strictAfter sessions
  rw [resolve, resolveWith_of_adopted adopted (Context.adopt_of_carried held board),
    resolveWith_of_adopted strictAdopted (Context.adopt_of_carried strictHeld board)]
  exact (accord.after_quiet (.of_eq kept.warnings.symm)).agreeThroughout rfl

/-- A menu is resolved in the same way; only the first of its two options leads to an
effect type that does not exist. -/
theorem a_menu_agrees_under_strict_settings :
    let session := (default : Moment).session
    let strictly := ({} : Settings).strictly
    let menu := menuOf "Mode" (definitionOf "bogus")
    ({} : Settings).strict = false ∧ settledContext.BelongsTo {} session ∧
      AgreeThroughout session (resolve menu {} settledContext touchyBoard session)
        (resolve menu strictly { settledContext with resolver := .taken strictly } touchyBoard
          session) :=
  ⟨rfl, .inr rfl, strict_settings_agree_up_to_the_first_report _ rfl rfl (.refl _) (.inr rfl)
    (.inr rfl) _⟩

end CreatureCards
