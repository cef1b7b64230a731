import CreatureCards.Proofs.Adoption
import CreatureCards.Resolver
import Mathlib.Data.List.Forall2

/-!
# Runs in accord

Two resolvers work on the same definition in contexts that differ in nothing but
the resolver that they carry.  Their runs are in accord: they tell the same,
draw the same numbers and come to results that fit each other, until one of the
resolvers refuses a definition that the other one reports.  There they part.
Being in accord is closed under everything that runs are built from.
-/

namespace CreatureCards

/-- The other settings are the same, or where runs may part, the strict
counterpart of lenient ones. -/
structure Settings.Matches (parts : Bool) (settings other : Settings) : Prop where
  strict : other.strict = (settings.strict || parts)
  lenient : parts = true → settings.strict = false
  maxScaledDraw : other.maxScaledDraw = settings.maxScaledDraw
  revealHandDuration : other.revealHandDuration = settings.revealHandDuration

/-- The seats of two contexts and the settings that are found there. -/
structure Pairing where
  seat : ResolverSeat
  otherSeat : ResolverSeat
  settings : Settings
  otherSettings : Settings
  /-- One resolver reports what the other one refuses. -/
  parts : Bool
  suited : settings.Matches parts otherSettings

namespace Pairing

variable (pairing : Pairing)

/-- The sessions hold the same records, and the settings are found on the seats. -/
structure Sessions (session other : Session) : Prop where
  records : session.SameRecords other
  held : pairing.seat.held session = some pairing.settings
  heldOther : pairing.otherSeat.held other = some pairing.otherSettings

/-- The contexts differ in their resolvers only; each is on its seat or carries the
settings that are found there. -/
structure Contexts (context other : Context) : Prop where
  same : other = { context with resolver := other.resolver }
  seat : context.resolver = pairing.seat ∨ context.resolver = .taken pairing.settings
  otherSeat : other.resolver = pairing.otherSeat ∨ other.resolver = .taken pairing.otherSettings

/-- Where the runs may part, nothing was reported since about a definition. -/
def Quiet (before after : Session) : Prop :=
  ∃ reports, after.warnings = before.warnings ++ reports ∧
    (pairing.parts = true → ∀ warning ∈ reports, ¬ warning.ReportsDefinition)

end Pairing

/-- A definition was reported since. -/
def Session.Reported (before after : Session) : Prop :=
  ∃ reports, after.warnings = before.warnings ++ reports ∧
    ∃ warning ∈ reports, warning.ReportsDefinition

namespace Pairing

variable {pairing : Pairing} {first second third session other : Session}

theorem Quiet.of_eq (same : second.warnings = first.warnings) : pairing.Quiet first second :=
  ⟨[], by rw [same, List.append_nil], by simp⟩

theorem Quiet.refl (session : Session) : pairing.Quiet session session :=
  .of_eq rfl

theorem Quiet.trans (one : pairing.Quiet first second) (next : pairing.Quiet second third) :
    pairing.Quiet first third := by
  obtain ⟨reports, reported, isOther⟩ := one
  obtain ⟨further, reportedFurther, isOtherFurther⟩ := next
  refine ⟨reports ++ further, by rw [reportedFurther, reported, List.append_assoc], ?_⟩
  exact fun parts => List.forall_mem_append.2 ⟨isOther parts, isOtherFurther parts⟩

theorem Quiet.warn {warning : Warning}
    (isOther : pairing.parts = true → ¬ warning.ReportsDefinition) (session : Session) :
    pairing.Quiet session (session.warn warning) :=
  ⟨[warning], rfl, fun parts => List.forall_mem_singleton.2 (isOther parts)⟩

theorem Quiet.reported (one : pairing.Quiet first second) (next : second.Reported third) :
    first.Reported third := by
  obtain ⟨reports, reported, -⟩ := one
  obtain ⟨further, reportedFurther, warning, member, about⟩ := next
  refine ⟨reports ++ further, by rw [reportedFurther, reported, List.append_assoc], warning,
    ?_, about⟩
  exact List.mem_append_right reports member

theorem reported_trans (one : first.Reported second) (next : pairing.Quiet second third) :
    first.Reported third := by
  obtain ⟨reports, reported, warning, member, about⟩ := one
  obtain ⟨further, reportedFurther, -⟩ := next
  refine ⟨reports ++ further, by rw [reportedFurther, reported, List.append_assoc], warning,
    ?_, about⟩
  exact List.mem_append_left further member

theorem reported_trans_reported (one : first.Reported second) (next : second.Reported third) :
    first.Reported third := by
  obtain ⟨reports, reported, warning, member, about⟩ := one
  obtain ⟨further, reportedFurther, -⟩ := next
  refine ⟨reports ++ further, by rw [reportedFurther, reported, List.append_assoc], warning,
    ?_, about⟩
  exact List.mem_append_left further member

/-- A change that leaves the seats alone keeps what is found there. -/
theorem Sessions.change (sessions : pairing.Sessions session other) {next otherNext : Session}
    (records : next.SameRecords otherNext) (seats : next.seats = session.seats)
    (otherSeats : otherNext.seats = other.seats) : pairing.Sessions next otherNext := by
  have held (seat : ResolverSeat) {before after : Session} (same : after.seats = before.seats) :
      seat.held after = seat.held before := by
    cases seat with
    | shared place => exact congrArg (List.lookup place) same
    | taken settings => rfl
    | vacant => rfl
  exact ⟨records, (held _ seats).trans sessions.held, (held _ otherSeats).trans sessions.heldOther⟩

theorem Sessions.announce (sessions : pairing.Sessions session other) (message : String) :
    pairing.Sessions (session.announce message) (other.announce message) :=
  sessions.change ⟨congrArg (· ++ [message]) sessions.records.log, sessions.records.warnings,
    sessions.records.random⟩ rfl rfl

theorem Sessions.warn (sessions : pairing.Sessions session other) (warning : Warning) :
    pairing.Sessions (session.warn warning) (other.warn warning) :=
  sessions.change ⟨sessions.records.log, congrArg (· ++ [warning]) sessions.records.warnings,
    sessions.records.random⟩ rfl rfl

theorem Sessions.redraw (sessions : pairing.Sessions session other) (random : RandomSource) :
    pairing.Sessions { session with random } { other with random } :=
  sessions.change ⟨sessions.records.log, sessions.records.warnings, rfl⟩ rfl rfl

theorem Contexts.carried {context counterpart : Context}
    (contexts : pairing.Contexts context counterpart) (sessions : pairing.Sessions session other) :
    context.carried session = some pairing.settings := by
  rw [Context.carried_eq]
  obtain seat | seat := contexts.seat
  · rw [seat, sessions.held]
  · rw [seat]
    rfl

theorem Contexts.carriedOther {context counterpart : Context}
    (contexts : pairing.Contexts context counterpart) (sessions : pairing.Sessions session other) :
    counterpart.carried other = some pairing.otherSettings := by
  rw [Context.carried_eq]
  obtain seat | seat := contexts.otherSeat
  · rw [seat, sessions.heldOther]
  · rw [seat]
    rfl

end Pairing

variable {α β γ δ : Type} {pairing : Pairing}

/-- How two runs from a session and its counterpart compare.  The results fit, or
both break off in the same way, or one run reported a definition and the other
one refused it.  In that case the first run may go on, and whatever it comes to
fits something. -/
inductive Accord (pairing : Pairing) (fits : α → β → Prop) (before : Session) :
    Except Failure α × Session → Except Failure β × Session → Prop
  | ok {value : α} {counterpart : β} {after other : Session} (quiet : pairing.Quiet before after)
      (sessions : pairing.Sessions after other) (isFit : fits value counterpart) :
      Accord pairing fits before (.ok value, after) (.ok counterpart, other)
  | failed {failure : Failure} {after other : Session} (quiet : pairing.Quiet before after)
      (sessions : pairing.Sessions after other)
      (isOther : pairing.parts = true → ¬ failure.RefusesDefinition) :
      Accord pairing fits before (.error failure, after) (.error failure, other)
  | parted {result : Except Failure α} {failure : Failure} {after partner other : Session}
      (parts : pairing.parts = true) (reported : before.Reported after)
      (sessions : pairing.Sessions after partner)
      (whole : ∀ value, result = .ok value → ∃ counterpart, fits value counterpart)
      (refuses : failure.RefusesDefinition) :
      Accord pairing fits before (result, after) (.error failure, other)

/-- The runs are in accord from any two sessions that hold the same records. -/
def Accords (pairing : Pairing) (fits : α → β → Prop) (running : Engine α) (other : Engine β) :
    Prop :=
  ∀ board session counterpart, pairing.Sessions session counterpart →
    Accord pairing fits session (running board session) (other board counterpart)

namespace Accord

variable {fits : α → β → Prop} {before : Session} {left : Except Failure α × Session}
  {right : Except Failure β × Session}

/-- A run in accord leaves a session that has a counterpart, and its result fits
something. -/
theorem exists_partner (accord : Accord pairing fits before left right) :
    (∃ partner, pairing.Sessions left.2 partner) ∧
      ∀ value, left.1 = .ok value → ∃ counterpart, fits value counterpart := by
  cases accord with
  | ok quiet sessions isFit =>
      refine ⟨⟨_, sessions⟩, ?_⟩
      rintro _ ⟨⟩
      exact ⟨_, isFit⟩
  | failed quiet sessions isOther => exact ⟨⟨_, sessions⟩, fun _ failed => nomatch failed⟩
  | parted parts reported sessions whole refuses => exact ⟨⟨_, sessions⟩, whole⟩

/-- What was reported before stays reported. -/
theorem reported (accord : Accord pairing fits before left right) {first : Session}
    (earlier : first.Reported before) : first.Reported left.2 := by
  cases accord with
  | ok quiet sessions isFit => exact Pairing.reported_trans earlier quiet
  | failed quiet sessions isOther => exact Pairing.reported_trans earlier quiet
  | parted parts later sessions whole refuses => exact Pairing.reported_trans_reported earlier later

theorem weaken {wider : α → β → Prop} (accord : Accord pairing fits before left right)
    (each : ∀ value counterpart, fits value counterpart → wider value counterpart) :
    Accord pairing wider before left right := by
  cases accord with
  | ok quiet sessions isFit => exact .ok quiet sessions (each _ _ isFit)
  | failed quiet sessions isOther => exact .failed quiet sessions isOther
  | parted parts reported sessions whole refuses =>
      refine .parted parts reported sessions (fun value same => ?_) refuses
      obtain ⟨counterpart, isFit⟩ := whole value same
      exact ⟨counterpart, each value counterpart isFit⟩

/-- Runs in accord, after something quiet. -/
theorem after_quiet {first : Session} (quiet : pairing.Quiet first before)
    (accord : Accord pairing fits before left right) : Accord pairing fits first left right := by
  cases accord with
  | ok later sessions isFit => exact .ok (quiet.trans later) sessions isFit
  | failed later sessions isOther => exact .failed (quiet.trans later) sessions isOther
  | parted parts reported sessions whole refuses =>
      exact .parted parts (quiet.reported reported) sessions whole refuses

end Accord

namespace Accords

variable {fits : α → β → Prop} {fitsNext : γ → δ → Prop}

theorem pure {value : α} {counterpart : β} (isFit : fits value counterpart) :
    Accords pairing fits (Pure.pure value : Engine α) (Pure.pure counterpart : Engine β) :=
  fun _ session _ sessions => .ok (.refl session) sessions isFit

theorem throw {failure : Failure} (isOther : pairing.parts = true → ¬ failure.RefusesDefinition) :
    Accords pairing fits (MonadExcept.throw failure : Engine α)
      (MonadExcept.throw failure : Engine β) :=
  fun _ session _ sessions => .failed (.refl session) sessions isOther

theorem weaken {wider : α → β → Prop} {running : Engine α} {other : Engine β}
    (accords : Accords pairing fits running other)
    (each : ∀ value counterpart, fits value counterpart → wider value counterpart) :
    Accords pairing wider running other :=
  fun board session counterpart sessions => (accords board session counterpart sessions).weaken each

theorem bind {running : Engine α} {other : Engine β} {next : α → Engine γ}
    {otherNext : β → Engine δ} (first : Accords pairing fits running other)
    (each : ∀ value counterpart, fits value counterpart →
      Accords pairing fitsNext (next value) (otherNext counterpart)) :
    Accords pairing fitsNext (running >>= next) (other >>= otherNext) := by
  intro board session counterpart sessions
  have accord := first board session counterpart sessions
  rw [Engine.bind_apply, Engine.bind_apply]
  generalize running board session = left at accord
  generalize other board counterpart = right at accord
  cases accord with
  | ok quiet later isFit => exact (each _ _ isFit board _ _ later).after_quiet quiet
  | failed quiet later isOther => exact .failed quiet later isOther
  | @parted result failure after partner otherAfter parts reported later whole refuses =>
      cases result with
      | error fault => exact .parted parts reported later (fun _ failed => nomatch failed) refuses
      | ok value =>
          obtain ⟨fit, isFit⟩ := whole value rfl
          have goesOn := each value fit isFit board after partner later
          obtain ⟨⟨last, lastSessions⟩, isWhole⟩ := goesOn.exists_partner
          exact .parted parts (goesOn.reported reported) lastSessions isWhole refuses

theorem ite {condition : Prop} [Decidable condition] {running otherwise : Engine α}
    {other otherOtherwise : Engine β}
    (whenTrue : condition → Accords pairing fits running other)
    (whenFalse : ¬ condition → Accords pairing fits otherwise otherOtherwise) :
    Accords pairing fits (if condition then running else otherwise)
      (if condition then other else otherOtherwise) := by
  split
  · exact whenTrue ‹_›
  · exact whenFalse ‹_›

/-- What was drawn leaves its source behind. -/
theorem accord_drawn (drawn : Except Failure (Int × RandomSource)) (board : Board)
    {session counterpart : Session} (sessions : pairing.Sessions session counterpart) :
    NeverRefuses drawn →
      let run : Engine Int := match drawn with
        | .ok (number, random) => do
          modify fun session => { session with random }
          return number
        | .error failure => MonadExcept.throw failure
      Accord pairing (fun value other => other = value) session (run board session)
        (run board counterpart) := by
  intro never
  cases drawn with
  | ok pair => exact .ok (.of_eq rfl) (sessions.redraw pair.2) rfl
  | error failure => exact .failed (.refl session) sessions fun _ => never failure rfl

theorem draw (bound : Int) :
    Accords pairing (fun value other => other = value) (Engine.draw bound) (Engine.draw bound) := by
  intro board session counterpart sessions
  have drawn := accord_drawn (session.random.draw bound) board sessions
    (Harmless.unrefused_draw session.random bound)
  have other : Engine.draw bound board counterpart = (match session.random.draw bound with
      | .ok (number, random) => do
        modify fun session => { session with random }
        return number
      | .error failure => MonadExcept.throw failure : Engine Int) board counterpart := by
    rw [sessions.records.random]
    rfl
  rw [other]
  exact drawn

/-- An elementary run is in accord with itself. -/
theorem of_elementary {good : α → Prop} {running : Engine α}
    (elementary : Elementary good running) :
    Accords pairing (fun value counterpart => counterpart = value ∧ good value) running
      running := by
  induction elementary with
  | pure isGood => exact .pure ⟨rfl, isGood⟩
  | throw isOther => exact .throw fun _ => isOther
  | bind first each ihFirst ihEach =>
      refine ihFirst.bind ?_
      rintro value _ ⟨rfl, isGood⟩
      exact ihEach _ isGood
  | board each =>
      exact fun board session _ sessions => .ok (.refl session) sessions ⟨rfl, each board⟩
  | announce message isGood =>
      exact fun board session _ sessions =>
        .ok (.of_eq rfl) (sessions.announce message) ⟨rfl, isGood⟩
  | warn isOther isGood =>
      exact fun board session _ sessions =>
        .ok (.warn (fun _ => isOther) session) (sessions.warn _) ⟨rfl, isGood⟩
  | draw bound each => exact (draw bound).weaken fun number _ same => ⟨same, each number⟩

/-- Both runs do the same elementary steps first. -/
theorem first {good : γ → Prop} {running : Engine γ} {next : γ → Engine α}
    {otherNext : γ → Engine β} (elementary : Elementary good running)
    (each : ∀ value, good value → Accords pairing fits (next value) (otherNext value)) :
    Accords pairing fits (running >>= next) (running >>= otherNext) := by
  refine (of_elementary elementary).bind ?_
  rintro value _ ⟨rfl, isGood⟩
  exact each _ isGood

/-- Both runs look at the board. -/
theorem reading {next : Board → Engine α} {otherNext : Board → Engine β}
    (each : ∀ board, Accords pairing fits (next board) (otherNext board)) :
    Accords pairing fits (Engine.board >>= next) (Engine.board >>= otherNext) :=
  have looking : Elementary (fun _ => True) Engine.board := .board fun _ => trivial
  first looking fun board _ => each board

/-- Both runs tell the same. -/
theorem telling {message : String} {next : Unit → Engine α} {otherNext : Unit → Engine β}
    (later : Accords pairing fits (next ()) (otherNext ())) :
    Accords pairing fits (Engine.announce message >>= next)
      (Engine.announce message >>= otherNext) :=
  have told : Elementary (fun _ => True) (Engine.announce message) := .announce message trivial
  first told fun _ _ => later

theorem mapM {entries : List γ} {others : List δ} {run : γ → Engine α} {otherRun : δ → Engine β}
    (each : List.Forall₂ (fun entry other => Accords pairing fits (run entry) (otherRun other))
      entries others) :
    Accords pairing (List.Forall₂ fits) (entries.mapM run) (others.mapM otherRun) := by
  induction each with
  | nil => exact .pure .nil
  | cons here _ ih =>
      rw [List.mapM_cons, List.mapM_cons]
      exact here.bind fun _ _ isFit => ih.bind fun _ _ areFit => .pure (.cons isFit areFit)

end Accords

/-- Both computations succeed with results that fit, or both fail in the same way. -/
inductive Matched (fits : α → β → Prop) : Except Failure α → Except Failure β → Prop
  | ok {value : α} {counterpart : β} (isFit : fits value counterpart) :
      Matched fits (.ok value) (.ok counterpart)
  | failed (failure : Failure) : Matched fits (.error failure) (.error failure)

namespace Matched

variable {fits : α → β → Prop} {fitsNext : γ → δ → Prop}

/-- A computation whose result fits itself. -/
theorem refl {fits : α → α → Prop} {made : Except Failure α}
    (each : ∀ value, made = .ok value → fits value value) : Matched fits made made := by
  cases made with
  | ok value => exact .ok (each value rfl)
  | error failure => exact .failed failure

theorem weaken {wider : α → β → Prop} {made : Except Failure α} {other : Except Failure β}
    (matched : Matched fits made other)
    (each : ∀ value counterpart, fits value counterpart → wider value counterpart) :
    Matched wider made other := by
  cases matched with
  | ok isFit => exact .ok (each _ _ isFit)
  | failed failure => exact .failed failure

theorem bind {made : Except Failure α} {other : Except Failure β} {next : α → Except Failure γ}
    {otherNext : β → Except Failure δ} (first : Matched fits made other)
    (each : ∀ value counterpart, fits value counterpart →
      Matched fitsNext (next value) (otherNext counterpart)) :
    Matched fitsNext (made >>= next) (other >>= otherNext) := by
  cases first with
  | ok isFit => exact each _ _ isFit
  | failed failure => exact .failed failure

/-- Both computations begin in the same way. -/
theorem after {made : Except Failure γ} {next : γ → Except Failure α}
    {otherNext : γ → Except Failure β}
    (each : ∀ value, Matched fits (next value) (otherNext value)) :
    Matched fits (made >>= next) (made >>= otherNext) := by
  cases made with
  | ok value => exact each value
  | error failure => exact .failed failure

theorem map {made : Except Failure α} {other : Except Failure β} {view : α → γ} {otherView : β → δ}
    (matched : Matched fits made other)
    (each : ∀ value counterpart, fits value counterpart →
      fitsNext (view value) (otherView counterpart)) :
    Matched fitsNext (made.map view) (other.map otherView) := by
  cases matched with
  | ok isFit => exact .ok (each _ _ isFit)
  | failed failure => exact .failed failure

theorem ite {condition : Prop} [Decidable condition] {made otherwise : Except Failure α}
    {other otherOtherwise : Except Failure β} (whenTrue : Matched fits made other)
    (whenFalse : Matched fits otherwise otherOtherwise) :
    Matched fits (if condition then made else otherwise)
      (if condition then other else otherOtherwise) := by
  split
  · exact whenTrue
  · exact whenFalse

theorem mapM {entries : List γ} {others : List δ} {make : γ → Except Failure α}
    {otherMake : δ → Except Failure β}
    (each : List.Forall₂ (fun entry other => Matched fits (make entry) (otherMake other))
      entries others) :
    Matched (List.Forall₂ fits) (entries.mapM make) (others.mapM otherMake) := by
  induction each with
  | nil => exact .ok .nil
  | cons here _ ih =>
      rw [List.mapM_cons, List.mapM_cons]
      exact here.bind fun _ _ isFit => ih.bind fun _ _ areFit => .ok (.cons isFit areFit)

end Matched

namespace Accords

variable {fits : α → β → Prop} {context counterpart : Context}

theorem orFail {made : Except Failure α} {other : Except Failure β}
    (matched : Matched fits made other)
    (never : NeverRefuses made) :
    Accords pairing fits (Engine.orFail made) (Engine.orFail other) := by
  cases matched with
  | ok isFit => exact .pure isFit
  | failed failure => exact .throw fun _ => never failure rfl

/-- The settings that the contexts find. -/
theorem settings (contexts : pairing.Contexts context counterpart) :
    Accords pairing (fun found other => found = pairing.settings ∧ other = pairing.otherSettings)
      context.settings counterpart.settings := by
  intro board session other sessions
  have found : context.settings board session = (.ok pairing.settings, session) := by
    change (Except.ok ((context.carried session).getD {}), session) = _
    rw [contexts.carried sessions]
    rfl
  have foundOther : counterpart.settings board other = (.ok pairing.otherSettings, other) := by
    change (Except.ok ((counterpart.carried other).getD {}), other) = _
    rw [contexts.carriedOther sessions]
    rfl
  rw [found, foundOther]
  exact .ok (.refl session) sessions ⟨rfl, rfl⟩

/-- Derived contexts carry the settings that were found. -/
theorem derived (contexts : pairing.Contexts context counterpart) :
    Accords pairing pairing.Contexts context.derived counterpart.derived := by
  intro board session other sessions
  have settled :
      context.settled session = { context with resolver := .taken pairing.settings } := by
    rw [Context.settled, contexts.carried sessions]
    rfl
  have settledOther : counterpart.settled other =
      { counterpart with resolver := .taken pairing.otherSettings } := by
    rw [Context.settled, contexts.carriedOther sessions]
    rfl
  refine .ok (.refl session) sessions ?_
  rw [settled, settledOther, contexts.same]
  exact ⟨rfl, .inr rfl, .inr rfl⟩

theorem adopt (contexts : pairing.Contexts context counterpart) (settings other : Settings) :
    Accords pairing pairing.Contexts (context.adopt settings) (counterpart.adopt other) := by
  intro board session otherSession sessions
  rw [Context.adopt_of_carried (contexts.carried sessions),
    Context.adopt_of_carried (contexts.carriedOther sessions)]
  exact .ok (.refl session) sessions contexts

/-- Lenient settings report what strict ones refuse; otherwise both do the same. -/
theorem refuse {fits : Outcome → Outcome → Prop} (nothing : fits .nothing .nothing)
    {settings other : Settings} (matching : settings.Matches pairing.parts other)
    {failure : Failure}
    (refuses : failure.RefusesDefinition) {warning : Warning}
    (reports : warning.ReportsDefinition) :
    Accords pairing fits (refuse settings failure warning) (refuse other failure warning) := by
  intro board session counterpart sessions
  unfold CreatureCards.refuse
  rw [matching.strict]
  cases parts : pairing.parts with
  | true =>
      have reported : session.Reported (session.warn warning) :=
        ⟨[warning], rfl, warning, List.mem_singleton_self warning, reports⟩
      rw [matching.lenient parts]
      refine .parted parts reported (sessions.warn warning) ?_ refuses
      rintro _ ⟨⟩
      exact ⟨.nothing, nothing⟩
  | false =>
      have never {claim : Prop} (isTrue : pairing.parts = true) : claim := by
        rw [parts] at isTrue
        cases isTrue
      cases settings.strict with
      | true => exact .failed (.refl session) sessions never
      | false => exact .ok (.warn never session) (sessions.warn warning) nothing

end Accords

end CreatureCards
