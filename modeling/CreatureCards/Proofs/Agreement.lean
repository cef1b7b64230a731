import CreatureCards.Proofs.AlikeOutcome
import CreatureCards.Proofs.Insertion
import CreatureCards.Proofs.LikenessWalk

/-!
# Runs that agree

Two runs on the same board agree if they tell the same, draw the same numbers and come to
results that fit, or fail in the same way, while the second one may report more.  A run
is idle if it does nothing but report and comes to nothing; idle runs may be inserted
between others.

Outcomes agree if they hold the same data and ask the same, where the definitions that the
options of a menu show are left out of account, and if every answer comes to runs that
agree.  Merging leaves out what comes to nothing, so outcomes of idle runs among others
make no difference.
-/

namespace CreatureCards

/-- The other session is the same, up to additional warnings. -/
structure Session.AlsoWarned (session other : Session) : Prop where
  log : other.log = session.log
  random : other.random = session.random
  seats : other.seats = session.seats
  warnings : session.warnings.Sublist other.warnings

namespace Session.AlsoWarned

variable {session other third : Session}

theorem refl (session : Session) : session.AlsoWarned session :=
  ⟨rfl, rfl, rfl, .refl _⟩

theorem trans (first : session.AlsoWarned other) (next : other.AlsoWarned third) :
    session.AlsoWarned third :=
  ⟨next.log.trans first.log, next.random.trans first.random, next.seats.trans first.seats,
    first.warnings.trans next.warnings⟩

theorem announce (more : session.AlsoWarned other) (message : String) :
    (session.announce message).AlsoWarned (other.announce message) :=
  ⟨congrArg (· ++ [message]) more.log, more.random, more.seats, more.warnings⟩

theorem warn (more : session.AlsoWarned other) (warning : Warning) :
    (session.warn warning).AlsoWarned (other.warn warning) :=
  ⟨more.log, more.random, more.seats, more.warnings.append (.refl _)⟩

theorem redraw (more : session.AlsoWarned other) (random : RandomSource) :
    AlsoWarned { session with random } { other with random } :=
  ⟨more.log, rfl, more.seats, more.warnings⟩

theorem warned (session : Session) (warning : Warning) :
    session.AlsoWarned (session.warn warning) :=
  ⟨rfl, rfl, rfl, List.sublist_append_left _ _⟩

/-- The same is found on every seat. -/
theorem held_eq (more : session.AlsoWarned other) (seat : ResolverSeat) :
    seat.held other = seat.held session := by
  cases seat with
  | shared place => exact congrArg (List.lookup place) more.seats
  | taken settings => rfl
  | vacant => rfl

end Session.AlsoWarned

/-- The seat of contexts and the settings that are found there. -/
structure Holding where
  seat : ResolverSeat
  settings : Settings

namespace Holding

variable (holding : Holding)

/-- The context is on the seat or carries the settings that are found there. -/
def Bears (context : Context) : Prop :=
  context.resolver = holding.seat ∨ context.resolver = .taken holding.settings

/-- The settings are found on the seat in both sessions. -/
structure Sessions (session other : Session) : Prop where
  more : session.AlsoWarned other
  held : holding.seat.held session = some holding.settings

/-- Both come to results that fit, or fail in the same way. -/
structure Comes {α β : Type} (fits : α → β → Prop) (ran : Except Failure α × Session)
    (other : Except Failure β × Session) : Prop where
  results : Matched fits ran.1 other.1
  sessions : holding.Sessions ran.2 other.2

end Holding

/-- The runs agree on every board. -/
def Agree {α β : Type} (holding : Holding) (fits : α → β → Prop) (running : Engine α)
    (other : Engine β) : Prop :=
  ∀ board session counterpart, holding.Sessions session counterpart →
    holding.Comes fits (running board session) (other board counterpart)

/-- The run only reports something, and comes to something idle. -/
def Idle {α : Type} (holding : Holding) (idle : α → Prop) (running : Engine α) : Prop :=
  ∀ board session, holding.seat.held session = some holding.settings →
    ∃ value after, running board session = (.ok value, after) ∧ idle value ∧
      session.AlsoWarned after

variable {α β γ δ : Type} {holding : Holding}

namespace Holding

variable {context : Context} {session other : Session}

theorem Bears.carried (bears : holding.Bears context)
    (held : holding.seat.held session = some holding.settings) :
    context.carried session = some holding.settings := by
  rw [Context.carried_eq]
  rcases bears with seat | seat
  · rw [seat, held]
  · rw [seat]
    rfl

/-- Contexts that are aimed at something carry the resolvers that they carried. -/
theorem Bears.aimed (bears : holding.Bears context) (target : Option Target)
    (creature : Option CardId) :
    holding.Bears { context with target, creature } :=
  bears

theorem Sessions.heldOther (sessions : holding.Sessions session other) :
    holding.seat.held other = some holding.settings :=
  (sessions.more.held_eq holding.seat).trans sessions.held

theorem Sessions.trans (sessions : holding.Sessions session other) {later : Session}
    (more : other.AlsoWarned later) :
    holding.Sessions session later :=
  ⟨sessions.more.trans more, sessions.held⟩

end Holding

namespace Agree

variable {fits : α → β → Prop} {fitsNext : γ → δ → Prop}

theorem pure {value : α} {counterpart : β} (isFit : fits value counterpart) :
    Agree holding fits (Pure.pure value : Engine α) (Pure.pure counterpart : Engine β) :=
  fun _ _ _ sessions => ⟨.ok isFit, sessions⟩

theorem throw (failure : Failure) :
    Agree holding fits (MonadExcept.throw failure : Engine α)
      (MonadExcept.throw failure : Engine β) :=
  fun _ _ _ sessions => ⟨.failed failure, sessions⟩

theorem bind {running : Engine α} {other : Engine β} {next : α → Engine γ}
    {otherNext : β → Engine δ} (first : Agree holding fits running other)
    (each : ∀ value counterpart, fits value counterpart →
      Agree holding fitsNext (next value) (otherNext counterpart)) :
    Agree holding fitsNext (running >>= next) (other >>= otherNext) := by
  intro board session counterpart sessions
  obtain ⟨results, later⟩ := first board session counterpart sessions
  rcases ran : running board session with ⟨result, after⟩
  rcases ranOther : other board counterpart with ⟨resultOther, afterOther⟩
  rw [ran, ranOther] at results later
  cases results with
  | failed failure =>
      rw [Engine.bind_of_error ran, Engine.bind_of_error ranOther]
      exact ⟨.failed failure, later⟩
  | ok isFit =>
      rw [Engine.bind_of_ok ran, Engine.bind_of_ok ranOther]
      exact each _ _ isFit board after afterOther later

theorem weaken {wider : α → β → Prop} {running : Engine α} {other : Engine β}
    (agree : Agree holding fits running other)
    (each : ∀ value counterpart, fits value counterpart → wider value counterpart) :
    Agree holding wider running other := by
  intro board session counterpart sessions
  obtain ⟨results, later⟩ := agree board session counterpart sessions
  exact ⟨results.weaken each, later⟩

theorem ite {condition : Prop} [Decidable condition] {running otherwise : Engine α}
    {other otherOtherwise : Engine β} (whenTrue : condition → Agree holding fits running other)
    (whenFalse : ¬ condition → Agree holding fits otherwise otherOtherwise) :
    Agree holding fits (if condition then running else otherwise)
      (if condition then other else otherOtherwise) := by
  split
  · exact whenTrue ‹_›
  · exact whenFalse ‹_›

theorem orFail {made : Except Failure α} {other : Except Failure β}
    (matched : Matched fits made other) :
    Agree holding fits (Engine.orFail made) (Engine.orFail other) := by
  cases matched with
  | ok isFit => exact .pure isFit
  | failed failure => exact .throw failure

theorem draw (bound : Int) :
    Agree holding (fun number other => other = number) (Engine.draw bound) (Engine.draw bound) := by
  intro board session counterpart sessions
  rw [Engine.draw_eq, Engine.draw_eq, sessions.more.random]
  cases session.random.draw bound with
  | error failure => exact ⟨.failed failure, sessions⟩
  | ok drawn => exact ⟨.ok rfl, sessions.more.redraw drawn.2, sessions.held⟩

/-- An elementary run agrees with itself. -/
theorem of_elementary {good : α → Prop} {running : Engine α}
    (elementary : Elementary good running) :
    Agree holding (fun value counterpart => counterpart = value ∧ good value) running running := by
  induction elementary with
  | pure isGood => exact .pure ⟨rfl, isGood⟩
  | throw => exact .throw _
  | bind first each ihFirst ihEach =>
      refine ihFirst.bind ?_
      rintro value _ ⟨rfl, isGood⟩
      exact ihEach _ isGood
  | board each => exact fun board _ _ sessions => ⟨.ok ⟨rfl, each board⟩, sessions⟩
  | announce message isGood =>
      exact fun _ _ _ sessions => ⟨.ok ⟨rfl, isGood⟩, sessions.more.announce message, sessions.held⟩
  | warn isOther isGood =>
      exact fun _ _ _ sessions => ⟨.ok ⟨rfl, isGood⟩, sessions.more.warn _, sessions.held⟩
  | draw bound each => exact (draw bound).weaken fun number _ same => ⟨same, each number⟩

/-- Both runs do the same elementary steps first. -/
theorem first {good : γ → Prop} {running : Engine γ} {next : γ → Engine α}
    {otherNext : γ → Engine β} (elementary : Elementary good running)
    (each : ∀ value, good value → Agree holding fits (next value) (otherNext value)) :
    Agree holding fits (running >>= next) (running >>= otherNext) := by
  refine (of_elementary elementary).bind ?_
  rintro value _ ⟨rfl, isGood⟩
  exact each _ isGood

/-- Both runs look at the board. -/
theorem reading {next : Board → Engine α} {otherNext : Board → Engine β}
    (each : ∀ board, Agree holding fits (next board) (otherNext board)) :
    Agree holding fits (Engine.board >>= next) (Engine.board >>= otherNext) :=
  have looking : Elementary (fun _ => True) Engine.board := .board fun _ => trivial
  first looking fun board _ => each board

/-- Both runs tell the same. -/
theorem telling {message : String} {next : Unit → Engine α} {otherNext : Unit → Engine β}
    (later : Agree holding fits (next ()) (otherNext ())) :
    Agree holding fits (Engine.announce message >>= next) (Engine.announce message >>= otherNext) :=
  have told : Elementary (fun _ => True) (Engine.announce message) := .announce message trivial
  first told fun _ _ => later

/-- An idle run goes unnoticed before another one. -/
theorem after_idle {idle : γ → Prop} {running : Engine α} {idling : Engine γ}
    {otherNext : γ → Engine β} (isIdle : Idle holding idle idling)
    (each : ∀ value, idle value → Agree holding fits running (otherNext value)) :
    Agree holding fits running (idling >>= otherNext) := by
  intro board session counterpart sessions
  obtain ⟨value, after, ran, nothing, more⟩ := isIdle board counterpart sessions.heldOther
  rw [Engine.bind_of_ok ran]
  exact each value nothing board session after (sessions.trans more)

/-- Runs agree one by one, with idle runs between those of the second. -/
theorem mapM {idle : β → Prop} {entries : List γ} {others : List δ} {run : γ → Engine α}
    {otherRun : δ → Engine β}
    (each : Padding (fun entry other => Agree holding fits (run entry) (otherRun other))
      (fun other => Idle holding idle (otherRun other)) entries others) :
    Agree holding (Padding fits idle) (entries.mapM run) (others.mapM otherRun) := by
  induction each with
  | nil => exact .pure .nil
  | keep here _ ih =>
      rw [List.mapM_cons, List.mapM_cons]
      exact here.bind fun _ _ isFit => ih.bind fun _ _ areFit => .pure (.keep isFit areFit)
  | insert isIdle _ ih =>
      rw [List.mapM_cons]
      refine after_idle isIdle fun value nothing => ?_
      rw [← bind_pure (List.mapM run _)]
      exact ih.bind fun _ _ areFit => .pure (.insert nothing areFit)

section Contexts

variable {context : Context} (bears : holding.Bears context)

include bears

/-- The settings that a context finds. -/
theorem settings :
    Agree holding (fun found other => found = holding.settings ∧ other = holding.settings)
    context.settings context.settings := by
  intro board session other sessions
  have found (session : Session) (held : holding.seat.held session = some holding.settings) :
      context.settings board session = (.ok holding.settings, session) := by
    change (Except.ok ((context.carried session).getD {}), session) = _
    rw [bears.carried held]
    rfl
  rw [found session sessions.held, found other sessions.heldOther]
  exact ⟨.ok ⟨rfl, rfl⟩, sessions⟩

/-- A derived context carries the settings that were found. -/
theorem derived :
    Agree holding (fun derived other => other = derived ∧ holding.Bears derived) context.derived
    context.derived := by
  intro board session other sessions
  have settled (session : Session) (held : holding.seat.held session = some holding.settings) :
      context.settled session = { context with resolver := .taken holding.settings } := by
    rw [Context.settled, bears.carried held]
    rfl
  refine ⟨.ok ?_, sessions⟩
  rw [settled session sessions.held, settled other sessions.heldOther]
  exact ⟨rfl, .inr rfl⟩

/-- A context that carries a resolver is taken as it is. -/
theorem adopting {fits : α → β → Prop} (settings : Settings) {next : Context → Engine α}
    {otherNext : Context → Engine β}
    (later : Agree holding fits (next context) (otherNext context)) :
    Agree holding fits (context.adopt settings >>= next)
      (context.adopt settings >>= otherNext) := by
  intro board session other sessions
  rw [Engine.bind_of_ok (Context.adopt_of_carried (bears.carried sessions.held) board),
    Engine.bind_of_ok (Context.adopt_of_carried (bears.carried sessions.heldOther) board)]
  exact later board session other sessions

end Contexts

end Agree

namespace Idle

variable {idle : α → Prop}

theorem pure {value : α} (isIdle : idle value) : Idle holding idle (Pure.pure value : Engine α) :=
  fun _ session _ => ⟨value, session, rfl, isIdle, .refl session⟩

theorem warning (warning : Warning) {next : Unit → Engine α} (later : Idle holding idle (next ())) :
    Idle holding idle (Engine.warn warning >>= next) := by
  intro board session held
  have more := Session.AlsoWarned.warned session warning
  obtain ⟨value, after, ran, isIdle, further⟩ := later board _ ((more.held_eq _).trans held)
  exact ⟨value, after, ran, isIdle, more.trans further⟩

theorem adopting {context : Context} (bears : holding.Bears context) (settings : Settings)
    {next : Context → Engine α}
    (later : Idle holding idle (next context)) :
    Idle holding idle (context.adopt settings >>= next) := by
  intro board session held
  rw [Engine.bind_of_ok (Context.adopt_of_carried (bears.carried held) board)]
  exact later board session held

end Idle

/-- The entry without the definition that it shows. -/
def MenuEntry.shown (entry : MenuEntry) : MenuEntry :=
  { entry with effect := .null }

theorem MenuEntry.label_eq_of_shown {entry other : MenuEntry} (same : other.shown = entry.shown) :
    other.label = entry.label := by
  have label := congrArg MenuEntry.label same
  exact label

/-- What is asked, with the definitions that the options of a menu show left out. -/
def Inquiry.shown : Inquiry → Inquiry
  | pick asked => pick asked
  | menu asked => menu { asked with entries := asked.entries.map MenuEntry.shown }

/-- The outcomes hold the same and ask the same; whatever an answer comes to agrees again. -/
inductive Outcome.Agrees (holding : Holding) : Outcome → Outcome → Prop
  | value (data : Value) : Agrees holding (value data) (value data)
  | card (id : CardId) : Agrees holding (card id) (card id)
  | player (index : Nat) : Agrees holding (player index) (player index)
  | ref (target : TargetRef) : Agrees holding (ref target) (ref target)
  | list {items others : List Outcome} (each : List.Forall₂ (Agrees holding) items others) :
      Agrees holding (list items) (list others)
  | keyed {fields others : Descriptors} {fits : Outcome → Outcome → Prop}
      (each : List.Forall₂ (fun field other => field.1 = other.1 ∧ fits field.2 other.2)
        fields others)
      (within : ∀ outcome other, fits outcome other → Agrees holding outcome other) :
      Agrees holding (record fields) (record others)
  | asking {inquiry otherInquiry : Inquiry} {answer other : Choice → Engine Outcome}
      {fits : Outcome → Outcome → Prop} (same : otherInquiry.shown = inquiry.shown)
      (each : ∀ choice, Agree holding fits (answer choice) (other choice))
      (within : ∀ outcome other, fits outcome other → Agrees holding outcome other) :
      Agrees holding (question inquiry answer) (question otherInquiry other)
  | handing {effect other : Effect} {fits : Outcome → Outcome → Prop}
      (each : ∀ context, holding.Bears context →
        Agree holding fits (effect context) (other context))
      (within : ∀ outcome other, fits outcome other → Agrees holding outcome other) :
      Agrees holding (callback effect) (callback other)

/-- The same keys in the same order, with payloads that agree. -/
abbrev Descriptors.Agrees (holding : Holding) : Descriptors → Descriptors → Prop :=
  List.Forall₂ fun field other => field.1 = other.1 ∧ Outcome.Agrees holding field.2 other.2

/-- The same question, whose answers agree. -/
structure Question.Agrees (holding : Holding) (question other : Question) : Prop where
  inquiry : other.inquiry.shown = question.inquiry.shown
  answer :
    ∀ choice, Agree holding (Outcome.Agrees holding) (question.answer choice) (other.answer choice)

namespace Outcome

namespace Agrees

theorem record {fields others : Descriptors} (agree : Descriptors.Agrees holding fields others) :
    Agrees holding (.record fields) (.record others) :=
  .keyed agree fun _ _ => id

theorem of_record {fields others : Descriptors}
    (agrees : Agrees holding (.record fields) (.record others)) :
    Descriptors.Agrees holding fields others := by
  cases agrees with
  | keyed each within => exact each.imp fun _ _ same => ⟨same.1, within _ _ same.2⟩

theorem descriptor {key : String} {payload other : Outcome}
    (agrees : Agrees holding payload other) :
    Agrees holding (.descriptor key payload) (.descriptor key other) :=
  .record (.cons ⟨rfl, agrees⟩ .nil)

theorem nothing : Agrees holding .nothing .nothing :=
  .record .nil

end Agrees

/-- Agreeing is a likeness, so it is kept by merging and walking. -/
def agreement (holding : Holding) : Likeness where
  alike := Agrees holding
  field here there := here.1 = there.1 ∧ Agrees holding here.2 there.2
  asked := Question.Agrees holding
  parallel := by
    rintro _ _ (data | id | index | target | each | ⟨each, within⟩ | ⟨same, each, within⟩ |
      ⟨each, within⟩)
    · exact .value data
    · exact .card id
    · exact .player index index
    · exact .ref target target
    · exact .list each
    · exact .record (Agrees.of_record (.keyed each within))
    · exact .question ⟨same, fun choice => (each choice).weaken within⟩
    · exact .callback _ _
  value := .value
  list := .list
  record := .record
  question same := .asking same.inquiry same.answer fun _ _ => id
  key_eq := And.left
  text _ content := ⟨rfl, .value (.text content)⟩
  payload _ same := same.2
  reserved _ agrees := ⟨rfl, agrees⟩
  goesOn same _ each :=
    ⟨same.inquiry, fun choice => (same.answer choice).bind fun _ _ agrees =>
      .orFail (each _ _ agrees)⟩

variable {outcome other : Outcome} {results others : List Outcome}

theorem Agrees.isTruthy_eq (agrees : Agrees holding outcome other) :
    outcome.isTruthy = other.isTruthy :=
  @Likeness.isTruthy_eq (agreement holding) _ _ agrees

theorem Agrees.orNothing (agrees : Agrees holding outcome other) :
    Agrees holding outcome.orNothing other.orNothing :=
  @Likeness.orNothing (agreement holding) _ _ agrees

/-- The outcome comes to nothing. -/
abbrev Absent (outcome : Outcome) : Prop := outcome.isTruthy = false

/-- The outcomes agree one by one, with absent ones between those of the second list. -/
abbrev Pads (holding : Holding) : List Outcome → List Outcome → Prop :=
  Padding (Agrees holding) Absent

/-- What is absent is left out. -/
theorem Pads.present (pads : Pads holding results others) :
    List.Forall₂ (Agrees holding) (results.filter isTruthy) (others.filter isTruthy) := by
  induction pads with
  | nil => exact .nil
  | keep here _ ih =>
      rw [List.filter_cons, List.filter_cons, here.isTruthy_eq]
      split
      · exact .cons here ih
      · exact ih
  | insert isAbsent _ ih =>
      rw [List.filter_cons, isAbsent]
      exact ih

theorem merge_present (results : List Outcome) :
    Outcome.merge (results.filter isTruthy) = Outcome.merge results := by
  unfold Outcome.merge
  rw [List.filter_filter]
  simp only [Bool.and_self]

theorem collect_present (results : List Outcome) :
    Outcome.collect (results.filter isTruthy) = Outcome.collect results := by
  unfold Outcome.collect
  rw [List.filter_filter]
  simp only [Bool.and_self]

theorem Pads.merge (pads : Pads holding results others) :
    Matched (Agrees holding) (Outcome.merge results) (Outcome.merge others) := by
  rw [← merge_present results, ← merge_present others]
  exact @Likeness.merge (agreement holding) _ _ pads.present

theorem Pads.collect (pads : Pads holding results others) :
    Agrees holding (Outcome.collect results) (Outcome.collect others) := by
  rw [← collect_present results, ← collect_present others]
  exact @Likeness.collect (agreement holding) _ _ pads.present

end Outcome

end CreatureCards
