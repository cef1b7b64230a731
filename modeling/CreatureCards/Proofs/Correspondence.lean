import CreatureCards.Proofs.LikenessWalk
import CreatureCards.Proofs.Seating

/-!
# Corresponding runs

Something is done twice: in a game, and in the same game with the players seated
anew.  The runs correspond if both fail in the same way or both come to results that
fit, and leave sessions that compare.  Corresponding is closed under everything that
runs are built from.

Corresponding outcomes say the same, where the second names each player by the place
or index at which that player sits now, and their questions correspond however they
are answered.  Two kinds of descriptors are exempt: one that was written out by hand
as a whole stays as it was written, and so does one that returns a creature that has
gone astray to whoever sits first.
-/

namespace CreatureCards

/-- Keys under which a result names a player by an index. -/
@[simp]
def playerKeys : List String :=
  ["player_index", "opponent_index", "owner_index", "from_index", "to_index",
    "kill_enemy_creatures"]

/-- How a game and its counterpart compare, and what may differ in results beyond the
seats. -/
structure Correspondence where
  seating : Seating
  /-- The counterpart of the board is the same with these players. -/
  moments : Board → List Player → Prop
  sessions : Session → Session → Prop
  /-- Contexts in which something is done. -/
  acts : Context → Prop
  /-- Descriptors that are written out by hand. -/
  written : String × Outcome → Prop
  /-- Creatures that have gone astray. -/
  astray : CardId → Prop
  seats : ∀ {board players}, moments board players → seating.Seats board players
  announced : ∀ {session other}, sessions session other → ∀ message,
    sessions (session.announce message) (other.announce message)
  warned : ∀ {session other}, sessions session other → ∀ warning,
    sessions (session.warn warning) (other.warn warning)
  redrawn : ∀ {session other}, sessions session other → ∀ random,
    sessions { session with random } { other with random }
  occupied : ∀ {session other}, sessions session other → ∀ seat settings,
    sessions (session.occupy seat settings) (other.occupy seat settings)
  random : ∀ {session other}, sessions session other → other.random = session.random
  taken : ∀ {session other}, sessions session other → other.seats = session.seats
  passed : ∀ {context}, acts context → ∀ creature target resolver,
    acts { context with creature, target, resolver }
  /-- Whoever acts is known by an index, unless the first one keeps its seat. -/
  known : ∀ {context}, acts context → context.playerIndex.isSome ∨ seating.index 0 = 0

variable {c : Correspondence} {α β γ δ : Type}

namespace Correspondence

/-- Both succeed with results that fit, or both fail in the same way, and the sessions
that they leave compare. -/
structure Comes (c : Correspondence) (fits : α → β → Prop) (ran : Except Failure α × Session)
    (other : Except Failure β × Session) : Prop where
  results : Matched fits ran.1 other.1
  sessions : c.sessions ran.2 other.2

/-- The runs correspond at every moment. -/
def Runs (c : Correspondence) (fits : α → β → Prop) (running : Engine α)
    (other : Engine β) : Prop :=
  ∀ board players, c.moments board players → ∀ session counterpart, c.sessions session counterpart →
    c.Comes fits (running board session) (other { board with players } counterpart)

namespace Runs

variable {fits : α → β → Prop} {fitsNext : γ → δ → Prop}

theorem pure {value : α} {counterpart : β} (isFit : fits value counterpart) :
    c.Runs fits (Pure.pure value : Engine α) (Pure.pure counterpart : Engine β) :=
  fun _ _ _ _ _ sessions => ⟨.ok isFit, sessions⟩

theorem throw (failure : Failure) :
    c.Runs fits (MonadExcept.throw failure : Engine α) (MonadExcept.throw failure : Engine β) :=
  fun _ _ _ _ _ sessions => ⟨.failed failure, sessions⟩

theorem bind {running : Engine α} {other : Engine β} {next : α → Engine γ}
    {otherNext : β → Engine δ} (first : c.Runs fits running other)
    (each : ∀ value counterpart, fits value counterpart →
      c.Runs fitsNext (next value) (otherNext counterpart)) :
    c.Runs fitsNext (running >>= next) (other >>= otherNext) := by
  intro board players moment session counterpart sessions
  have comes := first board players moment session counterpart sessions
  obtain ⟨results, later⟩ := comes
  rcases ran : running board session with ⟨result, after⟩
  rcases ranOther : other { board with players } counterpart with ⟨resultOther, afterOther⟩
  rw [ran, ranOther] at results later
  cases results with
  | failed failure =>
      rw [Engine.bind_of_error ran, Engine.bind_of_error ranOther]
      exact ⟨.failed failure, later⟩
  | ok isFit =>
      rw [Engine.bind_of_ok ran, Engine.bind_of_ok ranOther]
      exact each _ _ isFit board players moment after afterOther later

theorem weaken {wider : α → β → Prop} {running : Engine α} {other : Engine β}
    (runs : c.Runs fits running other)
    (each : ∀ value counterpart, fits value counterpart → wider value counterpart) :
    c.Runs wider running other := by
  intro board players moment session counterpart sessions
  obtain ⟨results, later⟩ := runs board players moment session counterpart sessions
  refine ⟨?_, later⟩
  generalize (running board session).1 = result at results ⊢
  generalize (other { board with players } counterpart).1 = resultOther at results ⊢
  cases results with
  | ok isFit => exact .ok (each _ _ isFit)
  | failed failure => exact .failed failure

theorem ite {condition : Prop} [Decidable condition] {running otherwise : Engine α}
    {other otherOtherwise : Engine β} (whenTrue : condition → c.Runs fits running other)
    (whenFalse : ¬ condition → c.Runs fits otherwise otherOtherwise) :
    c.Runs fits (if condition then running else otherwise)
      (if condition then other else otherOtherwise) := by
  split
  · exact whenTrue ‹_›
  · exact whenFalse ‹_›

/-- Both look at the board of the moment. -/
theorem readingNow {next : Board → Engine α} {otherNext : Board → Engine β}
    (each : ∀ board players, c.moments board players →
      c.Runs fits (next board) (otherNext { board with players })) :
    c.Runs fits (Engine.board >>= next) (Engine.board >>= otherNext) :=
  fun board players moment session counterpart sessions =>
    each board players moment board players moment session counterpart sessions

theorem reading {next : Board → Engine α} {otherNext : Board → Engine β}
    (each : ∀ board players, c.seating.Seats board players →
      c.Runs fits (next board) (otherNext { board with players })) :
    c.Runs fits (Engine.board >>= next) (Engine.board >>= otherNext) :=
  .readingNow fun board players moment => each board players (c.seats moment)

theorem announced (message : String) :
    c.Runs (fun _ _ => True) (Engine.announce message) (Engine.announce message) :=
  fun _ _ _ _ _ sessions => ⟨.ok trivial, c.announced sessions message⟩

theorem warned (warning : Warning) :
    c.Runs (fun _ _ => True) (Engine.warn warning) (Engine.warn warning) :=
  fun _ _ _ _ _ sessions => ⟨.ok trivial, c.warned sessions warning⟩

/-- Both tell the same. -/
theorem telling {message : String} {next : Unit → Engine α} {otherNext : Unit → Engine β}
    (later : c.Runs fits (next ()) (otherNext ())) :
    c.Runs fits (Engine.announce message >>= next) (Engine.announce message >>= otherNext) :=
  (announced message).bind fun _ _ _ => later

theorem draw (bound : Int) :
    c.Runs (fun number other => other = number) (Engine.draw bound) (Engine.draw bound) := by
  intro board players moment session counterpart sessions
  rw [Engine.draw_eq, Engine.draw_eq, c.random sessions]
  cases session.random.draw bound with
  | error failure => exact ⟨.failed failure, sessions⟩
  | ok drawn => exact ⟨.ok rfl, c.redrawn sessions drawn.2⟩

theorem orFail {made : Except Failure α} {other : Except Failure β}
    (matched : Matched fits made other) :
    c.Runs fits (Engine.orFail made) (Engine.orFail other) := by
  cases matched with
  | ok isFit => exact .pure isFit
  | failed failure => exact .throw failure

/-- Both go on with the same, if it is there. -/
theorem orFailSame {made : Except Failure γ} {next : γ → Engine α} {otherNext : γ → Engine β}
    (each : ∀ value, c.Runs fits (next value) (otherNext value)) :
    c.Runs fits (Engine.orFail made >>= next) (Engine.orFail made >>= otherNext) := by
  have same : Matched (fun value other => other = value) made made := .refl fun _ _ => rfl
  refine (orFail same).bind fun value other isSame => ?_
  rw [isSame]
  exact each value

theorem requireSame {found : Option γ} {next : γ → Engine α} {otherNext : γ → Engine β}
    (each : ∀ value, c.Runs fits (next value) (otherNext value)) :
    c.Runs fits (Engine.require found >>= next) (Engine.require found >>= otherNext) := by
  cases found with
  | none => exact .throw _
  | some value => exact each value

theorem mapM {entries : List γ} {others : List δ} {run : γ → Engine α} {otherRun : δ → Engine β}
    (each : List.Forall₂ (fun entry other => c.Runs fits (run entry) (otherRun other))
      entries others) :
    c.Runs (List.Forall₂ fits) (entries.mapM run) (others.mapM otherRun) := by
  induction each with
  | nil => exact .pure .nil
  | cons here _ ih =>
      rw [List.mapM_cons, List.mapM_cons]
      exact here.bind fun _ _ isFit => ih.bind fun _ _ areFit => .pure (.cons isFit areFit)

theorem forM {entries : List γ} {others : List δ} {run : γ → Engine Unit}
    {otherRun : δ → Engine Unit}
    (each : List.Forall₂ (fun entry other => c.Runs (fun _ _ => True) (run entry) (otherRun other))
      entries others) :
    c.Runs (fun _ _ => True) (entries.forM run) (others.forM otherRun) := by
  induction each with
  | nil => exact .pure trivial
  | cons here _ ih => exact here.bind fun _ _ _ => ih

section Contexts

variable {context : Context}

theorem carried_eq {session other : Session} (sessions : c.sessions session other) :
    (context.reseated c.seating).carried other = context.carried session := by
  unfold Context.carried Context.reseated Session.seated
  rw [c.taken sessions]

/-- The settings that the contexts find. -/
theorem settings : c.Runs (fun found other => other = found) context.settings
    (context.reseated c.seating).settings := by
  intro board players moment session counterpart sessions
  have found : ((context.reseated c.seating).carried counterpart).getD {} =
      (context.carried session).getD {} := by rw [carried_eq sessions]
  exact ⟨.ok found, sessions⟩

/-- A derived context, seated anew. -/
theorem derived (acting : c.acts context) :
    c.Runs (fun derived other => other = derived.reseated c.seating ∧ c.acts derived)
      context.derived
      (context.reseated c.seating).derived := by
  intro board players moment session counterpart sessions
  have settled : (context.reseated c.seating).settled counterpart =
      (context.settled session).reseated c.seating := by
    rw [Context.settled, carried_eq sessions]
    rfl
  exact ⟨.ok ⟨settled, c.passed acting _ _ _⟩, sessions⟩

/-- A context that a resolver began to work on, seated anew. -/
theorem adopt (acting : c.acts context) (settings : Settings) :
    c.Runs (fun adopted other => other = adopted.reseated c.seating ∧ c.acts adopted)
      (context.adopt settings) ((context.reseated c.seating).adopt settings) := by
  intro board players moment session counterpart sessions
  cases resolver : context.resolver with
  | taken own =>
      have seated : (context.reseated c.seating).resolver = .taken own := resolver
      unfold Context.adopt
      rw [resolver, seated]
      exact ⟨.ok ⟨rfl, acting⟩, sessions⟩
  | vacant =>
      have seated : (context.reseated c.seating).resolver = .vacant := resolver
      unfold Context.adopt
      rw [resolver, seated]
      exact ⟨.ok ⟨rfl, c.passed acting _ _ _⟩, sessions⟩
  | shared place =>
      have shared : (context.reseated c.seating).resolver = .shared place := resolver
      have seated : counterpart.seated place = session.seated place := by
        rw [Session.seated, c.taken sessions, Session.seated]
      rw [Context.adopt_of_shared resolver, Context.adopt_of_shared shared, seated]
      cases session.seated place with
      | none => exact ⟨.ok ⟨rfl, acting⟩, c.occupied sessions place settings⟩
      | some held => exact ⟨.ok ⟨rfl, acting⟩, sessions⟩

end Contexts

end Runs

/-- How the same field of two results compares. -/
inductive Field (c : Correspondence) (fits : Outcome → Outcome → Prop) :
    String × Outcome → String × Outcome → Prop
  /-- An index stands only under keys that are for players. -/
  | plain {key : String} {payload other : Outcome}
      (isOther : key ∈ playerKeys → ∀ number, payload ≠ .int number) (isFit : fits payload other) :
      Field c fits (key, payload) (key, other)
  | index {key : String} (isKey : key ∈ playerKeys) (number : Option Int) :
      Field c fits (key, .index number) (key, .index (number.map c.seating.index))
  | written {key : String} {payload : Outcome} (isOther : key ∉ reservedKeys)
      (isWritten : c.written (key, payload)) : Field c fits (key, payload) (key, payload)
  | astray {creature : CardId} (isAstray : c.astray creature) :
      Field c fits
        ("return_to_hand", .record [("creatures", .cards [creature]), ("player_index", .int 0)])
        ("return_to_hand", .record [("creatures", .cards [creature]), ("player_index", .int 0)])

/-- The same candidates, found in advance or when the pick is shown. -/
inductive Sources (c : Correspondence) : CandidateSource → CandidateSource → Prop
  | listed (candidates : List Candidate) :
      Sources c (.listed candidates) (.listed (candidates.map (Candidate.reseated c.seating)))
  | produced {candidates others : Board → Except Failure (List Candidate)}
      (each : ∀ board players, c.moments board players →
        others { board with players } =
          (candidates board).map (List.map (Candidate.reseated c.seating))) :
      Sources c (.produced candidates) (.produced others)

/-- The same is asked, of the same player. -/
inductive Inquiries (c : Correspondence) : Inquiry → Inquiry → Prop
  | pick {asked other : Pick} (sources : c.Sources asked.source other.source)
      (same : other = { asked with
        source := other.source
        selectingPlayer := asked.selectingPlayer.map c.seating.index }) :
      Inquiries c (.pick asked) (.pick other)
  | menu (asked : Menu) : Inquiries c (.menu asked) (.menu asked)

end Correspondence

/-- The outcomes say the same with the players seated anew. -/
inductive Outcome.Corresponds (c : Correspondence) : Outcome → Outcome → Prop
  | value (data : Value) : Corresponds c (value data) (value data)
  | card (id : CardId) : Corresponds c (card id) (card id)
  | player (place : Nat) : Corresponds c (player place) (player (c.seating.place place))
  | ref (target : TargetRef) : Corresponds c (ref target) (ref (target.reseated c.seating))
  | list {items others : List Outcome} (each : List.Forall₂ (Corresponds c) items others) :
      Corresponds c (list items) (list others)
  | keyed {fields others : Descriptors} {fits : Outcome → Outcome → Prop}
      (each : List.Forall₂ (c.Field fits) fields others)
      (within : ∀ outcome other, fits outcome other → Corresponds c outcome other) :
      Corresponds c (record fields) (record others)
  | asking {inquiry otherInquiry : Inquiry} {answer other : Choice → Engine Outcome}
      {fits : Outcome → Outcome → Prop} (same : c.Inquiries inquiry otherInquiry)
      (each : ∀ choice, c.Runs fits (answer choice) (other (choice.reseated c.seating)))
      (within : ∀ outcome other, fits outcome other → Corresponds c outcome other) :
      Corresponds c (question inquiry answer) (question otherInquiry other)
  | handing {effect other : Effect} {fits : Outcome → Outcome → Prop}
      (each : ∀ context, c.acts context →
        c.Runs fits (effect context) (other (context.reseated c.seating)))
      (within : ∀ outcome other, fits outcome other → Corresponds c outcome other) :
      Corresponds c (callback effect) (callback other)

/-- The same question, whose answers correspond. -/
structure Question.Corresponds (c : Correspondence) (question other : Question) : Prop where
  inquiry : c.Inquiries question.inquiry other.inquiry
  answer : ∀ choice, c.Runs (Outcome.Corresponds c) (question.answer choice)
    (other.answer (choice.reseated c.seating))

namespace Correspondence

theorem Field.imp {fits wider : Outcome → Outcome → Prop} {here there : String × Outcome}
    (field : c.Field fits here there)
    (each : ∀ outcome other, fits outcome other → wider outcome other) :
    c.Field wider here there := by
  cases field with
  | plain isOther isFit => exact .plain isOther (each _ _ isFit)
  | index isKey number => exact .index isKey number
  | written isOther isWritten => exact .written isOther isWritten
  | astray isAstray => exact .astray isAstray

theorem Field.key_eq {fits : Outcome → Outcome → Prop} {here there : String × Outcome}
    (field : c.Field fits here there) : here.1 = there.1 := by
  cases field <;> rfl

/-- What merging looks into names no player. -/
theorem not_mem_playerKeys {key : String} (isReserved : key ∈ reservedKeys) :
    key ∉ playerKeys ∧ key ≠ "return_to_hand" := by
  simp only [reservedKeys, compositeKey, chainKeys, questionKeys, pendingKey, List.cons_append,
    List.nil_append, List.mem_cons, List.not_mem_nil, or_false] at isReserved
  rcases isReserved with rfl | rfl | rfl | rfl <;> simp

/-- Corresponding is a likeness, so it is kept by merging and walking. -/
def likeness (c : Correspondence) : Likeness where
  alike := Outcome.Corresponds c
  field := c.Field (Outcome.Corresponds c)
  asked := Question.Corresponds c
  parallel := by
    rintro _ _ (data | id | place | target | each | ⟨each, within⟩ | ⟨same, each, within⟩ |
      ⟨each, within⟩)
    · exact .value data
    · exact .card id
    · exact .player place _
    · exact .ref target _
    · exact .list each
    · exact .record (each.imp fun _ _ field => field.imp within)
    · exact .question ⟨same, fun choice => (each choice).weaken within⟩
    · exact .callback _ _
  value := .value
  list := .list
  record each := .keyed each fun _ _ => id
  question same := .asking same.inquiry same.answer fun _ _ => id
  key_eq := Field.key_eq
  text key content := .plain (fun _ _ isInt => by cases isInt) (.value (.text content))
  payload isReserved field := by
    obtain ⟨isNone, isOther⟩ := not_mem_playerKeys isReserved
    cases field with
    | plain _ isFit => exact isFit
    | index isKey => exact absurd isKey isNone
    | written isUnreserved => exact absurd isReserved isUnreserved
    | astray => exact absurd rfl isOther
  reserved isReserved alike :=
    .plain (fun isKey => absurd isKey (not_mem_playerKeys isReserved).1) alike
  goesOn same _ each :=
    ⟨same.inquiry, fun choice => (same.answer choice).bind fun _ _ alike =>
      .orFail (each _ _ alike)⟩

end Correspondence

end CreatureCards
