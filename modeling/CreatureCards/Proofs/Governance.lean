import CreatureCards.Proofs.AlikeResolution
import CreatureCards.Proofs.BrokenAnswer
import CreatureCards.Proofs.UnusableDefinition

/-!
# Which settings govern nested definitions

A resolver works under its own settings, while the context that it is given may
carry others.  Here both are handed down with the nesting: the definitions that an
invocation nests are resolved under the settings that govern it, and nothing else
is looked up.  This comes to the same as resolving, at once and in every answer
that is given later.
-/

namespace CreatureCards

open Engine

/-- What a definition comes to under a resolver's own settings, with those that the
context carries handed down beside them. -/
def governed (react : Reactor) (carried own : Settings) (definition : Value) : Effect :=
  fun context => do
  match _ : Reading.ofValue definition with
  | .nothing => return .nothing
  | .sequence definitions =>
    let outcomes ← definitions.attach.mapM fun ⟨nested, _⟩ =>
      governed react carried own nested context
    orFail (Outcome.merge outcomes)
  | .invocation asked =>
    let ready := asked.mapDefinitions fun nested _ _ =>
      governed react carried (asked.governing own carried) nested
    return (← ready.effect react own context).orNothing
  | .unknown type => refuseUnknown own type
  | .malformed cause => refuseMalformed own cause
  | .unreadable failure => throw failure
termination_by definition.depth
decreasing_by
  all_goals
    apply depth_lt_of_mem_definitions
    rw [‹Reading.ofValue definition = _›]
    assumption

theorem Settings.Matches.refl (settings : Settings) : settings.Matches false settings where
  strict := (Bool.or_false _).symm
  lenient := fun never => nomatch never
  maxScaledDraw := rfl
  revealHandDuration := rfl

/-- The settings on a seat are those that are handed over. -/
def Pairing.handing (seat : ResolverSeat) (carried : Settings) : Pairing :=
  ⟨seat, .taken carried, carried, carried, false, .refl carried⟩

/-- Two runs came to the same, and so does whatever is answered to it afterwards. -/
structure SameThroughout (pairing : Pairing) (run other : Except Failure Outcome × Session) :
    Prop where
  here : ComesToSame run other
  sessions : pairing.Sessions run.2 other.2
  answers : Matched (Outcome.Alike pairing) run.1 other.1

theorem Accord.sameThroughout {pairing : Pairing} (whole : pairing.parts = false) {before : Session}
    {run other : Except Failure Outcome × Session}
    (accord : Accord pairing (Outcome.Alike pairing) before run other) :
    SameThroughout pairing run other := by
  cases accord with
  | ok _ sessions alike =>
      exact ⟨⟨Matched.seen_eq (.ok alike), sessions.records⟩, sessions, .ok alike⟩
  | @failed failure _ _ _ sessions _ =>
      have failed : Matched (Outcome.Alike pairing) (.error failure) (.error failure) :=
        .failed failure
      exact ⟨⟨failed.seen_eq, sessions.records⟩, sessions, failed⟩
  | parted parts _ _ _ _ =>
      rw [whole] at parts
      cases parts

section Handing

variable {α β : Type} {pairing : Pairing} {fits : α → β → Prop} {context counterpart : Context}
  {react : Reactor} {carried own : Settings} {definition : Value} {seat : ResolverSeat}

/-- A context that carries a resolver is taken as it is. -/
theorem Accords.adopting (contexts : pairing.Contexts context counterpart) (settings : Settings)
    {next : Context → Engine α} {other : Engine β}
    (later : Accords pairing fits (next context) other) :
    Accords pairing fits (context.adopt settings >>= next) other := by
  intro board session partner sessions
  have adopted : context.adopt settings board session = (.ok context, session) :=
    Context.adopt_of_carried (contexts.carried sessions) board
  rw [bind_of_ok adopted]
  exact later board session partner sessions

/-- Resolving is in accord with what is handed down. -/
theorem accords_governed (definition : Value) (own : Settings)
    (reacts : react.Accords (.handing seat carried) react) :
    Effect.Accords (.handing seat carried) (resolveWith react definition own)
      (governed react carried own definition) := by
  intro context counterpart contexts
  rw [governed]
  split
  · rename_i read
    rw [resolveWith_of_nothing read]
    exact .adopting contexts own (.pure .nothing)
  · rename_i definitions read
    have listed :
        (definitions.attach.mapM fun ⟨nested, _⟩ => governed react carried own nested counterpart) =
        definitions.mapM fun nested => governed react carried own nested counterpart := by simp
    rw [resolveWith_of_sequence read, listed]
    refine .adopting contexts own ((Accords.mapM (List.forall₂_same.2 fun nested member => ?_)).bind
      fun _ _ alike => .merge alike)
    exact accords_governed nested own reacts context counterpart contexts
  · rename_i asked read
    rw [resolveWith_of_invocation read]
    refine .adopting contexts own (.orNothing ?_)
    refine Invocation.accords_effect reacts asked
      (fun nested member => ?_) context counterpart contexts
    exact accords_governed nested (asked.governing own carried) reacts
  · rename_i type read
    rw [resolveWith_of_unknown read]
    exact .adopting contexts own (.refuseUnknown (.refl own) type)
  · rename_i cause read
    rw [resolveWith_of_malformed read]
    exact .adopting contexts own (.refuseMalformed (.refl own) cause)
  · rename_i failure read
    rw [resolveWith_of_unreadable read]
    exact .adopting contexts own (.throw fun _ => Reading.not_refuses_of_unreadable read)
termination_by definition.depth
decreasing_by
  all_goals
    apply depth_lt_of_mem_definitions
    rw [‹Reading.ofValue definition = _›]
    assumption

end Handing

/-- The settings that govern a definition are handed down with the nesting: its own to
what is nested in lists, in effects side by side, repeated or conditional ones and in
what follows a selected target or a consumed card, and those that the context carries to
what is nested in menus and picks from target groups.  A context that belongs to the
resolver carries the resolver's own, so then these govern everything. -/
theorem nested_definitions_follow_their_governing_settings (definition : Value)
    (settings : Settings) (context : Context) (board : Board) (session : Session) :
    let carried := (context.carried session).getD settings
    let handed := { context with resolver := .taken carried }
    SameThroughout (.handing (context.resolver.takenBy settings) carried)
      (resolve definition settings context board session)
      (governed (reactWithin reactionPatience) carried settings definition handed board session) ∧
    (context.BelongsTo settings session →
      carried = settings ∧ ∀ asked : Invocation Value,
        asked.governing settings carried = settings) := by
  intro carried handed
  refine ⟨?_, fun belongs => ?_⟩
  · obtain ⟨after, adopted, held, kept⟩ := context.exists_adopted settings board session
    let pairing : Pairing := .handing (context.resolver.takenBy settings) carried
    have sessions : pairing.Sessions after session := ⟨kept.symm, held, rfl⟩
    have contexts : pairing.Contexts { context with resolver := pairing.seat } handed :=
      ⟨rfl, .inl rfl, .inl rfl⟩
    have accord :=
      accords_governed definition settings (accords_reactWithin reactionPatience) _ _ contexts
      board after session sessions
    rw [resolve, resolveWith_of_adopted adopted (Context.adopt_of_carried held board)]
    exact accord.sameThroughout rfl
  · have same : carried = settings := belongs.getD_carried
    refine ⟨same, fun asked => ?_⟩
    rw [same, asked.governing_self]

/-- A single choice, of an effect type that does not exist. -/
def unknownChoice : Value :=
  invocationOf "choice"
    (.object [("choices", .list [.object [("label", .text "x"), ("type", .text "bogus")]])])

/-- The nested choice in a context that carries no resolver is governed by the strict one that
the context is given to. -/
theorem vacant_contexts_are_governed_by_the_resolver :
    let strictly : Settings := { strict := true }
    let session := (default : Moment).session
    let asked : Invocation Value :=
      .choice [({ label := "x", type := "bogus" }, .definition (.text "bogus") [])]
    Reading.ofValue unknownChoice = .invocation asked ∧
    ({} : Context).BelongsTo strictly session ∧
    SameThroughout (.handing (.taken strictly) strictly)
      (resolve unknownChoice strictly {} touchyBoard session)
      (governed (reactWithin reactionPatience) strictly strictly unknownChoice
        { resolver := .taken strictly } touchyBoard session) ∧
    ((({} : Context).carried session).getD strictly) = strictly ∧
    asked.governing strictly strictly = strictly := by
  intro strictly session asked
  have belongs : ({} : Context).BelongsTo strictly session := .inl rfl
  obtain ⟨governs, owns⟩ := nested_definitions_follow_their_governing_settings unknownChoice
    strictly {} touchyBoard session
  obtain ⟨carried, governed⟩ := owns belongs
  exact ⟨rfl, belongs, governs, carried, governed asked⟩

/-- Whatever a resolver's own settings are, those that the context carries decide what
becomes of an unknown choice. -/
theorem resolve_unknownChoice (settings carried : Settings) :
    resolve unknownChoice settings { resolver := .taken carried } = (do
      announce "x"
      return (← refuseUnknown carried (.text "bogus")).orNothing) := by
  let nested := Value.definition (.text "bogus") []
  have read : Reading.ofValue unknownChoice =
      .invocation (.choice [({ label := "x", type := "bogus" }, nested)]) := rfl
  have unknown : Reading.ofValue nested = .unknown (.text "bogus") := rfl
  have refused : (Resolution.withOwnResolver (resolveWith (reactWithin reactionPatience) nested))
      { resolver := .taken carried } = refuseUnknown carried (.text "bogus") := by
    rw [Resolution.withOwnResolver]
    simp only [resolveWith_of_unknown unknown]
    rfl
  rw [resolve, resolveWith_of_invocation read, ← refused]
  rfl

/-- A strict resolver that is given a context of a lenient one lets the choice pass,
although it refuses it in a context of its own. -/
theorem strict_resolvers_pass_choices_of_lenient_contexts :
    let strictly : Settings := { strict := true }
    let session := (default : Moment).session
    (resolve unknownChoice strictly { resolver := .taken {} } touchyBoard session).1 =
      .ok .nothing ∧
    (resolve unknownChoice strictly { resolver := .taken strictly } touchyBoard session).1 =
      .error (.unknownEffect "bogus") := by
  intro strictly session
  rw [resolve_unknownChoice, resolve_unknownChoice]
  exact ⟨rfl, rfl⟩

end CreatureCards
