import CreatureCards.Proofs.Adoption
import CreatureCards.Proofs.BrokenAnswer
import CreatureCards.Proofs.UsableDefinition

/-!
# Unusable definitions

A definition may be present and yet ask for nothing that can be done: it is no
object and no list, its type does not exist, or its parameters do not fit its
type.  Under lenient settings resolving it reports that once, tells the players
nothing and comes to nothing.

Binding overlooks that parameters may have no parts, and that a count may be
endless.  These definitions break off instead, without a report; nothing else
does.
-/

namespace CreatureCards

namespace Value

/-- The definition is present and cannot be used, for the reason that the report
gives. -/
inductive Unusable : Value → Warning → Prop
  | denied {definition : Value} (present : definition.isTruthy = true)
      (isOther : definition.isContainer = false) :
      Unusable definition (.malformed (.notDefinition definition.kindName))
  | unknown {fields : Fields} (present : fields ≠ [])
      (none : EffectKind.ofValue? ((object fields).get "type") = none) :
      Unusable (object fields) (.unknownEffect ((object fields).get "type"))
  | unfit {fields : Fields} {kind : EffectKind} {failure : Failure} (present : fields ≠ [])
      (known : EffectKind.ofValue? ((object fields).get "type") = some kind)
      (failed : Invocation.bind kind ((object fields).get "params") = .error failure) :
      Unusable (object fields) (.malformed (kind.malformation failure))

/-- What resolving the definition does not reckon with. -/
def oversight? (definition : Value) : Option Failure :=
  (EffectKind.ofValue? (definition.get "type")).bind fun kind =>
    Invocation.oversight? kind (definition.get "params")

/-- Only objects name an effect type. -/
theorem oversight?_of_not_container {definition : Value}
    (isOther : definition.isContainer = false) :
    definition.oversight? = none := by
  have nameless : definition.get "type" = null := by
    cases definition with
    | object fields => cases isOther
    | _ => rfl
  rw [oversight?, nameless]
  rfl

end Value

/-- How a definition that cannot be used is read: as unknown or malformed, unless
something was overlooked. -/
theorem Value.Unusable.reading {definition : Value} {warning : Warning}
    (unusable : definition.Unusable warning) :
    (definition.oversight? = none ∧
      ((∃ type, Reading.ofValue definition = .unknown type ∧ warning = .unknownEffect type) ∨
        ∃ cause, Reading.ofValue definition = .malformed cause ∧ warning = .malformed cause)) ∨
    ∃ failure, definition.oversight? = some failure ∧
      Reading.ofValue definition = .unreadable failure := by
  have inhabited {fields : Fields} (present : fields ≠ []) :
      (!(Value.object fields).isTruthy) = false := by
    simpa [Value.isTruthy] using present
  cases unusable with
  | denied present isOther =>
      refine .inl ⟨Value.oversight?_of_not_container isOther, .inr ⟨_, ?_, rfl⟩⟩
      have shown : (!definition.isTruthy) = false := by rw [present, Bool.not_true]
      cases definition with
      | list items => cases isOther
      | object fields => cases isOther
      | _ => simp only [Reading.ofValue, shown, Bool.false_eq_true, if_false]
  | unknown present none =>
      refine .inl ⟨?_, .inl ⟨_, ?_, rfl⟩⟩
      · rw [Value.oversight?, none, Option.bind_none]
      · rw [Reading.ofValue, inhabited present]
        simp only [Bool.false_eq_true, if_false, none]
  | @unfit fields kind failure present known failed =>
      have read : Reading.ofValue (.object fields) = .ofBinding kind (.error failure) := by
        rw [Reading.ofValue, inhabited present]
        simp only [Bool.false_eq_true, if_false, known, failed]
      rw [read, Value.oversight?, known, Option.bind_some]
      cases missed : Invocation.oversight? kind ((Value.object fields).get "params") with
      | none =>
          have foreseen := Invocation.foreseen_bind missed failure failed
          exact .inl ⟨rfl, .inr ⟨_, Reading.ofBinding_of_isForeseen kind foreseen, rfl⟩⟩
      | some overlooked =>
          have same : overlooked = failure := by
            rw [Invocation.bind_of_oversight missed] at failed
            exact Except.error.inj failed
          subst same
          have unread := Reading.ofBinding_of_oversight kind (Invocation.eq_of_oversight missed)
          exact .inr ⟨overlooked, rfl, unread⟩

theorem refuse_of_lenient {settings : Settings} (lenient : settings.strict = false)
    (failure : Failure) (warning : Warning) (board : Board) (session : Session) :
    refuse settings failure warning board session = (.ok .nothing, session.warn warning) := by
  rw [refuse, lenient]
  rfl

/-- Under lenient settings, resolving a definition that cannot be used leaves the
log and the source of random numbers as they are, in every context.  It comes to
nothing after a single report that says what is wrong with the definition; only
where binding overlooks something does it break off instead, without a report. -/
theorem unusable_definitions_are_reported_once {definition : Value} {warning : Warning}
    (unusable : definition.Unusable warning) {settings : Settings}
    (lenient : settings.strict = false) (react : Reactor) (context : Context) (board : Board)
    (session : Session) :
    ∃ answer after, resolveWith react definition settings context board session = (answer, after) ∧
      after.log = session.log ∧ after.random = session.random ∧
      (definition.oversight? = none →
        answer = .ok .nothing ∧ after.warnings = session.warnings ++ [warning]) ∧
      ∀ failure, definition.oversight? = some failure →
        answer = .error failure ∧ after.warnings = session.warnings := by
  obtain ⟨seen, reported⟩ | ⟨failure, missed, unread⟩ := unusable.reading
  · have resolved : ∃ failure, resolveWith react definition settings context = (do
        let _ ← context.adopt settings
        refuse settings failure warning) := by
      obtain ⟨type, read, rfl⟩ | ⟨cause, read, rfl⟩ := reported
      · exact ⟨_, resolveWith_of_unknown read⟩
      · exact ⟨_, resolveWith_of_malformed read⟩
    obtain ⟨failure, resolved⟩ := resolved
    obtain ⟨after, adopted, -, same⟩ := context.exists_adopted settings board session
    rw [resolved, Engine.bind_of_ok adopted, refuse_of_lenient lenient]
    refine ⟨_, _, rfl, same.log.symm, same.random.symm, fun _ => ⟨rfl, ?_⟩, fun _ missed => ?_⟩
    · rw [same.warnings]
      rfl
    · rw [seen] at missed
      cases missed
  · obtain ⟨after, adopted, -, same⟩ := context.exists_adopted settings board session
    rw [resolveWith_of_unreadable unread, Engine.bind_of_ok adopted]
    refine ⟨_, _, rfl, same.log.symm, same.random.symm, fun seen => ?_, fun _ again => ?_⟩
    · rw [missed] at seen
      cases seen
    · rw [missed] at again
      cases again
      exact ⟨rfl, same.warnings.symm⟩

/-- An effect type with its parameters. -/
def invocationOf (type : String) (params : Value) : Value :=
  .object [("params", params), ("type", .text type)]

theorem unusable_of_bind {type : String} (kind : EffectKind) {params : Value} (failure : Failure)
    (known : EffectKind.ofValue? (.text type) = some kind)
    (failed : Invocation.bind kind params = .error failure) :
    (invocationOf type params).Unusable (.malformed (kind.malformation failure)) :=
  .unfit (List.cons_ne_nil _ _) known failed

/-- Healing by no amount is reported and does nothing. -/
theorem healing_by_no_amount_is_reported_once :
    (invocationOf "heal" .null).Unusable (.malformed (.unfit "heal")) ∧
    ({} : Settings).strict = false ∧
    ∃ answer after, resolve (invocationOf "heal" .null) {} {} touchyBoard (picking touchy).session =
        (answer, after) ∧
      answer = .ok .nothing ∧ after.warnings = [.malformed (.unfit "heal")] := by
  have unusable : (invocationOf "heal" .null).Unusable (.malformed (.unfit "heal")) :=
    unusable_of_bind .heal .wrongKind rfl rfl
  have lenient : ({} : Settings).strict = false := rfl
  obtain ⟨answer, after, resolved, -, -, seen, -⟩ :=
    unusable_definitions_are_reported_once unusable lenient (reactWithin reactionPatience) {}
      touchyBoard (picking touchy).session
  exact ⟨unusable, lenient, answer, after, resolved, seen rfl⟩

/-- Effects side by side that are given as a list of names. -/
def namedEffects : Value :=
  invocationOf "composite" (.list [.text "effects"])

/-- Changes that are given as a list of numbers. -/
def listedStats : Value :=
  invocationOf "buffStats" (.list [.text "self", .list [.int 1]])

/-- Parameters that have no parts break off the resolution without a report. -/
theorem partless_definitions_break_off :
    let session := (picking touchy).session
    (namedEffects.Unusable (.malformed (EffectKind.composite.malformation .missingPart)) ∧
      resolve namedEffects {} {} touchyBoard session = (.error .missingPart, session)) ∧
    listedStats.Unusable (.malformed (EffectKind.buffStats.malformation .missingPart)) ∧
      resolve listedStats {} {} touchyBoard session = (.error .missingPart, session) := by
  intro session
  have breaksOff : Reading.ofValue namedEffects = .unreadable .missingPart := rfl
  have breaksOffAsWell : Reading.ofValue listedStats = .unreadable .missingPart := rfl
  refine ⟨⟨unusable_of_bind .composite .missingPart rfl rfl, ?_⟩,
    unusable_of_bind .buffStats .missingPart rfl rfl, ?_⟩
  · rw [resolve, resolveWith_of_unreadable breaksOff]
    rfl
  · rw [resolve, resolveWith_of_unreadable breaksOffAsWell]
    rfl

end CreatureCards
