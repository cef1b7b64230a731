import CreatureCards.QuotedText

/-!
# Failures

Why an effect could not be bound, resolved or answered.  Each cause says which
rule was broken; the wording that goes with the causes a card author sees is
kept here as well.
-/

namespace CreatureCards

/-- Causes that end the resolution of an effect. -/
inductive Failure where
  /-- The definition is refused; one text for each fault. -/
  | invalidDefinition (errors : List String)
  /-- The definition names an effect type that does not exist. -/
  | unknownEffect (type : String)
  /-- A card that was selected reacted by breaking off. -/
  | reaction (message : String)
  /-- An answer was given while no question was open. -/
  | nothingPending
  /-- Cards kept reacting to each other without end. -/
  | endlessReaction
  /-- A value is of a kind that the operation is not defined on. -/
  | wrongKind
  /-- Something without parts was asked for a part. -/
  | missingPart
  /-- A required field is absent. -/
  | missingField
  /-- A value is of the right kind and out of range. -/
  | badValue
  /-- A number is too large for its purpose, or a text would become too long. -/
  | tooLarge
  /-- A remainder of a division by zero was asked for. -/
  | zeroDivisor
  /-- There is no room for what would have to be kept. -/
  | noRoom
  /-- A list has no entry in this place. -/
  | missingEntry
  /-- Parameters do not fit their declared shape. -/
  | invalidShape
  deriving DecidableEq, Repr

namespace Failure

/-- The faults of a definition that is refused. -/
def faults? : Failure → Option (List String)
  | invalidDefinition errors => some errors
  | unknownEffect type => some ["Unknown effect type: " ++ quoted type]
  | _ => none

def summary (errors : List String) : String :=
  s!"Effect definition invalid with {errors.length} error(s): " ++ "; ".intercalate errors

end Failure

/-- A computation that goes on with what another one answers succeeds exactly
if both do. -/
theorem bind_eq_ok {α β : Type} {first : Except Failure α} {next : α → Except Failure β}
    {answer : β} :
    (first >>= next) = .ok answer ↔ ∃ value, first = .ok value ∧ next value = .ok answer := by
  cases first <;> simp [bind, Except.bind]

/-- Nothing follows a failure. -/
theorem throw_bind_ne_ok {α β : Type} {failure : Failure} {next : α → Except Failure β}
    {answer : β} : ¬ ((throw failure : Except Failure α) >>= next) = .ok answer := by
  simp [bind, Except.bind, throw, throwThe, MonadExceptOf.throw]

end CreatureCards
