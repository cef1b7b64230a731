import CreatureCards.EffectRule
import CreatureCards.GroupPick
import CreatureCards.OptionEffect
import CreatureCards.OutcomeMerge
import CreatureCards.Reading
import CreatureCards.ScriptedOutcome

/-!
# Resolving definitions

A definition is read and turned into an outcome.  The definitions of a list are
resolved in order and merged; an effect type does what its invocation says, with
the nested definitions resolved when their turn comes.  A definition that cannot
be used is reported and does nothing, or is refused under strict settings.

Resolving goes down in depth, so it ends unless cards react to each other
without end; a chain of reactions is cut off when it is longer than any game
needs.
-/

namespace CreatureCards

open Engine

/-- Reports a definition that cannot be used, or refuses it. -/
def refuse (settings : Settings) (failure : Failure) (warning : Warning) : Engine Outcome := do
  if settings.strict then throw failure
  warn warning
  return .nothing

def refuseUnknown (settings : Settings) (type : Value) : Engine Outcome :=
  refuse settings (.unknownEffect type.plainForm) (.unknownEffect type)

def refuseMalformed (settings : Settings) (cause : Malformation) : Engine Outcome :=
  refuse settings (.invalidDefinition [cause.text]) (.malformed cause)

namespace Effect

/-- Several effects in the same context, side by side. -/
def composite (effects : List Effect) : Effect := fun context => do
  return .collect (← effects.mapM fun effect => effect context)

def conditional (condition : Condition) (whenTrue : Effect) (whenFalse : Option Effect) :
    Effect := fun context => do
  if ← orFail (condition.holds context (← board)) then whenTrue context
  else match whenFalse with
    | some effect => effect context
    | none => return .nothing

end Effect

/-- What an invocation does, given what becomes of its nested definitions. -/
def Invocation.effect (react : Reactor) (settings : Settings) : Invocation Resolution → Effect
  | direct kind arguments => kind.rule react fun place => arguments.getD place .null
  | buffStats targetType attack health => Effect.buffStats targetType attack health
  | selectForBuff preyOnly stats => Effect.selectForBuff react preyOnly stats
  | destroy shape => Effect.destroy shape
  | addKeyword shape => Effect.addKeyword shape
  | buff shape => Effect.buff shape
  | composite effects => Effect.composite (effects.map fun nested => nested settings)
  | repeated nested count => Effect.composite (List.replicate count.toNat (nested settings))
  | conditional condition whenTrue whenFalse =>
    Effect.conditional condition (whenTrue settings) (whenFalse.map fun nested => nested settings)
  | selectTarget pool nested => Effect.selectTarget pool (nested settings)
  | selectConsume cardType count nested =>
    Effect.selectConsume cardType count
      (nested.elim .null fun nested => .callback (nested settings))
  | selectTargetIdly pool => Effect.selectTarget pool fun _ => throw .wrongKind
  | selectConsumeNoting cardType count note => Effect.selectConsume cardType count (.value note)
  | selectFromGroup shape nested => Effect.selectFromGroup react shape nested
  | chooseOption title options => Effect.chooseOption title options
  | choice choices => Effect.chooseDefinition choices

/-- Resolves a definition among cards that react as given. -/
def resolveWith (react : Reactor) (definition : Value) : Resolution := fun settings context => do
  let context ← context.adopt settings
  match _ : Reading.ofValue definition with
  | .nothing => return .nothing
  | .sequence definitions =>
    let outcomes ← definitions.attach.mapM fun ⟨nested, _⟩ =>
      resolveWith react nested settings context
    orFail (Outcome.merge outcomes)
  | .invocation asked =>
    let ready := asked.mapDefinitions fun nested _ => resolveWith react nested
    return (← ready.effect react settings context).orNothing
  | .unknown type => refuseUnknown settings type
  | .malformed cause => refuseMalformed settings cause
  | .unreadable failure => throw failure
termination_by definition.depth
decreasing_by
  all_goals
    apply depth_lt_of_mem_definitions
    rw [‹Reading.ofValue definition = _›]
    assumption

def Target.outcome : Target → Outcome
  | card id => .card id
  | ref reference => .ref reference

/-- The answer of a card that tells who selected it. -/
def echo (context : Context) : Outcome :=
  .descriptor "echo" (.record
    [("target", context.target.elim .null Target.outcome), ("creature", .card? context.creature)])

/-- How cards react as long as the chain of reactions has not used up the
patience. -/
def reactWithin : (patience : Nat) → Reactor
  | 0, id, _ => do
    if ((← board).card id).reaction.isSome then throw .endlessReaction
    return .null
  | patience + 1, id, context => do
    match ((← board).card id).reaction with
    | none => return .null
    | some (.fail message) => throw (.reaction message)
    | some (.resolve definition) =>
      Resolution.withOwnResolver (resolveWith (reactWithin patience) definition) context
    | some .echo => return echo context
    | some (.answer script) => return script.outcome

/-- The length of the longest chain of reactions that is followed. -/
def reactionPatience : Nat := 256

def resolve (definition : Value) : Resolution :=
  resolveWith (reactWithin reactionPatience) definition

end CreatureCards
