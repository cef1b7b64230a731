import CreatureCards.Resolver

/-!
# Effects asked for directly

A game may ask for an effect without a definition: for an effect type with its
arguments, for what an option stands for, or for what happens to an object that
was already picked.
-/

namespace CreatureCards

open Engine

/-- Carries out an effect type with these arguments. -/
def carryOut (kind : EffectKind) (arguments : List Value) : Resolution :=
  fun settings context => do
    let asked ← orFail (Invocation.ofArguments kind arguments)
    let ready := asked.mapDefinitions fun nested _ => resolve nested
    ready.effect (reactWithin reactionPatience) settings context

/-- Applies an authored group effect to what was picked. -/
def applyToSelection (selection : TargetRef) (authored : Value) : Effect := fun context => do
  let effect ← orFail (GroupEffect.read (authored.orElse (.object [])))
  let nested := if effect.hasType then some (resolve effect.definition) else none
  Effect.applyGroupEffect selection effect nested context

def applyOption (authored : Value) : Effect :=
  Effect.resolveOption authored (resolve authored)

def askCondition (authored : Value) (context : Context) : Engine Bool := do
  let condition ← orFail (Condition.build ConditionKind.all authored)
  orFail (condition.holds context (← board))

end CreatureCards
