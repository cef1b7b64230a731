import CreatureCards.Resolver

/-!
# Card triggers

A card keeps effect definitions under triggers.  Resolving one of them is the
outermost boundary: whatever breaks off the effect of a card is reported and
comes to no outcome, so a single broken card does not stop the game.
-/

namespace CreatureCards

/-- When an effect definition of a card is resolved. -/
inductive EffectTrigger where
  | onPlay
  | onConsume
  | onSlain
  | onDefend
  | onStart
  | onEnd
  | onBeforeCombat
  | onAfterCombat
  | effect
  | discardEffect
  | sacrificeEffect
  | attackReplacement
  | onFriendlySpellPlayed
  | onFriendlyCreatureDies
  deriving DecidableEq, Repr

namespace EffectTrigger

def name : EffectTrigger → String
  | onPlay => "onPlay"
  | onConsume => "onConsume"
  | onSlain => "onSlain"
  | onDefend => "onDefend"
  | onStart => "onStart"
  | onEnd => "onEnd"
  | onBeforeCombat => "onBeforeCombat"
  | onAfterCombat => "onAfterCombat"
  | effect => "effect"
  | discardEffect => "discardEffect"
  | sacrificeEffect => "sacrificeEffect"
  | attackReplacement => "attackReplacement"
  | onFriendlySpellPlayed => "onFriendlySpellPlayed"
  | onFriendlyCreatureDies => "onFriendlyCreatureDies"

def all : List EffectTrigger :=
  [.onPlay, .onConsume, .onSlain, .onDefend, .onStart, .onEnd, .onBeforeCombat,
    .onAfterCombat, .effect, .discardEffect, .sacrificeEffect, .attackReplacement,
    .onFriendlySpellPlayed, .onFriendlyCreatureDies]

end EffectTrigger

namespace Card

/-- The definition under a trigger, null if there is none. -/
def definition (card : Card) (trigger : String) : Value :=
  (card.effects.lookup trigger).getD .null

def hasEffect (card : Card) (trigger : String) : Bool :=
  (card.definition trigger).isTruthy

def triggers (card : Card) : List String :=
  (card.effects.filter fun field => field.2.isTruthy).map Prod.fst

/-- Effects of the card may be resolved. -/
def isResponsive (card : Card) : Bool :=
  !card.abilitiesCancelled && card.abilitiesActive

end Card

/-- Resolves the definition of a card under a trigger, with the given settings
or else those of the context.  There is no outcome if the card may not act, has
no definition there, or broke off. -/
def resolveCardEffect (id : CardId) (trigger : String) (given : Option Settings)
    (context : Context) : Engine (Option Outcome) := do
  let card := (← Engine.board).card id
  let definition := card.definition trigger
  if !card.isResponsive || !definition.isTruthy then return none
  if !definition.isContainer then
    Engine.warn (.invalidCardEffect card.title trigger definition)
    return none
  let settings ← match given with
    | some settings => pure settings
    | none => context.settings
  try
    return some (← resolve definition settings context)
  catch _ =>
    Engine.warn (.cardEffectFailed card.title trigger)
    return none

end CreatureCards
