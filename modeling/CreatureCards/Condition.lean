import CreatureCards.Shape
import CreatureCards.Targeting
import CreatureCards.ValueText

/-!
# Conditions

A conditional effect asks whether a part of the board is large enough.  The
parameters of a condition are matched to its argument without regard to whether
the key is written in one word with capitals or with underscores.
-/

namespace CreatureCards

/-- What a conditional effect may ask. -/
inductive ConditionKind where
  | hasCardsInHand
  | hasCreaturesOnField
  | opponentHasCreatures
  deriving DecidableEq, Repr

namespace ConditionKind

def name : ConditionKind → String
  | hasCardsInHand => "hasCardsInHand"
  | hasCreaturesOnField => "hasCreaturesOnField"
  | opponentHasCreatures => "opponentHasCreatures"

def all : List ConditionKind := [.hasCardsInHand, .hasCreaturesOnField, .opponentHasCreatures]

def ofValue? (value : Value) : Option ConditionKind :=
  all.find? fun kind => value.isText kind.name

end ConditionKind

/-- A reference to a condition in a definition. -/
structure ConditionShape where
  kind : ConditionKind
  params : Fields := []

def ConditionShape.read (value : Value) : Except Failure ConditionShape := do
  let fields ← Shape.fields value
  let kind ← Shape.required fields ["type"] fun type =>
    (ConditionKind.ofValue? type).elim (.error .invalidShape) .ok
  let params ← Shape.optional fields ["params"] [] Shape.fields
  return { kind, params }

/-- A condition with the least number it asks for. -/
structure Condition where
  kind : ConditionKind
  minCount : Value

namespace Condition

def argument : String := "min_count"

/-- The condition that a reference stands for, if its kind is among the
supported ones and it has no argument but the known one. -/
def build (supported : List ConditionKind) (node : Value) : Except Failure Condition := do
  let shape ← ConditionShape.read node
  if !supported.contains shape.kind then
    throw (.invalidDefinition ["Unknown condition type: " ++ quoted shape.kind.name])
  if shape.params.all fun field => snakeCase field.1 == argument then
    return ⟨shape.kind, (shape.params.getLast?.map Prod.snd).getD (.int 1)⟩
  else throw .wrongKind

def holds (condition : Condition) (context : Context) (board : Board) : Except Failure Bool :=
  match condition.kind with
  | .hasCardsInHand =>
    match context.actor board with
    | some player => condition.minCount.atMost player.hand.length
    | none => .ok false
  | .hasCreaturesOnField => condition.minCount.atMost (board.friendlyCreatures context).length
  | .opponentHasCreatures =>
    let visible := (board.enemyCreatures context).filter fun id => !(board.card id).isInvisible
    condition.minCount.atMost visible.length

end Condition

end CreatureCards
