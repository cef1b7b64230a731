import CreatureCards.EffectShape
import CreatureCards.Parameter

/-!
# Building definitions

Builders for definitions that are needed often.  They are called with arguments
by position and by name; each argument has to be given once, unless it has a
default, and arguments that no builder knows are either refused or become
parameters.
-/

namespace CreatureCards

/-- A builder of definitions. -/
inductive DefinitionBuilder where
  /-- Any effect type with any parameters. -/
  | node
  | heal
  | draw
  | selectFromGroup
  /-- A conditional effect; further arguments go to its condition. -/
  | conditional
  deriving DecidableEq, Repr

namespace DefinitionBuilder

def parameters : DefinitionBuilder → List Formal
  | node => [.required "effect_type"]
  | heal => [.required "amount"]
  | draw => [.required "count"]
  | selectFromGroup => [.required "target_group", .required "effect", .optional "title" .null]
  | conditional => [.required "condition", .required "if_true", .optional "if_false" .null]

/-- The builder takes arguments under any name. -/
def isOpen : DefinitionBuilder → Bool
  | node | conditional => true
  | _ => false

/-- One value for each parameter, taken by position as long as there are values
and by name from then on. -/
def assign (named : Fields) : List Formal → List Value → Except Failure (List Value)
  | [], [] => .ok []
  | [], _ :: _ => .error .wrongKind
  | parameter :: rest, value :: values =>
    if (named.lookup parameter.name).isSome then .error .wrongKind
    else do return value :: (← assign named rest values)
  | parameter :: rest, [] =>
    match named.lookup parameter.name <|> parameter.fallback? with
    | some value => do return value :: (← assign named rest [])
    | none => .error .wrongKind

def groupDefinition (group effect title : Value) : Value :=
  Value.definition (.text EffectKind.selectFromGroup.name)
    ([("targetGroup", group), ("effect", effect)] ++
      if title.isTruthy then [("title", title)] else [])

def conditionalDefinition (condition whenTrue whenFalse : Value) (params : Fields) : Value :=
  let otherwise := match whenFalse with
    | .null => []
    | given => [("effectIfFalse", given)]
  Value.definition (.text EffectKind.conditional.name)
    ([("condition", Value.definition condition params), ("effectIfTrue", whenTrue)] ++ otherwise)

def build (builder : DefinitionBuilder) (values : List Value) (named : Fields) :
    Except Failure Value := do
  let known := builder.parameters.map Formal.name
  let further := named.filter fun field => !known.contains field.1
  if !further.isEmpty && !builder.isOpen then throw .wrongKind
  match builder, ← assign named builder.parameters values with
  | node, [type] => return Value.definition type further
  | heal, [amount] =>
    return Value.definition (.text EffectKind.heal.name) [("amount", amount)]
  | draw, [count] => return Value.definition (.text EffectKind.draw.name) [("count", count)]
  | selectFromGroup, [group, effect, title] => return groupDefinition group effect title
  | conditional, [condition, whenTrue, whenFalse] =>
    return conditionalDefinition condition whenTrue whenFalse further
  | _, _ => throw .wrongKind

end DefinitionBuilder

end CreatureCards
