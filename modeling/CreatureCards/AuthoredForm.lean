import CreatureCards.Condition
import CreatureCards.EffectShape
import CreatureCards.KeyedList

/-!
# Shapes in authored form

What was read against a declared shape can be written out as a value again.  The
written value is complete: it has a field for everything the shape declares, a
default where nothing was given, and the undeclared fields that a shape keeps.
Card data holds finite numbers only, so others are written as null.
-/

namespace CreatureCards

namespace Value

mutual

/-- The value with null for every number that is not finite. -/
def finite : Value → Value
  | float number => if number.isFinite then float number else null
  | list items => list (finiteItems items)
  | object fields => object (finiteFields fields)
  | other => other

def finiteItems : List Value → List Value
  | [] => []
  | item :: rest => item.finite :: finiteItems rest

def finiteFields : List (String × Value) → List (String × Value)
  | [] => []
  | (key, field) :: rest => (key, field.finite) :: finiteFields rest

end

end Value

/-- Changes of attack and health, written out. -/
def Stats.toValue (stats : Stats) : Value :=
  .object [("attack", .int stats.attack), ("health", .int stats.health)]

def DestroyShape.toValue (shape : DestroyShape) : Value :=
  .object [("target", .text shape.target)]

def AddKeywordShape.toValue (shape : AddKeywordShape) : Value :=
  .object [("keyword", .text shape.keyword), ("target", .ofText? shape.target)]

def BuffShape.toValue (shape : BuffShape) : Value :=
  .object
    [("attack", .int shape.stats.attack), ("health", .int shape.stats.health),
     ("target", .ofText? shape.target)]

def Shortcuts.fields (shortcuts : Shortcuts) : Fields :=
  [("damage", .ofInt? shortcuts.damage), ("heal", .ofInt? shortcuts.heal),
    ("kill", .bool shortcuts.kill), ("buff", shortcuts.buff.elim .null Stats.toValue),
    ("keyword", .ofText? shortcuts.keyword), ("regen", .bool shortcuts.regen),
    ("consume", .bool shortcuts.consume), ("remove_abilities", .bool shortcuts.removeAbilities),
    ("steal", .bool shortcuts.steal), ("copy_abilities", .bool shortcuts.copyAbilities),
    ("copy_stats", .bool shortcuts.copyStats),
    ("copy_abilities_from", .bool shortcuts.copyAbilitiesFrom), ("play", .bool shortcuts.play),
    ("paralyze", .bool shortcuts.paralyze), ("add_to_hand", .bool shortcuts.addToHand),
    ("sacrifice", .bool shortcuts.sacrifice), ("draw", .ofInt? shortcuts.draw),
    ("label", .ofText? shortcuts.label)]

/-- A group effect, written out; an undeclared field stands over a declared one
of its name. -/
def GroupEffect.toValue (effect : GroupEffect) : Value :=
  let nested := [("type", .ofText? effect.type), ("params", .object effect.params)]
  .object (KeyedList.putAll (effect.shortcuts.fields ++ nested) effect.extra)

def GroupShape.toValue (shape : GroupShape) : Value :=
  .object
    [("target_group", .text shape.targetGroup), ("title", .ofText? shape.title),
     ("effect", shape.effect.toValue), ("render_cards", .bool shape.renderCards)]

def OptionShape.toValue (option : OptionShape) : Value :=
  .object
    [("label", .text option.label), ("description", .text option.description),
     ("effect", option.effect)]

def MenuShape.toValue (menu : MenuShape) : Value :=
  .object
    [("title", .ofText? menu.title), ("options", .list (menu.options.map OptionShape.toValue))]

def ChoiceShape.toValue (choice : ChoiceShape) : Value :=
  .object
    [("label", .text choice.label), ("description", .text choice.description),
     ("type", .text choice.type), ("params", .object choice.params)]

def ChoiceShape.allToValue (choices : List ChoiceShape) : Value :=
  .object [("choices", .list (choices.map ChoiceShape.toValue))]

def NodeShape.toValue (node : NodeShape) : Value :=
  .object (KeyedList.putAll
    [("type", .text node.type), ("params", .object node.params)] node.extra)

def ConditionShape.toValue (node : ConditionShape) : Value :=
  .object [("type", .text node.kind.name), ("params", .object node.params)]

end CreatureCards
