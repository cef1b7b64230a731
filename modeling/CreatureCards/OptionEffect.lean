import CreatureCards.EffectShape
import CreatureCards.CreatureEffect
import CreatureCards.PlayerEffect

/-!
# Menus

A menu offers labelled options; a single option is taken without asking.  The
effect of an option may be a shortcut that stands for a descriptor, a definition
or list of definitions, or a result that is passed on as it is.
-/

namespace CreatureCards

open Engine

namespace Effect

/-- What an authored option asks for. -/
def resolveOption (effect : Value) (nested : Resolution) : Effect := fun context => do
  match effect with
  | .list items => if items.isEmpty then return .nothing else nested.withOwnResolver context
  | .object fields =>
    let tokens := effect.get "summonTokens"
    let buff := effect.get "buff"
    let heal := effect.get "heal"
    let draw := effect.get "draw"
    let damage := effect.get "damage"
    if fields.isEmpty then return .nothing
    else if tokens.isTruthy then summonTokens tokens context
    else if buff.isTruthy && context.creature.isSome then
      match buff, context.creature with
      | .object stats, some creature =>
        gainStats ((stats.lookup "attack").getD (.int 0)) ((stats.lookup "health").getD (.int 0))
          creature
      | _, _ => throw .missingPart
    else if heal.isTruthy then Effect.heal heal context
    else if draw.isTruthy then
      let cards := plural draw "card"
      announce s!"Draws {cards}."
      return .descriptor "draw" (.value draw)
    else if damage.isTruthy then damageRival damage context
    else if (effect.get "type").isTruthy then nested.withOwnResolver context
    else return .ofValue effect
  | _ => return .nothing

/-- A continuation for menus: the chosen option is announced, and what it stands
for is done. -/
def onOption {α : Type} (entries : List MenuEntry) (effects : List (Context → Engine α))
    (context : Context) : Choice → Engine α
  | .option place =>
    match entries[place]?, effects[place]? with
    | some entry, some effect => do
      announce s!"Chose: {entry.label}"
      effect context
    | _, _ => throw .missingEntry
  | _ => throw .missingPart

/-- Asks for one of several options. -/
def offer (title : String) (entries : List MenuEntry) (effects : List Effect) : Effect :=
  fun context => do
    match entries, effects with
    | [only], [effect] =>
      announce only.label
      effect context
    | _, _ => return .offering { title, entries } (onOption entries effects context)

/-- Numbers the entries of a menu from zero. -/
def numbered {α : Type} (items : List α) (label description : α → String) (effect : α → Value) :
    List MenuEntry :=
  items.zipIdx.map fun (item, place) =>
    { id := toString place, label := label item, description := description item
      effect := effect item }

def chooseOption (title : Option String) (options : List (OptionShape × Resolution)) : Effect :=
  fun context => do
    if options.isEmpty then
      announce "No options available."
      return .nothing
    let title := match title with
      | some "" | none => "Choose an option"
      | some given => given
    let entries := numbered (options.map Prod.fst) OptionShape.label OptionShape.description
      OptionShape.effect
    offer title entries (options.map fun (option, nested) => resolveOption option.effect nested)
      context

def chooseDefinition (choices : List (ChoiceShape × Resolution)) : Effect := fun context => do
  if choices.isEmpty then
    announce "No choices available."
    return .nothing
  let entries := numbered (choices.map Prod.fst) ChoiceShape.label ChoiceShape.description
    ChoiceShape.definition
  offer "Choose an option" entries (choices.map fun (_, nested) => nested.withOwnResolver) context

end Effect

end CreatureCards
