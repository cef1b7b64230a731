import CreatureCards.EffectKind
import CreatureCards.Failure
import CreatureCards.KeyedList
import CreatureCards.LetterCase

/-!
# Parameters of effect types

Most effect types take a short list of arguments.  A definition gives them by
position, as a list, or by name, as an object.  A list is taken in the order of
the effect's own parameters; the fields of an object are picked by the keys that
are registered for the effect type, and each is handed over under the name that
belongs to its key.  A parameter that is left out takes its default if it has
one.  The remaining types declare the shape of their parameters or nest
definitions, and take no arguments in this sense.

A further table says which keys a card author must give.
-/

namespace CreatureCards

/-- A parameter of an effect, by the name that the effect has for it. -/
structure Formal where
  name : String
  /-- What the parameter is when it is left out, unless it is required. -/
  fallback? : Option Value

namespace Formal

def required (name : String) : Formal := ⟨name, none⟩

def optional (name : String) (fallback : Value) : Formal := ⟨name, some fallback⟩

end Formal

/-- How card data names an argument, and the name of the parameter it goes to. -/
structure Parameter where
  key : String
  name : String

def Parameter.ofKey (key : String) : Parameter :=
  ⟨key, snakeCase key⟩

namespace EffectKind

/-- The keys that are registered for the arguments of an effect type. -/
def argumentKeys : EffectKind → List String
  | .heal => ["amount"]
  | .draw => ["count"]
  | .damageRival => ["amount"]
  | .damageCreature => ["targetType", "amount", "sourceLabel"]
  | .summonTokens => ["tokenIds"]
  | .addToHand => ["cardId"]
  | .transformCard => ["targetType", "newCardId"]
  | .killCreature => ["targetType"]
  | .grantKeyword => ["targetType", "keyword"]
  | .buffStats => ["targetType", "stats"]
  | .allowReplay => ["excludeNegated"]
  | .discardCards => ["count"]
  | .revealCards => ["count"]
  | .tutor => ["cardType"]
  | .copyAbilities => ["source"]
  | .stealCreature => ["targetType"]
  | .killAll => ["targetType"]
  | .revealHand => ["durationMs"]
  | .removeAbilities => ["targetType"]
  | .selectPredatorForEndEffect => ["tokenId"]
  | .selectCardToDiscard => ["count"]
  | .selectAndDiscard => ["count"]
  | .tutorFromDeck => ["cardType"]
  | .selectCreatureForDamage => ["amount", "label"]
  | .selectTargetForDamage => ["amount", "label"]
  | .damageAllCreatures => ["amount"]
  | .damageAllEnemyCreatures => ["amount"]
  | .damageBothPlayers => ["amount"]
  | .damageOtherCreatures => ["amount"]
  | .selectEnemyForKeyword => ["keyword"]
  | .selectEnemyCreatureForDamage => ["amount", "label"]
  | .selectPreyForBuff => ["stats"]
  | .selectCreatureToTransform => ["newCardId"]
  | .negateAndDamageAll => ["creatureDamage", "playerDamage"]
  | .damageRivalAndSelectEnemy => ["rivalDamage", "creatureDamage"]
  | .damageAllEnemiesMultiple => ["amount", "applications"]
  | .healAndSelectTargetForDamage => ["healAmount", "damageAmount"]
  | .playSpellsFromHand => ["count"]
  | .damageWebbed => ["damage"]
  | .healPerWebbed => ["healPerWebbed"]
  | .buffAtkPerWebbed => ["bonus"]
  | .summonTokensPerWebbed => ["tokenId"]
  | .buffAllStalking => ["bonus"]
  | .buffAllPride => ["bonus"]
  | .summonTokensPerPride => ["tokenId"]
  | .healPerPride => ["healPer"]
  | .chasePrey => ["atkBonus"]
  | .buffAllShell => ["bonus"]
  | .healPerShell => ["healPer"]
  | .grantShell => ["shellLevel"]
  | .buffAllMolt => ["bonus"]
  | .summonTokensPerShell => ["tokenId"]
  | .selectCreatureFromDeckWithKeyword => ["keyword"]
  | .drawThenDiscard => ["drawCount", "discardCount"]
  | .forceOpponentDiscard => ["count"]
  | .drawAndRevealHand => ["drawCount"]
  | .damageAllAndFreezeAll => ["damage"]
  | .drawAndEmpowerPredator => ["drawCount", "tokenId"]
  | .trackAttackForRegenHeal => ["healAmount"]
  | .dealDamageToAttacker => ["damage"]
  | .damageEnemiesAfterCombat => ["damage"]
  | _ => []

def parameters (kind : EffectKind) : List Parameter :=
  kind.argumentKeys.map .ofKey

/-- The parameters of the effect itself. -/
def formals : EffectKind → List Formal
  | .heal => [.required "amount"]
  | .draw => [.required "count"]
  | .damageRival => [.required "amount"]
  | .damageCreature =>
    [.required "target_type", .required "amount", .optional "source_label" (.text "damage")]
  | .summonTokens => [.required "token_ids"]
  | .addToHand => [.required "card_id"]
  | .transformCard => [.required "target_type", .required "new_card_id"]
  | .killCreature => [.required "target_type"]
  | .grantKeyword => [.required "target_type", .required "keyword"]
  | .buffStats => [.required "target_type", .optional "stats" .null]
  | .allowReplay => [.optional "exclude_negated" (.bool false)]
  | .discardCards => [.optional "count" (.int 1)]
  | .revealCards => [.optional "count" (.int 1)]
  | .tutor => [.optional "card_type" (.text "any")]
  | .copyAbilities => [.required "source"]
  | .stealCreature => [.optional "target_type" (.text "target")]
  | .killAll => [.required "target_type"]
  | .revealHand => [.optional "duration_ms" .null]
  | .removeAbilities => [.required "target_type"]
  | .selectPredatorForEndEffect => [.required "token_id"]
  | .selectCardToDiscard => [.optional "count" (.int 1)]
  | .selectAndDiscard => [.optional "count" (.int 1)]
  | .tutorFromDeck => [.optional "card_type" (.text "any")]
  | .selectCreatureForDamage => [.required "amount", .optional "label" (.text "damage")]
  | .selectTargetForDamage => [.required "amount", .optional "label" (.text "damage")]
  | .damageAllCreatures => [.required "amount"]
  | .damageAllEnemyCreatures => [.required "amount"]
  | .damageBothPlayers => [.required "amount"]
  | .damageOtherCreatures => [.required "amount"]
  | .selectEnemyForKeyword => [.required "keyword"]
  | .selectEnemyCreatureForDamage => [.required "amount", .optional "label" (.text "damage")]
  | .selectPreyForBuff => [.optional "stats" .null]
  | .selectCreatureToTransform => [.required "new_card_id"]
  | .negateAndDamageAll =>
    [.optional "creature_damage" (.int 0), .optional "player_damage" (.int 0)]
  | .damageRivalAndSelectEnemy => [.required "rival_damage", .required "creature_damage"]
  | .damageAllEnemiesMultiple => [.required "amount", .optional "applications" (.int 2)]
  | .healAndSelectTargetForDamage => [.required "heal_amount", .required "damage_amount"]
  | .playSpellsFromHand => [.optional "count" (.int 2)]
  | .damageWebbed => [.required "damage"]
  | .healPerWebbed => [.optional "heal_per_webbed" (.int 1)]
  | .buffAtkPerWebbed => [.optional "bonus" (.int 1)]
  | .summonTokensPerWebbed => [.required "token_id"]
  | .buffAllStalking => [.optional "bonus" (.int 1)]
  | .buffAllPride => [.optional "bonus" (.int 1)]
  | .summonTokensPerPride => [.required "token_id"]
  | .healPerPride => [.optional "heal_per" (.int 1)]
  | .chasePrey => [.optional "atk_bonus" (.int 2)]
  | .buffAllShell => [.optional "bonus" (.int 1)]
  | .healPerShell => [.optional "heal_per" (.int 1)]
  | .grantShell => [.optional "shell_level" (.int 1)]
  | .buffAllMolt => [.optional "bonus" (.int 1)]
  | .summonTokensPerShell => [.required "token_id"]
  | .selectCreatureFromDeckWithKeyword => [.required "keyword"]
  | .drawThenDiscard => [.optional "draw_count" (.int 1), .optional "discard_count" (.int 1)]
  | .forceOpponentDiscard => [.optional "count" (.int 1)]
  | .drawAndRevealHand => [.optional "draw_count" (.int 1)]
  | .damageAllAndFreezeAll => [.required "damage"]
  | .drawAndEmpowerPredator => [.required "draw_count", .required "token_id"]
  | .trackAttackForRegenHeal => [.optional "heal_amount" (.int 0)]
  | .dealDamageToAttacker => [.optional "damage" (.int 1)]
  | .damageEnemiesAfterCombat => [.required "damage"]
  | _ => []

/-- The keys that a card author must give for an effect type. -/
def requiredKeys : EffectKind → List String
  | .heal => ["amount"]
  | .draw => ["count"]
  | .damageRival => ["amount"]
  | .damageCreature => ["targetType", "amount"]
  | .summonTokens => ["tokenIds"]
  | .addToHand => ["cardId"]
  | .transformCard => ["targetType", "newCardId"]
  | .killCreature => ["targetType"]
  | .grantKeyword => ["targetType", "keyword"]
  | .addKeyword => ["keyword"]
  | .buffStats => ["targetType"]
  | .selectTarget => ["effect"]
  | .conditional => ["condition", "effectIfTrue"]
  | .composite => ["effects"]
  | .repeated => ["effect"]
  | .copyAbilities => ["source"]
  | .killAll => ["targetType"]
  | .removeAbilities => ["targetType"]
  | .selectPredatorForEndEffect => ["tokenId"]
  | .selectCreatureForDamage => ["amount"]
  | .selectTargetForDamage => ["amount"]
  | .selectFromGroup => ["targetGroup"]
  | .damageAllCreatures => ["amount"]
  | .damageAllEnemyCreatures => ["amount"]
  | .damageBothPlayers => ["amount"]
  | .damageOtherCreatures => ["amount"]
  | .selectEnemyForKeyword => ["keyword"]
  | .selectEnemyCreatureForDamage => ["amount"]
  | .selectCreatureToTransform => ["newCardId"]
  | .damageRivalAndSelectEnemy => ["rivalDamage", "creatureDamage"]
  | .damageAllEnemiesMultiple => ["amount"]
  | .healAndSelectTargetForDamage => ["healAmount", "damageAmount"]
  | .damageWebbed => ["damage"]
  | .summonTokensPerWebbed => ["tokenId"]
  | .summonTokensPerPride => ["tokenId"]
  | .summonTokensPerShell => ["tokenId"]
  | .selectCreatureFromDeckWithKeyword => ["keyword"]
  | .damageAllAndFreezeAll => ["damage"]
  | .drawAndEmpowerPredator => ["drawCount", "tokenId"]
  | .damageEnemiesAfterCombat => ["damage"]
  | _ => []

end EffectKind

/-- Fields that stand for parameters, under the names of the parameters; other
fields are ignored. -/
def Parameter.keywords (parameters : List Parameter) (fields : Fields) : Fields :=
  KeyedList.putAll [] (parameters.filterMap fun parameter =>
    (fields.lookup parameter.key).map fun value => (parameter.name, value))

namespace Formal

/-- What is given for a parameter, or else its default. -/
def argument (formal : Formal) (given : Option Value) : Except Failure Value :=
  (given <|> formal.fallback?).elim (.error .wrongKind) .ok

/-- Arguments given by position. -/
def fromItems : List Formal → List Value → Except Failure (List Value)
  | [], [] => .ok []
  | [], _ :: _ => .error .wrongKind
  | formal :: rest, items => do
    return (← formal.argument items.head?) :: (← fromItems rest items.tail)

/-- Arguments given by name; every name has to be that of a parameter. -/
def fromKeywords (formals : List Formal) (keywords : Fields) : Except Failure (List Value) := do
  if keywords.any fun keyword => !formals.any fun formal => formal.name == keyword.1 then
    throw .wrongKind
  formals.mapM fun formal => formal.argument (keywords.lookup formal.name)

end Formal

/-- The arguments of an effect type, one for each parameter.  A text can only
stand for parameters if it mentions none of their keys, and a number only if
there are none. -/
def EffectKind.arguments (kind : EffectKind) (params : Value) : Except Failure (List Value) :=
  match params with
  | .list items => Formal.fromItems kind.formals items
  | .object fields => Formal.fromKeywords kind.formals (Parameter.keywords kind.parameters fields)
  | .text content =>
    if content != "" && (kind.parameters.any fun parameter =>
        Value.occursIn parameter.key.toList content.toList) then
      .error .wrongKind
    else Formal.fromKeywords kind.formals []
  | other =>
    if other.isTruthy && !kind.parameters.isEmpty then .error .wrongKind
    else Formal.fromKeywords kind.formals []

end CreatureCards
