import CreatureCards.ValueText

/-!
# Effect types

The closed set of effect types that a definition may name, in the order of the
rules, and their names in card data.
-/

namespace CreatureCards

/-- What a definition may ask for. -/
inductive EffectKind where
  | heal
  | draw
  | damageRival
  | damageCreature
  | summonTokens
  | addToHand
  | transformCard
  | killCreature
  | destroy
  | grantKeyword
  | addKeyword
  | buffStats
  | buff
  | selectTarget
  | selectConsume
  | conditional
  | composite
  | repeated
  | negateAttack
  | negateDamage
  | negatePlay
  | allowReplay
  | killAttacker
  | freezeAllCreatures
  | discardCards
  | revealCards
  | tutor
  | copyAbilities
  | stealCreature
  | killAll
  | revealHand
  | grantBarrier
  | removeAbilities
  | removeAbilitiesAll
  | selectPredatorForEndEffect
  | selectCardToDiscard
  | selectAndDiscard
  | selectEnemyToKill
  | tutorFromDeck
  | selectCreatureForDamage
  | selectTargetForDamage
  | selectEnemyPreyToConsume
  | selectCreatureToRestore
  | selectFromGroup
  | chooseOption
  | choice
  | damageAllCreatures
  | damageAllEnemyCreatures
  | damageBothPlayers
  | damageOtherCreatures
  | returnAllEnemies
  | killEnemyTokens
  | killAllEnemyCreatures
  | selectEnemyForKeyword
  | selectEnemyCreatureForDamage
  | selectCreatureToCopy
  | selectPreyForBuff
  | selectCreatureForBuff
  | selectCreatureToTransform
  | removeTriggeredCreatureAbilities
  | negateAndDamageAll
  | returnTriggeredToHand
  | negateAndKillAttacker
  | negateCombat
  | damageRivalAndSelectEnemy
  | damageAllEnemiesMultiple
  | killEnemyTokensEffect
  | healAndSelectTargetForDamage
  | negateAndAllowReplay
  | playSpellsFromHand
  | webAllEnemies
  | webAttacker
  | webTarget
  | webRandomEnemy
  | damageWebbed
  | drawPerWebbed
  | healPerWebbed
  | drawIfEnemyWebbed
  | buffAtkPerWebbed
  | summonTokensPerWebbed
  | enterStalkMode
  | enterStalkModeOnPlay
  | drawPerStalking
  | buffAllStalking
  | drawPerPride
  | buffAllPride
  | summonTokensPerPride
  | healPerPride
  | grantPride
  | damageEqualToStalkBonus
  | chasePrey
  | drawPerShell
  | buffAllShell
  | healPerShell
  | regenerateAllShells
  | grantShell
  | grantMolt
  | drawPerMolt
  | buffAllMolt
  | summonTokensPerShell
  | damageEqualToTotalShell
  | buffHpPerShell
  | selectEnemyToFreeze
  | freezeAllEnemies
  | removeFrozenFromFriendlies
  | selectCreatureFromDeckWithKeyword
  | returnTargetedToHand
  | selectFriendlyCreatureToSacrifice
  | reviveCreature
  | regenSelf
  | selectEnemyToReturn
  | discardDrawAndKillEnemy
  | drawThenDiscard
  | forceOpponentDiscard
  | drawAndRevealHand
  | tutorAndPlaySpell
  | damageAllAndFreezeAll
  | endTurn
  | regenOtherCreatures
  | playSpellFromHand
  | selectEnemyToReturnToOpponentHand
  | drawAndEmpowerPredator
  | trackAttackForRegenHeal
  | dealDamageToAttacker
  | applyNeurotoxicToAttacker
  | freezeAttacker
  | damageEnemiesAfterCombat
  | eatPreyInsteadOfAttacking
  deriving DecidableEq, Repr

namespace EffectKind

def name : EffectKind → String
  | heal => "heal"
  | draw => "draw"
  | damageRival => "damageRival"
  | damageCreature => "damageCreature"
  | summonTokens => "summonTokens"
  | addToHand => "addToHand"
  | transformCard => "transformCard"
  | killCreature => "killCreature"
  | destroy => "destroy"
  | grantKeyword => "grantKeyword"
  | addKeyword => "addKeyword"
  | buffStats => "buffStats"
  | buff => "buff"
  | selectTarget => "selectTarget"
  | selectConsume => "selectConsume"
  | conditional => "conditional"
  | composite => "composite"
  | repeated => "repeat"
  | negateAttack => "negateAttack"
  | negateDamage => "negateDamage"
  | negatePlay => "negatePlay"
  | allowReplay => "allowReplay"
  | killAttacker => "killAttacker"
  | freezeAllCreatures => "freezeAllCreatures"
  | discardCards => "discardCards"
  | revealCards => "revealCards"
  | tutor => "tutor"
  | copyAbilities => "copyAbilities"
  | stealCreature => "stealCreature"
  | killAll => "killAll"
  | revealHand => "revealHand"
  | grantBarrier => "grantBarrier"
  | removeAbilities => "removeAbilities"
  | removeAbilitiesAll => "removeAbilitiesAll"
  | selectPredatorForEndEffect => "selectPredatorForEndEffect"
  | selectCardToDiscard => "selectCardToDiscard"
  | selectAndDiscard => "selectAndDiscard"
  | selectEnemyToKill => "selectEnemyToKill"
  | tutorFromDeck => "tutorFromDeck"
  | selectCreatureForDamage => "selectCreatureForDamage"
  | selectTargetForDamage => "selectTargetForDamage"
  | selectEnemyPreyToConsume => "selectEnemyPreyToConsume"
  | selectCreatureToRestore => "selectCreatureToRestore"
  | selectFromGroup => "selectFromGroup"
  | chooseOption => "chooseOption"
  | choice => "choice"
  | damageAllCreatures => "damageAllCreatures"
  | damageAllEnemyCreatures => "damageAllEnemyCreatures"
  | damageBothPlayers => "damageBothPlayers"
  | damageOtherCreatures => "damageOtherCreatures"
  | returnAllEnemies => "returnAllEnemies"
  | killEnemyTokens => "killEnemyTokens"
  | killAllEnemyCreatures => "killAllEnemyCreatures"
  | selectEnemyForKeyword => "selectEnemyForKeyword"
  | selectEnemyCreatureForDamage => "selectEnemyCreatureForDamage"
  | selectCreatureToCopy => "selectCreatureToCopy"
  | selectPreyForBuff => "selectPreyForBuff"
  | selectCreatureForBuff => "selectCreatureForBuff"
  | selectCreatureToTransform => "selectCreatureToTransform"
  | removeTriggeredCreatureAbilities => "removeTriggeredCreatureAbilities"
  | negateAndDamageAll => "negateAndDamageAll"
  | returnTriggeredToHand => "returnTriggeredToHand"
  | negateAndKillAttacker => "negateAndKillAttacker"
  | negateCombat => "negateCombat"
  | damageRivalAndSelectEnemy => "damageRivalAndSelectEnemy"
  | damageAllEnemiesMultiple => "damageAllEnemiesMultiple"
  | killEnemyTokensEffect => "killEnemyTokensEffect"
  | healAndSelectTargetForDamage => "healAndSelectTargetForDamage"
  | negateAndAllowReplay => "negateAndAllowReplay"
  | playSpellsFromHand => "playSpellsFromHand"
  | webAllEnemies => "webAllEnemies"
  | webAttacker => "webAttacker"
  | webTarget => "webTarget"
  | webRandomEnemy => "webRandomEnemy"
  | damageWebbed => "damageWebbed"
  | drawPerWebbed => "drawPerWebbed"
  | healPerWebbed => "healPerWebbed"
  | drawIfEnemyWebbed => "drawIfEnemyWebbed"
  | buffAtkPerWebbed => "buffAtkPerWebbed"
  | summonTokensPerWebbed => "summonTokensPerWebbed"
  | enterStalkMode => "enterStalkMode"
  | enterStalkModeOnPlay => "enterStalkModeOnPlay"
  | drawPerStalking => "drawPerStalking"
  | buffAllStalking => "buffAllStalking"
  | drawPerPride => "drawPerPride"
  | buffAllPride => "buffAllPride"
  | summonTokensPerPride => "summonTokensPerPride"
  | healPerPride => "healPerPride"
  | grantPride => "grantPride"
  | damageEqualToStalkBonus => "damageEqualToStalkBonus"
  | chasePrey => "chasePrey"
  | drawPerShell => "drawPerShell"
  | buffAllShell => "buffAllShell"
  | healPerShell => "healPerShell"
  | regenerateAllShells => "regenerateAllShells"
  | grantShell => "grantShell"
  | grantMolt => "grantMolt"
  | drawPerMolt => "drawPerMolt"
  | buffAllMolt => "buffAllMolt"
  | summonTokensPerShell => "summonTokensPerShell"
  | damageEqualToTotalShell => "damageEqualToTotalShell"
  | buffHpPerShell => "buffHpPerShell"
  | selectEnemyToFreeze => "selectEnemyToFreeze"
  | freezeAllEnemies => "freezeAllEnemies"
  | removeFrozenFromFriendlies => "removeFrozenFromFriendlies"
  | selectCreatureFromDeckWithKeyword => "selectCreatureFromDeckWithKeyword"
  | returnTargetedToHand => "returnTargetedToHand"
  | selectFriendlyCreatureToSacrifice => "selectFriendlyCreatureToSacrifice"
  | reviveCreature => "reviveCreature"
  | regenSelf => "regenSelf"
  | selectEnemyToReturn => "selectEnemyToReturn"
  | discardDrawAndKillEnemy => "discardDrawAndKillEnemy"
  | drawThenDiscard => "drawThenDiscard"
  | forceOpponentDiscard => "forceOpponentDiscard"
  | drawAndRevealHand => "drawAndRevealHand"
  | tutorAndPlaySpell => "tutorAndPlaySpell"
  | damageAllAndFreezeAll => "damageAllAndFreezeAll"
  | endTurn => "endTurn"
  | regenOtherCreatures => "regenOtherCreatures"
  | playSpellFromHand => "playSpellFromHand"
  | selectEnemyToReturnToOpponentHand => "selectEnemyToReturnToOpponentHand"
  | drawAndEmpowerPredator => "drawAndEmpowerPredator"
  | trackAttackForRegenHeal => "trackAttackForRegenHeal"
  | dealDamageToAttacker => "dealDamageToAttacker"
  | applyNeurotoxicToAttacker => "applyNeurotoxicToAttacker"
  | freezeAttacker => "freezeAttacker"
  | damageEnemiesAfterCombat => "damageEnemiesAfterCombat"
  | eatPreyInsteadOfAttacking => "eatPreyInsteadOfAttacking"

def all : List EffectKind :=
  [.heal, .draw, .damageRival, .damageCreature, .summonTokens, .addToHand, .transformCard,
    .killCreature, .destroy, .grantKeyword, .addKeyword, .buffStats, .buff, .selectTarget,
    .selectConsume, .conditional, .composite, .repeated, .negateAttack, .negateDamage,
    .negatePlay, .allowReplay, .killAttacker, .freezeAllCreatures, .discardCards,
    .revealCards, .tutor, .copyAbilities, .stealCreature, .killAll, .revealHand,
    .grantBarrier, .removeAbilities, .removeAbilitiesAll, .selectPredatorForEndEffect,
    .selectCardToDiscard, .selectAndDiscard, .selectEnemyToKill, .tutorFromDeck,
    .selectCreatureForDamage, .selectTargetForDamage, .selectEnemyPreyToConsume,
    .selectCreatureToRestore, .selectFromGroup, .chooseOption, .choice, .damageAllCreatures,
    .damageAllEnemyCreatures, .damageBothPlayers, .damageOtherCreatures, .returnAllEnemies,
    .killEnemyTokens, .killAllEnemyCreatures, .selectEnemyForKeyword,
    .selectEnemyCreatureForDamage, .selectCreatureToCopy, .selectPreyForBuff,
    .selectCreatureForBuff, .selectCreatureToTransform, .removeTriggeredCreatureAbilities,
    .negateAndDamageAll, .returnTriggeredToHand, .negateAndKillAttacker, .negateCombat,
    .damageRivalAndSelectEnemy, .damageAllEnemiesMultiple, .killEnemyTokensEffect,
    .healAndSelectTargetForDamage, .negateAndAllowReplay, .playSpellsFromHand,
    .webAllEnemies, .webAttacker, .webTarget, .webRandomEnemy, .damageWebbed,
    .drawPerWebbed, .healPerWebbed, .drawIfEnemyWebbed, .buffAtkPerWebbed,
    .summonTokensPerWebbed, .enterStalkMode, .enterStalkModeOnPlay, .drawPerStalking,
    .buffAllStalking, .drawPerPride, .buffAllPride, .summonTokensPerPride, .healPerPride,
    .grantPride, .damageEqualToStalkBonus, .chasePrey, .drawPerShell, .buffAllShell,
    .healPerShell, .regenerateAllShells, .grantShell, .grantMolt, .drawPerMolt,
    .buffAllMolt, .summonTokensPerShell, .damageEqualToTotalShell, .buffHpPerShell,
    .selectEnemyToFreeze, .freezeAllEnemies, .removeFrozenFromFriendlies,
    .selectCreatureFromDeckWithKeyword, .returnTargetedToHand,
    .selectFriendlyCreatureToSacrifice, .reviveCreature, .regenSelf, .selectEnemyToReturn,
    .discardDrawAndKillEnemy, .drawThenDiscard, .forceOpponentDiscard, .drawAndRevealHand,
    .tutorAndPlaySpell, .damageAllAndFreezeAll, .endTurn, .regenOtherCreatures,
    .playSpellFromHand, .selectEnemyToReturnToOpponentHand, .drawAndEmpowerPredator,
    .trackAttackForRegenHeal, .dealDamageToAttacker, .applyNeurotoxicToAttacker,
    .freezeAttacker, .damageEnemiesAfterCombat, .eatPreyInsteadOfAttacking]

def ofValue? (value : Value) : Option EffectKind :=
  all.find? fun kind => value.isText kind.name

end EffectKind

end CreatureCards
