import CreatureCards.EffectKind
import CreatureCards.PickEffect
import CreatureCards.PlayerEffect
import CreatureCards.TrapEffect
import CreatureCards.TribeEffect
import CreatureCards.ZoneEffect

/-!
# Rules of effect types

What each effect type does whose parameters are a list of arguments.  Effect
types that nest definitions, or that declare the shape of their parameters, have
no rule in this table.
-/

namespace CreatureCards

/-- What an effect type does with its arguments, by their place in the list of
its parameters. -/
def EffectKind.rule (react : Reactor) (argument : Nat → Value) : EffectKind → Effect
  | .heal => Effect.heal (argument 0)
  | .draw => Effect.draw (argument 0)
  | .damageRival => Effect.damageRival (argument 0)
  | .damageCreature => Effect.damageCreature (argument 0) (argument 1) (argument 2)
  | .summonTokens => Effect.summonTokens (argument 0)
  | .addToHand => Effect.addToHand (argument 0)
  | .transformCard => Effect.transformCard (argument 0) (argument 1)
  | .killCreature => Effect.killCreature (argument 0)
  | .grantKeyword => Effect.grantKeyword (argument 0) (argument 1)
  | .negateAttack => Effect.signal "negate_attack" "Attack is negated."
  | .negateDamage => Effect.signal "negate_damage" "Damage is negated."
  | .negatePlay => Effect.signal "negate_play" "Card play is negated."
  | .allowReplay => Effect.allowReplay (argument 0)
  | .killAttacker => Effect.killAttacker
  | .freezeAllCreatures => Effect.freezeAllCreatures
  | .discardCards => Effect.discardCards (argument 0)
  | .revealCards => Effect.revealCards (argument 0)
  | .tutor => Effect.tutor (argument 0)
  | .copyAbilities => Effect.copyAbilities (argument 0)
  | .stealCreature => Effect.stealCreature (argument 0)
  | .killAll => Effect.killAll (argument 0)
  | .revealHand => Effect.revealHand (argument 0)
  | .grantBarrier => Effect.grantBarrier
  | .removeAbilities => Effect.removeAbilities (argument 0)
  | .removeAbilitiesAll => Effect.removeAbilitiesAll
  | .selectPredatorForEndEffect => Effect.selectPredatorForEndEffect (argument 0)
  | .selectCardToDiscard => Effect.selectCardToDiscard (argument 0)
  | .selectAndDiscard => Effect.selectAndDiscard (argument 0)
  | .selectEnemyToKill => Effect.selectEnemyToKill react
  | .tutorFromDeck => Effect.tutorFromDeck (argument 0)
  | .selectCreatureForDamage => Effect.selectCreatureForDamage react (argument 0) (argument 1)
  | .selectTargetForDamage => Effect.selectTargetForDamage react (argument 0) (argument 1)
  | .selectEnemyPreyToConsume => Effect.selectEnemyPreyToConsume react
  | .selectCreatureToRestore => Effect.selectCreatureToRestore react
  | .damageAllCreatures => Effect.damageAllCreatures (argument 0)
  | .damageAllEnemyCreatures => Effect.damageAllEnemyCreatures (argument 0)
  | .damageBothPlayers => Effect.damageBothPlayers (argument 0)
  | .damageOtherCreatures => Effect.damageOtherCreatures (argument 0)
  | .returnAllEnemies => Effect.returnAllEnemies
  | .killEnemyTokens => Effect.killEnemyTokens
  | .killAllEnemyCreatures => Effect.killAllEnemyCreatures
  | .selectEnemyForKeyword => Effect.selectEnemyForKeyword react (argument 0)
  | .selectEnemyCreatureForDamage =>
    Effect.selectEnemyCreatureForDamage react (argument 0) (argument 1)
  | .selectCreatureToCopy => Effect.selectCreatureToCopy react
  | .selectCreatureToTransform => Effect.selectCreatureToTransform react (argument 0)
  | .removeTriggeredCreatureAbilities => Effect.removeTriggeredCreatureAbilities
  | .negateAndDamageAll => Effect.negateAndDamageAll (argument 0) (argument 1)
  | .returnTriggeredToHand => Effect.returnTriggeredToHand
  | .negateAndKillAttacker => Effect.negateAndKillAttacker
  | .negateCombat => Effect.signal "negate_combat" "Combat negated."
  | .damageRivalAndSelectEnemy => Effect.damageRivalAndSelectEnemy react (argument 0) (argument 1)
  | .damageAllEnemiesMultiple => Effect.damageAllEnemiesMultiple (argument 0) (argument 1)
  | .killEnemyTokensEffect => Effect.killEnemyTokensEffect
  | .healAndSelectTargetForDamage =>
    Effect.healAndSelectTargetForDamage react (argument 0) (argument 1)
  | .negateAndAllowReplay => Effect.negateAndAllowReplay
  | .playSpellsFromHand => Effect.playSpellsFromHand (argument 0)
  | .webAllEnemies => Effect.webAllEnemies
  | .webAttacker => Effect.webAttacker
  | .webTarget => Effect.webTarget
  | .webRandomEnemy => Effect.webRandomEnemy
  | .damageWebbed => Effect.damageWebbed (argument 0)
  | .drawPerWebbed => Effect.drawPerWebbed
  | .healPerWebbed => Effect.healPerWebbed (argument 0)
  | .drawIfEnemyWebbed => Effect.drawIfEnemyWebbed
  | .buffAtkPerWebbed => Effect.buffAtkPerWebbed (argument 0)
  | .summonTokensPerWebbed => Effect.summonTokensPerWebbed (argument 0)
  | .enterStalkMode => Effect.enterStalkMode
  | .enterStalkModeOnPlay => Effect.enterStalkModeOnPlay
  | .drawPerStalking => Effect.scaledDraw Card.stalking "stalking"
  | .buffAllStalking => Effect.buffAll Card.stalking "stalking" (argument 0)
  | .drawPerPride => Effect.scaledDraw Card.hasPride "Pride"
  | .buffAllPride => Effect.buffAll Card.hasPride "Pride" (argument 0)
  | .summonTokensPerPride => Effect.tokensPer Card.hasPride "Pride" (argument 0)
  | .healPerPride => Effect.healPer Card.hasPride "Pride" (argument 0)
  | .grantPride => Effect.grantPride
  | .damageEqualToStalkBonus => Effect.damageEqualToStalkBonus
  | .chasePrey => Effect.chasePrey (argument 0)
  | .drawPerShell => Effect.scaledDraw Card.hasShell "Shell"
  | .buffAllShell => Effect.buffAll Card.hasShell "Shell" (argument 0)
  | .healPerShell => Effect.healPer Card.hasShell "Shell" (argument 0)
  | .regenerateAllShells => Effect.regenerateAllShells
  | .grantShell => Effect.grantShell (argument 0)
  | .grantMolt => Effect.grantMolt
  | .drawPerMolt => Effect.scaledDraw Card.hasMolt "Molt"
  | .buffAllMolt => Effect.buffAll Card.hasMolt "Molt" (argument 0)
  | .summonTokensPerShell => Effect.tokensPer Card.hasShell "Shell" (argument 0)
  | .damageEqualToTotalShell => Effect.damageEqualToTotalShell
  | .buffHpPerShell => Effect.buffHpPerShell
  | .selectEnemyToFreeze => Effect.selectEnemyToFreeze react
  | .freezeAllEnemies => Effect.freezeAllEnemies
  | .removeFrozenFromFriendlies => Effect.removeFrozenFromFriendlies
  | .selectCreatureFromDeckWithKeyword => Effect.selectCreatureFromDeckWithKeyword (argument 0)
  | .returnTargetedToHand => Effect.returnTargetedToHand
  | .selectFriendlyCreatureToSacrifice => Effect.selectFriendlyCreatureToSacrifice
  | .reviveCreature => Effect.reviveCreature
  | .regenSelf => Effect.regenSelf
  | .selectEnemyToReturn =>
    Effect.selectEnemyToReturn react "Choose a Rival's creature to return to hand"
  | .discardDrawAndKillEnemy => Effect.discardDrawAndKillEnemy react
  | .drawThenDiscard => Effect.drawThenDiscard (argument 0) (argument 1)
  | .forceOpponentDiscard => Effect.forceOpponentDiscard (argument 0)
  | .drawAndRevealHand => Effect.drawAndRevealHand (argument 0)
  | .tutorAndPlaySpell => Effect.tutorAndPlaySpell
  | .damageAllAndFreezeAll => Effect.damageAllAndFreezeAll (argument 0)
  | .endTurn => Effect.signal "end_turn" "Turn ends."
  | .regenOtherCreatures => Effect.regenOtherCreatures
  | .playSpellFromHand => Effect.playSpellFromHand
  | .selectEnemyToReturnToOpponentHand =>
    Effect.selectEnemyToReturn react "Choose a Rival's creature to return to their hand"
  | .drawAndEmpowerPredator => Effect.drawAndEmpowerPredator (argument 0) (argument 1)
  | .trackAttackForRegenHeal => Effect.trackAttackForRegenHeal (argument 0)
  | .dealDamageToAttacker => Effect.dealDamageToAttacker (argument 0)
  | .applyNeurotoxicToAttacker => Effect.applyNeurotoxicToAttacker
  | .freezeAttacker => Effect.freezeAttacker
  | .damageEnemiesAfterCombat => Effect.damageEnemiesAfterCombat (argument 0)
  | .eatPreyInsteadOfAttacking => Effect.eatPreyInsteadOfAttacking react
  | _ => fun _ => return .nothing

end CreatureCards
