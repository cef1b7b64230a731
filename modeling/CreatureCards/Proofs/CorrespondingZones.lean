import CreatureCards.Proofs.CorrespondingPicks

/-!
# Corresponding effects on hands and decks

What the acting player holds is the same when the players are seated anew, and so is
what the rival holds who sits opposite.  With these, every effect type whose
parameters are a list of arguments corresponds to itself among cards that react
alike.
-/

namespace CreatureCards

open Engine

variable {c : Correspondence} {react other : Reactor}

namespace Effect

section Discards

theorem corresponds_discardPayload (index : Option Int) (cards : List CardId) :
    Outcome.Corresponds c (discardPayload index cards)
      (discardPayload (index.map c.seating.index) cards) :=
  .record (.cons (.index (by simp) index) (.cons (.same (by simp)) .nil))

theorem corresponds_discardOne (index : Option Int) (card : CardId) :
    Outcome.Corresponds c (discardOne index card) (discardOne (index.map c.seating.index) card) :=
  .descriptor (.of (by simp) (corresponds_discardPayload index [card]))

theorem answers_discardTold (who : String) (index : Option Int) (card : CardId) :
    c.Answers (discardTold who index card) (discardTold who (index.map c.seating.index) card) :=
  .reading fun _ _ _ => .telling (.pure (corresponds_discardOne index card))

theorem corresponds_selectCardToDiscard (count : Value) :
    (selectCardToDiscard count).Corresponds c (selectCardToDiscard count) := by
  intro context _
  refine .reading fun board players seats => ?_
  rw [seats.actor]
  exact .requireSame fun player => .ite (fun _ => .missing) fun _ =>
    .pickPlace rfl fun card => .pure (corresponds_discardOne context.playerIndex card)

theorem corresponds_selectAndDiscard (count : Value) :
    (selectAndDiscard count).Corresponds c (selectAndDiscard count) := by
  intro context _
  refine .reading fun board players seats => ?_
  rw [seats.actor]
  exact .requireSame fun player => .ite (fun _ => .missing) fun _ =>
    .pickPlace rfl (answers_discardTold "Discards" context.playerIndex)

/-- The rival picks, and the discard is asked of the same player at another place. -/
theorem corresponds_forceOpponentDiscard (count : Value) :
    (forceOpponentDiscard count).Corresponds c (forceOpponentDiscard count) := by
  intro context _
  refine .reading fun board players seats => ?_
  rw [seats.discardRival]
  exact .ite (fun _ => .missing) fun _ =>
    .pickPlace rfl (answers_discardTold "Rival discards" (discardRival board context).1)

theorem corresponds_drawThenDiscard (drawCount discardCount : Value) :
    (drawThenDiscard drawCount discardCount).Corresponds c
      (drawThenDiscard drawCount discardCount) := by
  intro context _
  refine .telling (.pure (.record (.cons (.same (by simp)) (.cons (.of (by simp) ?_) .nil))))
  refine .laterPick (fun board players seats => ?_) fun card =>
    .pure (corresponds_discardOne context.playerIndex card)
  rw [seats.actor]
  cases context.actor board with
  | none => rfl
  | some player =>
      exact board.placeCandidates_reseated c.seating players (some context) true player.hand

theorem answers_killPicked (reacts : react.Corresponds c other) {context : Context}
    (acting : c.acts context) (target : CardId) :
    c.Answers (killPicked react context target)
      (killPicked other (context.reseated c.seating) target) :=
  .reactionOr reacts (.of_impartial (by simp)) acting

theorem answers_discardThenKill (reacts : react.Corresponds c other) {context : Context}
    (acting : c.acts context) (card : CardId) :
    c.Answers (discardThenKill react context card)
      (discardThenKill other (context.reseated c.seating) card) := by
  have done : Outcome.Corresponds c
      (.record [("discard_cards", discardPayload context.playerIndex [card]), ("draw", .int 1)])
      (.record [("discard_cards", discardPayload (context.playerIndex.map c.seating.index) [card]),
        ("draw", .int 1)]) :=
    .record (.cons (.of (by simp) (corresponds_discardPayload _ _)) (.cons (.same (by simp)) .nil))
  refine .reading fun board players seats => ?_
  rw [seats.targetableEnemies]
  exact .ite (fun _ => .telling (.pure done)) fun _ =>
    .behind done (.pickCard rfl (answers_killPicked reacts acting))

theorem corresponds_discardDrawAndKillEnemy (reacts : react.Corresponds c other) :
    (discardDrawAndKillEnemy react).Corresponds c (discardDrawAndKillEnemy other) := by
  intro context acting
  refine .reading fun board players seats => ?_
  rw [seats.actor]
  exact .requireSame fun player => .ite (fun _ => .missing) fun _ =>
    .pickPlace rfl (answers_discardThenKill reacts acting)

end Discards

section Decks

theorem corresponds_tutored (context : Context) (place : Option CardId) :
    Outcome.Corresponds c (tutored context place) (tutored (context.reseated c.seating) place) :=
  corresponds_indexed context.playerIndex (by simp) (by simp)

theorem corresponds_tutorFromDeck (cardType : Value) :
    (tutorFromDeck cardType).Corresponds c (tutorFromDeck cardType) := by
  intro context _
  refine .reading fun board players seats => ?_
  rw [seats.actor]
  refine .requireSame fun player => .ite (fun _ => .missing) fun _ => ?_
  have valid : player.deck.filter (cardTypeRule { board with players } cardType) =
      player.deck.filter (cardTypeRule board cardType) := rfl
  dsimp only
  rw [valid]
  split
  · exact .missing
  · exact .pure (corresponds_tutored context _)
  · refine .pure (.pickLater (fun board players _ => ?_) fun card =>
      .pure (corresponds_tutored context _))
    exact board.sortedCandidates_reseated c.seating players false _

theorem corresponds_selectCreatureFromDeckWithKeyword (keyword : Value) :
    (selectCreatureFromDeckWithKeyword keyword).Corresponds c
      (selectCreatureFromDeckWithKeyword keyword) := by
  intro context _
  refine .reading fun board players seats => ?_
  rw [seats.actor]
  refine .requireSame fun player => .ite (fun _ => .missing) fun _ => .pickCard rfl fun card => ?_
  exact .pure (corresponds_indexed context.playerIndex (by simp) (by simp))

end Decks

section Spells

theorem corresponds_playedFromHand (context : Context) (card : CardId) :
    Outcome.Corresponds c (playedFromHand context card)
      (playedFromHand (context.reseated c.seating) card) :=
  corresponds_indexed context.playerIndex (by simp) (by simp)

/-- One spell follows the other, by induction on how many are left to be played. -/
theorem answers_playSpell (context : Context) (several : Bool) (left step : Nat)
    (chosen : List CardId) (spell : CardId) :
    c.Answers (playSpell context several left step chosen spell)
      (playSpell (context.reseated c.seating) several left step chosen spell) := by
  induction left generalizing step chosen spell with
  | zero => exact .pure (corresponds_playedFromHand context spell)
  | succ left ih =>
      have played := corresponds_playedFromHand (c := c) context spell
      refine .reading fun board players seats => ?_
      rw [seats.handSpells]
      refine .orFailSame fun others => .ite (fun _ => .telling (.pure played)) fun _ => ?_
      refine .merge (.cons played (.cons (.pickLater ?_ (ih (step + 1) (chosen ++ [spell]))) .nil))
      exact fun board players seats => seats.spellCandidates context (chosen ++ [spell])

theorem corresponds_playSpellsFromHand (count : Value) :
    (playSpellsFromHand count).Corresponds c (playSpellsFromHand count) := by
  intro context _
  refine .reading fun board players seats => ?_
  rw [seats.handSpells]
  exact .orFailSame fun spells => .ite (fun _ => .missing) fun _ => .orFailSame fun rounds =>
    .pickCard rfl (answers_playSpell context count.exceedsOne (rounds - 1) 0 [])

theorem corresponds_playSpellFromHand : playSpellFromHand.Corresponds c playSpellFromHand := by
  intro context _
  refine .reading fun board players seats => ?_
  rw [seats.handSpells]
  exact .orFailSame fun spells => .ite (fun _ => .missing) fun _ => .pickCard rfl fun spell =>
    .reading fun _ _ _ => .telling (.pure (corresponds_playedFromHand context spell))

theorem answers_tutorThenPlay (context : Context) (card : CardId) :
    c.Answers (tutorThenPlay context card) (tutorThenPlay (context.reseated c.seating) card) := by
  have tutors := corresponds_tutored (c := c) context (some card)
  refine .reading fun board players seats => ?_
  rw [seats.handSpells]
  refine .orFailSame fun spells => .ite (fun _ => .telling (.pure tutors)) fun _ => ?_
  refine .merge (.cons tutors (.cons (.pickLater (fun board players seats => ?_) fun spell =>
    .pure (corresponds_playedFromHand context spell)) .nil))
  rw [seats.handSpells]
  cases handSpells context [] board with
  | error failure => rfl
  | ok spells =>
      exact congrArg Except.ok (board.cardCandidates_reseated c.seating players none true _)

theorem corresponds_tutorAndPlaySpell : tutorAndPlaySpell.Corresponds c tutorAndPlaySpell := by
  intro context _
  refine .reading fun board players seats => ?_
  rw [seats.actor]
  refine .requireSame fun player => .ite (fun _ => .missing) fun _ =>
    .pure (.pickLater (fun board players seats => ?_) (answers_tutorThenPlay context))
  rw [seats.actor]
  cases context.actor board with
  | none => rfl
  | some player => exact board.sortedCandidates_reseated c.seating players true player.deck

end Spells

end Effect

/-- Every effect type does the same when the players are seated anew, among cards that
react alike, as long as a creature that it returns to hand stands on some field. -/
theorem EffectKind.corresponds_rule (reacts : react.Corresponds c other) (argument : Nat → Value)
    (kind : EffectKind) (strays : kind = .returnTargetedToHand → c.Strays) :
    Effect.Corresponds c (kind.rule react argument) (kind.rule other argument) := by
  cases kind with
  | draw => exact Effect.corresponds_draw (argument 0)
  | damageCreature => exact Effect.corresponds_damageCreature (argument 0) (argument 1) (argument 2)
  | summonTokens => exact Effect.corresponds_summonTokens (argument 0)
  | addToHand => exact Effect.corresponds_addToHand (argument 0)
  | transformCard => exact Effect.corresponds_transformCard (argument 0) (argument 1)
  | killCreature => exact Effect.corresponds_killCreature (argument 0)
  | grantKeyword => exact Effect.corresponds_grantKeyword (argument 0) (argument 1)
  | killAttacker => exact Effect.corresponds_killAttacker
  | freezeAllCreatures => exact Effect.corresponds_freezeAllCreatures
  | discardCards => exact Effect.corresponds_discardCards (argument 0)
  | revealCards => exact Effect.corresponds_revealCards (argument 0)
  | tutor => exact Effect.corresponds_tutor (argument 0)
  | copyAbilities => exact Effect.corresponds_copyAbilities (argument 0)
  | stealCreature => exact Effect.corresponds_stealCreature (argument 0)
  | killAll => exact Effect.corresponds_killAll (argument 0)
  | revealHand => exact Effect.corresponds_revealHand (argument 0)
  | grantBarrier => exact Effect.corresponds_grantBarrier
  | removeAbilities => exact Effect.corresponds_removeAbilities (argument 0)
  | removeAbilitiesAll => exact Effect.corresponds_removeAbilitiesAll
  | selectPredatorForEndEffect => exact Effect.corresponds_selectPredatorForEndEffect (argument 0)
  | selectCardToDiscard => exact Effect.corresponds_selectCardToDiscard (argument 0)
  | selectAndDiscard => exact Effect.corresponds_selectAndDiscard (argument 0)
  | selectEnemyToKill => exact Effect.corresponds_selectEnemyToKill reacts
  | tutorFromDeck => exact Effect.corresponds_tutorFromDeck (argument 0)
  | selectCreatureForDamage =>
      exact Effect.corresponds_selectCreatureForDamage reacts (argument 0) (argument 1)
  | selectTargetForDamage =>
      exact Effect.corresponds_selectTargetForDamage reacts (argument 0) (argument 1)
  | selectEnemyPreyToConsume => exact Effect.corresponds_selectEnemyPreyToConsume reacts
  | selectCreatureToRestore => exact Effect.corresponds_selectCreatureToRestore reacts
  | damageOtherCreatures => exact Effect.corresponds_damageOtherCreatures (argument 0)
  | returnAllEnemies => exact Effect.corresponds_returnAllEnemies
  | killEnemyTokens => exact Effect.corresponds_killEnemyTokens
  | killAllEnemyCreatures => exact Effect.corresponds_killAllEnemyCreatures
  | selectEnemyForKeyword => exact Effect.corresponds_selectEnemyForKeyword reacts (argument 0)
  | selectEnemyCreatureForDamage =>
      exact Effect.corresponds_selectEnemyCreatureForDamage reacts (argument 0) (argument 1)
  | selectCreatureToCopy => exact Effect.corresponds_selectCreatureToCopy reacts
  | selectCreatureToTransform =>
      exact Effect.corresponds_selectCreatureToTransform reacts (argument 0)
  | removeTriggeredCreatureAbilities => exact Effect.corresponds_removeTriggeredCreatureAbilities
  | returnTriggeredToHand => exact Effect.corresponds_returnTriggeredToHand
  | negateAndKillAttacker => exact Effect.corresponds_negateAndKillAttacker
  | damageRivalAndSelectEnemy =>
      exact Effect.corresponds_damageRivalAndSelectEnemy reacts (argument 0) (argument 1)
  | damageAllEnemiesMultiple =>
      exact Effect.corresponds_damageAllEnemiesMultiple (argument 0) (argument 1)
  | killEnemyTokensEffect => exact Effect.corresponds_killEnemyTokensEffect
  | healAndSelectTargetForDamage =>
      exact Effect.corresponds_healAndSelectTargetForDamage reacts (argument 0) (argument 1)
  | playSpellsFromHand => exact Effect.corresponds_playSpellsFromHand (argument 0)
  | webAllEnemies => exact Effect.corresponds_webAllEnemies
  | webAttacker => exact Effect.corresponds_webAttacker
  | webTarget => exact Effect.corresponds_webTarget
  | webRandomEnemy => exact Effect.corresponds_webRandomEnemy
  | damageWebbed => exact Effect.corresponds_damageWebbed (argument 0)
  | drawPerWebbed => exact Effect.corresponds_drawPerWebbed
  | healPerWebbed => exact Effect.corresponds_healPerWebbed (argument 0)
  | drawIfEnemyWebbed => exact Effect.corresponds_drawIfEnemyWebbed
  | buffAtkPerWebbed => exact Effect.corresponds_buffAtkPerWebbed (argument 0)
  | summonTokensPerWebbed => exact Effect.corresponds_summonTokensPerWebbed (argument 0)
  | enterStalkMode => exact Effect.corresponds_enterStalkMode
  | enterStalkModeOnPlay => exact Effect.corresponds_enterStalkModeOnPlay
  | drawPerStalking => exact Effect.corresponds_scaledDraw Card.stalking "stalking"
  | buffAllStalking => exact Effect.corresponds_buffAll Card.stalking "stalking" (argument 0)
  | drawPerPride => exact Effect.corresponds_scaledDraw Card.hasPride "Pride"
  | buffAllPride => exact Effect.corresponds_buffAll Card.hasPride "Pride" (argument 0)
  | summonTokensPerPride => exact Effect.corresponds_tokensPer Card.hasPride "Pride" (argument 0)
  | healPerPride => exact Effect.corresponds_healPer Card.hasPride "Pride" (argument 0)
  | grantPride => exact Effect.corresponds_grantPride
  | damageEqualToStalkBonus => exact Effect.corresponds_damageEqualToStalkBonus
  | chasePrey => exact Effect.corresponds_chasePrey (argument 0)
  | drawPerShell => exact Effect.corresponds_scaledDraw Card.hasShell "Shell"
  | buffAllShell => exact Effect.corresponds_buffAll Card.hasShell "Shell" (argument 0)
  | healPerShell => exact Effect.corresponds_healPer Card.hasShell "Shell" (argument 0)
  | regenerateAllShells => exact Effect.corresponds_regenerateAllShells
  | grantShell => exact Effect.corresponds_grantShell (argument 0)
  | grantMolt => exact Effect.corresponds_grantMolt
  | drawPerMolt => exact Effect.corresponds_scaledDraw Card.hasMolt "Molt"
  | buffAllMolt => exact Effect.corresponds_buffAll Card.hasMolt "Molt" (argument 0)
  | summonTokensPerShell => exact Effect.corresponds_tokensPer Card.hasShell "Shell" (argument 0)
  | damageEqualToTotalShell => exact Effect.corresponds_damageEqualToTotalShell
  | buffHpPerShell => exact Effect.corresponds_buffHpPerShell
  | selectEnemyToFreeze => exact Effect.corresponds_selectEnemyToFreeze reacts
  | freezeAllEnemies => exact Effect.corresponds_freezeAllEnemies
  | removeFrozenFromFriendlies => exact Effect.corresponds_removeFrozenFromFriendlies
  | selectCreatureFromDeckWithKeyword =>
      exact Effect.corresponds_selectCreatureFromDeckWithKeyword (argument 0)
  | returnTargetedToHand => exact Effect.corresponds_returnTargetedToHand (strays rfl)
  | selectFriendlyCreatureToSacrifice => exact Effect.corresponds_selectFriendlyCreatureToSacrifice
  | reviveCreature => exact Effect.corresponds_reviveCreature
  | regenSelf => exact Effect.corresponds_regenSelf
  | selectEnemyToReturn =>
      exact Effect.corresponds_selectEnemyToReturn reacts
        "Choose a Rival's creature to return to hand"
  | discardDrawAndKillEnemy => exact Effect.corresponds_discardDrawAndKillEnemy reacts
  | drawThenDiscard => exact Effect.corresponds_drawThenDiscard (argument 0) (argument 1)
  | forceOpponentDiscard => exact Effect.corresponds_forceOpponentDiscard (argument 0)
  | drawAndRevealHand => exact Effect.corresponds_drawAndRevealHand (argument 0)
  | tutorAndPlaySpell => exact Effect.corresponds_tutorAndPlaySpell
  | damageAllAndFreezeAll => exact Effect.corresponds_damageAllAndFreezeAll (argument 0)
  | regenOtherCreatures => exact Effect.corresponds_regenOtherCreatures
  | playSpellFromHand => exact Effect.corresponds_playSpellFromHand
  | selectEnemyToReturnToOpponentHand =>
      exact Effect.corresponds_selectEnemyToReturn reacts
        "Choose a Rival's creature to return to their hand"
  | drawAndEmpowerPredator =>
      exact Effect.corresponds_drawAndEmpowerPredator (argument 0) (argument 1)
  | trackAttackForRegenHeal => exact Effect.corresponds_trackAttackForRegenHeal (argument 0)
  | dealDamageToAttacker => exact Effect.corresponds_dealDamageToAttacker (argument 0)
  | applyNeurotoxicToAttacker => exact Effect.corresponds_applyNeurotoxicToAttacker
  | freezeAttacker => exact Effect.corresponds_freezeAttacker
  | damageEnemiesAfterCombat => exact Effect.corresponds_damageEnemiesAfterCombat (argument 0)
  | eatPreyInsteadOfAttacking => exact Effect.corresponds_eatPreyInsteadOfAttacking reacts
  | heal | damageRival | negateAttack | negateDamage | negatePlay | allowReplay
  | damageAllCreatures | damageAllEnemyCreatures | damageBothPlayers | negateAndDamageAll
  | negateCombat | negateAndAllowReplay | endTurn => exact Effect.corresponds_told (by simp)
  | destroy | addKeyword | buffStats | buff | selectTarget | selectConsume | conditional
  | composite | repeated | selectFromGroup | chooseOption | choice | selectPreyForBuff
  | selectCreatureForBuff => exact fun _ _ => .nothing

end CreatureCards
