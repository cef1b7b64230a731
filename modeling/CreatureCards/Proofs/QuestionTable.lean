import CreatureCards.Proofs.QuestionCount
import CreatureCards.Proofs.RandomDraw
import CreatureCards.Proofs.UsableDefinition

/-!
# What each effect asks

One lemma for each effect that asks something, in the order of the modules that
define them, and the table of the number of questions of the effect types.
-/

namespace CreatureCards

open Engine

variable {conduct : Conduct} {bound : ℕ∞} {react : Reactor}

namespace Effect

/-- In the contexts in which effects act, the effect keeps to the conduct and asks no
more than the bound says. -/
def AtMost (conduct : Conduct) (bound : ℕ∞) (effect : Effect) : Prop :=
  ∀ context, conduct.acts context → conduct.AtMost bound (effect context)

theorem AtMost.mono {other : ℕ∞} {effect : Effect} (atMost : effect.AtMost conduct bound)
    (le : bound ≤ other) : effect.AtMost conduct other :=
  fun context acting => (atMost context acting).mono le

theorem Quiet.atMost {effect : Effect} (quiet : effect.Quiet) (plain : effect.Plain) :
    effect.AtMost conduct bound :=
  fun context _ => .plainly (quiet context) (plain context)

theorem Straight.plain {effect : Effect} (straight : effect.Straight) : effect.Plain :=
  fun context => (straight context).harmless

theorem atMost_onPool {pool : Board → Context → List CardId} {missing : String}
    {act : Context → List CardId → Engine Outcome}
    (each : ∀ context, conduct.acts context →
      ∀ creatures, conduct.AtMost bound (act context creatures)) :
    (onPool pool missing act).AtMost conduct bound := fun context acting =>
  .reading fun _ => .ite (fun _ => .missing missing) fun _ => each context acting _

section Creatures

theorem atMost_gainKeyword (keyword : String) (creature : CardId) :
    conduct.AtMost bound (gainKeyword keyword creature) :=
  .plainly (quiet_gainKeyword keyword creature) (straight_gainKeyword keyword creature).harmless

theorem atMost_gainStats (attack health : Value) (creature : CardId) :
    conduct.AtMost bound (gainStats attack health creature) :=
  .plainly (quiet_gainStats attack health creature)
    (straight_gainStats attack health creature).harmless

theorem atMost_addKeyword (shape : AddKeywordShape) :
    (addKeyword shape).AtMost conduct (1 + bound) := by
  intro context acting
  refine .ite (fun _ => ?_) fun _ => .ite (fun _ => ?_) fun _ =>
    .ite (fun _ => ?_) fun _ => .nothing
  · exact (quiet_onFriendlies _ _).atMost
      (straight_onFriendlies _ _ fun _ => by simp [Outcome.keywordForAll]).plain context acting
  · exact .reading fun _ => .ite (fun _ => .missing _) fun _ =>
      .pickOne (.onCard (atMost_gainKeyword _))
  · split
    · exact atMost_gainKeyword _ _
    · exact .nothing

theorem atMost_buff (shape : BuffShape) : (buff shape).AtMost conduct (1 + bound) := by
  intro context acting
  refine .ite (fun _ => ?_) fun _ => .ite (fun _ => ?_) fun _ => ?_
  · exact (quiet_buffFriendlies _ _).atMost (straight_buffFriendlies _ _).plain context acting
  · split
    · exact atMost_gainStats _ _ _
    · exact .nothing
  · exact .reading fun _ => .ite (fun _ => .missing _) fun _ =>
      .pickOne (.onCard (atMost_gainStats _ _))

theorem atMost_destroy (shape : DestroyShape) : (destroy shape).AtMost conduct (1 + bound) := by
  refine fun context _ => .reading fun board => .ite (fun _ => ?_) fun _ =>
    .ite (fun _ => ?_) fun _ =>
    .ite (fun _ => ?_) fun _ => .nothing
  · exact .ite (fun _ => .missing _) fun _ => .told _ (by simp [Outcome.ownedCreatures])
  · exact .ite (fun _ => .missing _) fun _ => .told _ (by simp [Outcome.ownedCreatures])
  · exact .ite (fun _ => .missing _) fun _ => .pickOne <| .onCard fun _ =>
      .reading fun _ => .told _ (by simp [Outcome.ownedCreatures])

end Creatures

section Picks

theorem atMost_selectTarget (pool : Value) {effect : Effect} (each : effect.AtMost conduct bound) :
    (selectTarget pool effect).AtMost conduct (1 + bound) := fun _ acting =>
  .reading fun _ => .ite (fun _ => .missing _) fun _ => .pickOne <| .onCard fun _ =>
    (Conduct.Keeps.derived acting).bind fun derived acting =>
      (each _ (conduct.passed derived.creature _ derived.resolver acting)).orNothing

/-- What is handed over is not asked by the walk. -/
theorem atMost_selectConsume (cardType count : Value) {follow : Outcome}
    (within : follow.Within conduct bound) :
    (selectConsume cardType count follow).AtMost conduct bound := by
  refine fun context _ => .reading fun board => .quietly (.require _) fun player =>
    .ite (fun _ => .missing _) fun _ => .pure (.descriptor ?_)
  have valid :
      (Outcome.places (player.hand.filter (cardTypeRule board cardType))).silent = true := by simp
  exact .data (.data (.field (.of_silent valid) (.descriptor within) (zero_add bound).le))

theorem silently_steal (context : Context) (target : CardId) :
    conduct.Keeps (fun outcome => outcome.silent = true) (steal context target) :=
  .reading fun _ => .telling (.pure (by simp))

theorem atMost_stealCreature (targetType : Value)
    (draws : targetType.isText "random" = true →
      conduct.Draws (stealCreature targetType) stealable) :
    (stealCreature targetType).AtMost conduct (1 + bound) := by
  intro context acting
  by_cases random : (targetType.isText "random" && context.inGame) = true
  · obtain ⟨named, inGame⟩ := Bool.and_eq_true_iff.1 random
    have anyhow :
        Conduct.Keeps { conduct with manner := .any } (fun outcome => outcome.silent = true)
        (stealCreature targetType context) := by
      refine .lookingAt fun board admitted =>
        .ite (fun _ => .telling (.pure (by simp))) fun present => ?_
      rw [if_pos random]
      have anyone : stealable board context ≠ [] := by simpa [stealable] using present
      have drawing : (Conduct.only { conduct with manner := .any } board).Keeps (fun _ => True)
          (Engine.draw (stealable board context).length) :=
        .draw (fun _ _ => trivial) fun drawn =>
          (draws named).leaves admitted acting inGame anyone drawn
      refine drawing.bind fun place _ => ?_
      split
      · exact silently_steal context _
      · exact .throw (conduct.fails_other (by simp))
    have silently : conduct.Keeps (fun outcome => outcome.silent = true)
        (stealCreature targetType context) := anyhow.in_manner ((draws named).does context acting)
    exact silently.atMost
  · refine .reading fun board => .ite (fun _ => .missing _) fun _ => ?_
    rw [if_neg random]
    exact .pickOne <| .onCard fun target => (silently_steal context target).atMost

theorem atMost_pickFrom (reacts : conduct.Reacts bound react)
    {pool : Board → Context → (CardId → Bool) → List CardId} {asked : CreaturePick}
    {build : CardId → Effect} (each : ∀ target, (build target).AtMost conduct bound) :
    (pickFrom react pool asked build).AtMost conduct (1 + bound) := fun context acting =>
  have goesOn (target : CardId) : conduct.AtMost bound (do
      let result ← build target context
      reactionOr react target result context) :=
    (each target context acting).bind fun _ within => .reactionOr reacts target within acting
  .reading fun _ => .ite (fun _ => .missing _) fun _ => .pickOne <| .onCard fun target =>
    .ite (fun _ => .reading fun _ => .telling (goesOn target)) fun _ => goesOn target

theorem atMost_selectEnemyToKill (reacts : conduct.Reacts bound react) :
    (selectEnemyToKill react).AtMost conduct (1 + bound) :=
  atMost_pickFrom reacts fun _ _ _ => .silent (by simp)

theorem atMost_selectEnemyToFreeze (reacts : conduct.Reacts bound react) :
    (selectEnemyToFreeze react).AtMost conduct (1 + bound) :=
  atMost_pickFrom reacts fun _ _ _ => .silent (by simp [Outcome.addKeyword, Outcome.keywordPayload])

theorem atMost_selectEnemyToReturn (reacts : conduct.Reacts bound react) (title : String) :
    (selectEnemyToReturn react title).AtMost conduct (1 + bound) :=
  atMost_pickFrom reacts fun _ _ _ => .silent (by simp [returnToHand])

theorem atMost_selectEnemyForKeyword (reacts : conduct.Reacts bound react) (keyword : Value) :
    (selectEnemyForKeyword react keyword).AtMost conduct (1 + bound) :=
  atMost_pickFrom reacts fun _ _ _ => .reading fun _ =>
    .told _ (by simp [Outcome.addKeyword, Outcome.keywordPayload])

theorem atMost_selectEnemyCreatureForDamage (reacts : conduct.Reacts bound react)
    (amount label : Value) :
    (selectEnemyCreatureForDamage react amount label).AtMost conduct (1 + bound) :=
  atMost_pickFrom reacts fun _ _ _ => .silent (by simp [Outcome.damageCreature])

theorem atMost_selectEnemyPreyToConsume (reacts : conduct.Reacts bound react) :
    (selectEnemyPreyToConsume react).AtMost conduct (1 + bound) :=
  atMost_pickFrom reacts fun _ _ _ => .silent (by simp [consumeEnemyPrey])

theorem atMost_eatPicked (reacts : conduct.Reacts bound react) {context : Context}
    (acting : conduct.acts context) (target : CardId) :
    conduct.AtMost bound (eatPicked react context target) := by
  rw [← Procedure.eatPicked_eq]
  refine (Conduct.Keeps.reactionOf reacts target context.creature acting).bind
    fun response answered => ?_
  have ends : NeverEndless (Procedure.returnsToHand response) :=
    .ite ((response.shapely_mentions _).weaken fun _ fault => fault.ne_endlessReaction) (.ok false)
  refine (Conduct.Keeps.attempt ends).bind fun _ _ => .ite (fun _ => .pure answered) fun _ => ?_
  exact .reading fun _ => .quietly (.require _) fun _ => .told _ (by simp)

theorem atMost_eatPreyInsteadOfAttacking (reacts : conduct.Reacts bound react) :
    (eatPreyInsteadOfAttacking react).AtMost conduct (1 + bound) := fun _ acting =>
  .reading fun _ => .ite (fun _ => .missing _) fun _ =>
    .pickOne <| .onCard (atMost_eatPicked reacts acting)

/-- A pick behind something silent asks no more than the pick. -/
theorem atMost_behind {first : Outcome} (isSilent : first.silent = true) {running : Engine Outcome}
    (atMost : conduct.AtMost bound running) :
    conduct.AtMost bound (do orFail (Outcome.merge [first, ← running])) :=
  atMost.bind fun _ within => .merge (.cons (.of_silent isSilent) within.single (zero_add bound).le)

theorem atMost_damageRivalAndSelectEnemy (reacts : conduct.Reacts bound react)
    (rivalDamage creatureDamage : Value) :
    (damageRivalAndSelectEnemy react rivalDamage creatureDamage).AtMost conduct (1 + bound) :=
  fun _ acting =>
  .reading fun _ => .ite (fun _ => .told _ (by simp)) fun _ =>
    atMost_behind (by simp) <| .pickOne <| .onCard fun target =>
      .reactionOr reacts target
        ((Outcome.Within.of_silent (by simp [Outcome.damageCreature])).mono zero_le)
        acting

theorem atMost_selectCreatureForDamage (reacts : conduct.Reacts bound react)
    (amount label : Value) :
    (selectCreatureForDamage react amount label).AtMost conduct (1 + bound) := fun context acting =>
  .quietly (quiet_resolveCount amount context) fun _ => .ite (fun _ => .missing _) fun _ =>
    atMost_pickFrom reacts (fun _ _ _ => .silent (by simp [Outcome.damageCreature])) context acting

theorem atMost_selectCreatureToRestore (reacts : conduct.Reacts bound react) :
    (selectCreatureToRestore react).AtMost conduct (1 + bound) :=
  atMost_pickFrom reacts fun _ _ _ => .silent (by simp)

theorem atMost_selectCreatureToCopy (reacts : conduct.Reacts bound react) :
    (selectCreatureToCopy react).AtMost conduct (1 + bound) :=
  atMost_pickFrom reacts fun _ _ _ => .silent (by simp)

theorem atMost_selectCreatureToTransform (reacts : conduct.Reacts bound react) (newCardId : Value) :
    (selectCreatureToTransform react newCardId).AtMost conduct (1 + bound) :=
  atMost_pickFrom reacts fun _ _ _ => .silent (by simp)

theorem atMost_selectForBuff (reacts : conduct.Reacts bound react) (preyOnly : Bool)
    (stats : Stats) :
    (selectForBuff react preyOnly stats).AtMost conduct (1 + bound) :=
  atMost_pickFrom reacts fun _ _ _ => .silent (by simp [Outcome.buffCreature])

theorem atMost_damagePicked (reacts : conduct.Reacts bound react) (amount label : Value)
    {context : Context} (acting : conduct.acts context) (ref : TargetRef) :
    conduct.AtMost bound (damagePicked react amount label context ref) :=
  .ite (fun _ => .told _ (by simp)) fun _ => .quietly (.require _) fun _ => .reading fun _ =>
    .telling <|
    .reactionOr reacts _
      ((Outcome.Within.of_silent (by simp [Outcome.damageCreature])).mono zero_le) acting

theorem atMost_selectTargetForDamage (reacts : conduct.Reacts bound react) (amount label : Value) :
    (selectTargetForDamage react amount label).AtMost conduct (1 + bound) := fun _ acting =>
  .reading fun _ => .pickOne <| .onRef (atMost_damagePicked reacts amount label acting)

theorem atMost_healAndSelectTargetForDamage (reacts : conduct.Reacts bound react)
    (healAmount damageAmount : Value) :
    (healAndSelectTargetForDamage react healAmount damageAmount).AtMost conduct (1 + bound) :=
  fun _ acting => .telling <| .reading fun _ => atMost_behind (by simp) <| .pickOne <|
    .onRef (atMost_damagePicked reacts damageAmount _ acting)

theorem atMost_selectPredatorForEndEffect (tokenId : Value) :
    (selectPredatorForEndEffect tokenId).AtMost conduct (1 + bound) :=
  atMost_onPool fun _ _ _ => .reading fun _ => .pickOne <| .onCard fun _ =>
    .reading fun _ => .told _ (by simp)

theorem atMost_drawAndEmpowerPredator (drawCount tokenId : Value) :
    (drawAndEmpowerPredator drawCount tokenId).AtMost conduct (1 + bound) := fun context acting =>
  .reading fun _ => .ite (fun _ => .told _ (by simp)) fun _ => .telling <|
    atMost_behind (by simp) (atMost_selectPredatorForEndEffect tokenId context acting)

theorem atMost_selectFriendlyCreatureToSacrifice :
    selectFriendlyCreatureToSacrifice.AtMost conduct (1 + bound) :=
  atMost_onPool fun _ _ _ => .reading fun _ => .pickOne <| .onCard fun _ => .silent (by simp)

end Picks

section Zones

theorem atMost_discardTold (who : String) (playerIndex : Option Int) (card : CardId) :
    conduct.AtMost bound (discardTold who playerIndex card) :=
  .reading fun _ => .told _ (by simp [discardOne])

theorem atMost_selectCardToDiscard (count : Value) :
    (selectCardToDiscard count).AtMost conduct (1 + bound) := fun _ _ =>
  .reading fun board => .quietly (.require _) fun _ => .ite (fun _ => .missing _) fun _ =>
    .quietly (.orFail (board.ends_placeCandidates _ _ _)) fun _ =>
      .pickOne <| .onCard fun _ => .silent (by simp [discardOne])

theorem atMost_selectAndDiscard (count : Value) :
    (selectAndDiscard count).AtMost conduct (1 + bound) := fun _ _ =>
  .reading fun board => .quietly (.require _) fun _ => .ite (fun _ => .missing _) fun _ =>
    .quietly (.orFail (board.ends_placeCandidates _ _ _)) fun _ =>
      .pickOne <| .onCard (atMost_discardTold _ _)

theorem atMost_forceOpponentDiscard (count : Value) :
    (forceOpponentDiscard count).AtMost conduct (1 + bound) := fun _ _ =>
  .reading fun board => .ite (fun _ => .missing _) fun _ =>
    .quietly (.orFail (board.ends_placeCandidates _ _ _)) fun _ =>
      .pickOne <| .onCard (atMost_discardTold _ _)

theorem atMost_tutorFromDeck (cardType : Value) :
    (tutorFromDeck cardType).AtMost conduct (1 + bound) := by
  refine fun context _ => .reading fun board => .quietly (.require _) fun player =>
    .ite (fun _ => .missing _) fun _ => ?_
  dsimp only
  split
  · exact .missing _
  · exact .silent (by simp)
  · exact .pure (within_pickLater (.onCard fun _ => .silent (by simp)))

theorem atMost_selectCreatureFromDeckWithKeyword (keyword : Value) :
    (selectCreatureFromDeckWithKeyword keyword).AtMost conduct (1 + bound) := fun _ _ =>
  .reading fun _ => .quietly (.require _) fun _ => .ite (fun _ => .missing _) fun _ =>
    .pickOne <| .onCard fun _ => .silent (by simp)

/-- Every further spell is one more question. -/
theorem atMost_playSpell (context : Context) (several : Bool) (left step : Nat)
    (chosen : List CardId) (spell : CardId) :
    conduct.AtMost (left + bound) (playSpell context several left step chosen spell) := by
  induction left generalizing step chosen spell with
  | zero => exact .silent (by simp)
  | succ left ih =>
      refine .reading fun board => .quietly (.orFail (ends_handSpells _ _ board)) fun _ =>
        .ite (fun _ => .telling (.silent (by simp))) fun _ => .merge ?_
      refine .cons (.of_silent (by simp))
        (within_pickLater (.onCard (ih (step + 1) (chosen ++ [spell])))).single ?_
      rw [zero_add, Nat.cast_succ, ← add_assoc, add_comm 1 (left : ℕ∞)]

/-- How many spells are picked to be played. -/
def spellRounds (count : Value) : Nat :=
  (roundsUp count).toOption.elim 0 (max 1)

theorem atMost_playSpellsFromHand (count : Value) :
    (playSpellsFromHand count).AtMost conduct (spellRounds count + bound) := by
  refine fun context _ => .reading fun board =>
    .quietly (.orFail (ends_handSpells _ _ board)) fun _ =>
    .ite (fun _ => .missing _) fun _ =>
      (Conduct.Keeps.attempt (ends_roundsUp count)).bind fun rounds isRounds => ?_
  have picked (card : CardId) : conduct.AtMost ((rounds - 1 : ℕ) + bound)
      (playSpell context count.exceedsOne (rounds - 1) 0 [] card) :=
    atMost_playSpell context count.exceedsOne (rounds - 1) 0 [] card
  refine Conduct.Keeps.mono (.pickOne (.onCard picked)) ?_
  rw [← add_assoc]
  refine add_le_add_left ?_ bound
  rw [spellRounds, isRounds]
  norm_cast
  change 1 + (rounds - 1) ≤ max 1 rounds
  omega

theorem atMost_playSpellFromHand : playSpellFromHand.AtMost conduct (1 + bound) := fun _ _ =>
  .reading fun board => .quietly (.orFail (ends_handSpells _ _ board)) fun _ =>
    .ite (fun _ => .missing _) fun _ => .pickOne <| .onCard fun _ => .reading fun _ =>
      .told _ (by simp)

theorem atMost_tutorThenPlay (context : Context) (card : CardId) :
    conduct.AtMost (1 + bound) (tutorThenPlay context card) :=
  .reading fun board => .quietly (.orFail (ends_handSpells _ _ board)) fun _ =>
    .ite (fun _ => .told _ (by simp)) fun _ => .merge <| .cons (.of_silent (by simp))
      (within_pickLater (.onCard fun _ => .silent (by simp))).single (zero_add _).le

theorem atMost_tutorAndPlaySpell : tutorAndPlaySpell.AtMost conduct (2 + bound) := by
  refine fun context _ => .reading fun _ => .quietly (.require _) fun _ =>
    .ite (fun _ => .missing _) fun _ =>
    .pure ?_
  rw [← one_add_one_eq_two, add_assoc]
  exact within_pickLater (.onCard (atMost_tutorThenPlay context))

theorem atMost_drawThenDiscard (drawCount discardCount : Value) :
    (drawThenDiscard drawCount discardCount).AtMost conduct (1 + bound) := fun _ _ =>
  .telling <| .pure <| .data (within_pickLater (.onCard fun _ => .silent (by simp [discardOne])))

theorem atMost_discardThenKill (reacts : conduct.Reacts bound react) {context : Context}
    (acting : conduct.acts context) (card : CardId) :
    conduct.AtMost (1 + bound) (discardThenKill react context card) :=
  .reading fun _ => .ite (fun _ => .told _ (by simp)) fun _ =>
    atMost_behind (by simp) <| .pickOne <| .onCard fun target =>
      .reactionOr reacts target ((Outcome.Within.of_silent (by simp)).mono zero_le) acting

theorem atMost_discardDrawAndKillEnemy (reacts : conduct.Reacts bound react) :
    (discardDrawAndKillEnemy react).AtMost conduct (2 + bound) := by
  refine fun context acting => .reading fun board => .quietly (.require _) fun _ =>
    .ite (fun _ => .missing _) fun _ =>
    .quietly (.orFail (board.ends_placeCandidates _ _ _)) fun _ => ?_
  rw [← one_add_one_eq_two, add_assoc]
  exact .pickOne <| .onCard (atMost_discardThenKill reacts acting)

end Zones

section Tribes

theorem atMost_web (creature : CardId) : conduct.AtMost bound (web creature) :=
  .plainly (quiet_web creature) (straight_web creature).harmless

theorem atMost_webTarget : webTarget.AtMost conduct (1 + bound) :=
  atMost_onPool fun _ _ _ => .reading fun _ => .pickOne (.onCard atMost_web)

theorem atMost_webRandomEnemy (draws : conduct.Draws webRandomEnemy Board.enemyCreatures) :
    webRandomEnemy.AtMost conduct bound := by
  intro context acting
  by_cases inGame : context.inGame = true
  · have anyhow :
        Conduct.Keeps { conduct with manner := .any } (fun outcome => outcome.silent = true)
        (webRandomEnemy context) := by
      refine .lookingAt fun board admitted =>
        .ite (fun _ => .telling (.pure (by simp))) fun present => ?_
      dsimp only
      rw [if_pos inGame]
      have anyone : board.enemyCreatures context ≠ [] := by simpa using present
      have drawing : (Conduct.only { conduct with manner := .any } board).Keeps (fun _ => True)
          (Engine.draw (board.enemyCreatures context).length) :=
        .draw (fun _ _ => trivial) fun drawn => draws.leaves admitted acting inGame anyone drawn
      refine drawing.bind fun place _ => ?_
      split
      · exact .silently (quiet_web _) (straight_web _).harmless
      · exact .throw (conduct.fails_other (by simp))
    have silently : conduct.Keeps (fun outcome => outcome.silent = true) (webRandomEnemy context) :=
      anyhow.in_manner (draws.does context acting)
    exact silently.atMost
  · exact .plainly (quiet_webRandomEnemy inGame) (straight_webRandomEnemy context).harmless

theorem atMost_enterStalkMode : enterStalkMode.AtMost conduct (1 + bound) :=
  atMost_onPool fun _ _ _ => .reading fun _ => .pickOne <| .onCard fun creature =>
    .plainly (quiet_enterStalking creature) (straight_enterStalking creature).harmless

theorem atMost_pickFriendly {rule : Card → Bool} {missing title : String}
    {change : CardId → Engine Outcome} (each : ∀ creature, conduct.AtMost bound (change creature)) :
    (pickFriendly rule missing title change).AtMost conduct (1 + bound) :=
  atMost_onPool fun _ _ _ => .reading fun _ => .pickOne (.onCard each)

theorem atMost_grantPride : grantPride.AtMost conduct (1 + bound) :=
  atMost_pickFriendly fun _ => .reading fun _ =>
    .told _ (by simp [Outcome.addKeyword, Outcome.keywordPayload])

theorem atMost_chasePrey (atkBonus : Value) : (chasePrey atkBonus).AtMost conduct (1 + bound) :=
  atMost_pickFriendly fun _ => .reading fun _ => .told _ (by simp [Outcome.keywordPayload])

theorem atMost_grantShell (shellLevel : Value) :
    (grantShell shellLevel).AtMost conduct (1 + bound) :=
  atMost_pickFriendly fun _ => .reading fun _ => .told _ (by simp)

theorem atMost_grantMolt : grantMolt.AtMost conduct (1 + bound) :=
  atMost_pickFriendly fun _ => .reading fun _ =>
    .told _ (by simp [Outcome.addKeyword, Outcome.keywordPayload])

theorem atMost_damageEqualToStalkBonus : damageEqualToStalkBonus.AtMost conduct (1 + bound) :=
  fun _ _ =>
  .reading fun _ => .ite (fun _ => .missing _) fun _ => .ite (fun _ => .missing _) fun _ =>
    .pickOne <| .onCard fun _ => .reading fun _ => .told _ (by simp [Outcome.damageCreature])

theorem atMost_damageEqualToTotalShell : damageEqualToTotalShell.AtMost conduct (1 + bound) :=
  fun _ _ =>
  .reading fun _ => .ite (fun _ => .missing _) fun _ => .ite (fun _ => .missing _) fun _ =>
    .quietly (.orFail (Value.ends_shown _)) fun _ =>
      .pickOne <| .onCard fun _ => .reading fun _ => .told _ (by simp [Outcome.damageCreature])

end Tribes

section Groups

theorem atMost_withOwnResolver {nested : Resolution}
    (each : ∀ settings, (nested settings).AtMost conduct bound) :
    Effect.AtMost conduct bound nested.withOwnResolver := fun context acting =>
  .quietly (.settings context) fun settings =>
    (Conduct.Keeps.adopt acting settings).bind fun adopted acting =>
    each settings adopted acting

theorem atMost_applyGroupEffect (selection : TargetRef) (effect : GroupEffect)
    {nested : Option Resolution}
    (each : ∀ definition, nested = some definition →
      Effect.AtMost conduct bound definition.withOwnResolver) :
    (applyGroupEffect selection effect nested).AtMost conduct bound := by
  refine fun context acting => .reading fun board => .quietly (.forM fun _ => .announce _) fun _ =>
    .ite (fun _ => .silent ?_) fun _ => ?_
  · rw [Outcome.silent_record]
    exact Procedure.silent_stepsTaken (Procedure.silentSteps_steps board selection _) selection _
  · cases nested with
    | none => exact .nothing
    | some definition =>
        exact (Conduct.Keeps.derived acting).bind fun derived acting =>
          each definition rfl _ (conduct.passed derived.creature _ derived.resolver acting)

theorem atMost_selectFromGroup (reacts : conduct.Reacts bound react) (shape : GroupShape)
    {nested : Option Resolution}
    (each : ∀ definition, nested = some definition →
      Effect.AtMost conduct bound definition.withOwnResolver) :
    (selectFromGroup react shape nested).AtMost conduct (1 + bound) := by
  refine fun context acting => .quietly (quiet_groupTargets _ context) fun candidates =>
    .ite (fun _ => .missing _) fun _ => .pickOne <| .onRef fun selection => ?_
  have applied := atMost_applyGroupEffect selection shape.effect each context acting
  split
  · exact (Conduct.Keeps.reactionOf reacts _ none acting).bind fun response answered =>
      .ite (fun _ => .pure answered) fun _ => applied
  · exact applied

end Groups

section Menus

theorem atMost_onOption {entries : List MenuEntry} {effects : List Effect}
    (each : ∀ effect ∈ effects, effect.AtMost conduct bound) {context : Context}
    (acting : conduct.acts context) :
    ∀ choice, conduct.AtMost bound (onOption entries effects context choice)
  | .option place => by
      unfold onOption
      dsimp only
      split
      · rename_i entry effect _ found
        exact .telling (each effect (List.mem_of_getElem? found) context acting)
      · exact .throw (conduct.fails_other nofun)
  | .card _ | .ref _ | .number _ => .throw (conduct.fails_other nofun)

/-- A menu with an entry for each effect asks one question more than what is done
with its answer; a single option is taken at once. -/
theorem atMost_offer (title : String) {entries : List MenuEntry} {effects : List Effect}
    (paired : entries.length = effects.length) (present : effects ≠ [])
    (each : ∀ effect ∈ effects, effect.AtMost conduct bound) :
    (offer title entries effects).AtMost conduct (1 + bound) := by
  intro context acting
  rw [add_comm]
  match entries, effects with
  | [only], [effect] =>
      exact .telling ((each effect (List.mem_singleton_self effect) context acting).mono
        le_self_add)
  | [], [] => exact absurd rfl present
  | first :: second :: rest, effects =>
      refine .pure (.descriptor (Outcome.within_question (conduct.chosen ?_)
        (atMost_onOption each acting) le_rfl))
      exact Nat.le_add_left 2 rest.length

theorem atMost_resolveOption (effect : Value) {nested : Resolution}
    (each : effect.isNestable = true → Effect.AtMost conduct bound nested.withOwnResolver) :
    (resolveOption effect nested).AtMost conduct bound := by
  intro context acting
  cases effect with
  | list items => exact .ite (fun _ => .nothing) fun _ => each rfl context acting
  | object fields =>
      -- The shortcuts in the order in which an object is searched for them.
      refine .ite (fun empty => .nothing) fun present => ?_
      refine .ite (fun summons => ?_) fun _ => ?_
      · exact .plainly (quiet_summonTokens _ context) (straight_summonTokens _ context).harmless
      refine .ite (fun buffs => ?_) fun _ => ?_
      · split
        · exact atMost_gainStats _ _ _
        · exact .throw (conduct.fails_other nofun)
      refine .ite (fun heals => .told _ (by simp)) fun _ => ?_
      refine .ite (fun draws => .told _ (by simp)) fun _ => ?_
      refine .ite (fun damages => .told _ (by simp)) fun _ => ?_
      refine .ite (fun typed => each typed context acting) fun _ => ?_
      exact .silent (by simp)
  | _ => exact .nothing

theorem atMost_chooseOption (title : Option String) {options : List (OptionShape × Resolution)}
    (each : ∀ option ∈ options, option.1.effect.isNestable = true →
      Effect.AtMost conduct bound option.2.withOwnResolver) :
    (chooseOption title options).AtMost conduct (1 + bound) := by
  refine fun context acting => .ite (fun _ => .missing _) fun present =>
    atMost_offer _ ?_ ?_ ?_ context acting
  · simp [numbered]
  · simpa using present
  · intro effect member
    obtain ⟨option, isOption, rfl⟩ := List.mem_map.1 member
    exact atMost_resolveOption _ (each option isOption)

theorem atMost_chooseDefinition {choices : List (ChoiceShape × Resolution)}
    (each : ∀ choice ∈ choices, Effect.AtMost conduct bound choice.2.withOwnResolver) :
    (chooseDefinition choices).AtMost conduct (1 + bound) := by
  refine fun context acting => .ite (fun _ => .missing _) fun present =>
    atMost_offer _ ?_ ?_ ?_ context acting
  · simp [numbered]
  · simpa using present
  · intro effect member
    obtain ⟨choice, isChoice, rfl⟩ := List.mem_map.1 member
    exact each choice isChoice

end Menus

end Effect

namespace EffectKind

/-- How many questions an effect type asks, besides those of reactions. -/
def questions (argument : Nat → Value) : EffectKind → Nat
  | .playSpellsFromHand => Effect.spellRounds (argument 0)
  | .discardDrawAndKillEnemy | .tutorAndPlaySpell => 2
  | .webRandomEnemy => 0
  | kind => if kind.isQuiet then 0 else 1

theorem plain_rule (argument : Nat → Value) {kind : EffectKind} (quiet : kind.isQuiet = true) :
    (kind.rule react argument).Plain := by
  by_cases straight : kind.isStraight = true
  · exact (straight_rule react argument kind straight).plain
  · cases kind with
    | revealHand => exact Effect.plain_revealHand _
    | drawAndRevealHand => exact Effect.plain_drawAndRevealHand _
    | drawPerWebbed => exact Effect.plain_drawPerWebbed
    | drawPerStalking | drawPerPride | drawPerShell | drawPerMolt =>
        exact Effect.plain_scaledDraw _ _
    | webRandomEnemy => cases quiet
    | _ => exact absurd quiet straight

theorem atMost_rule (reacts : conduct.Reacts bound react) (argument : Nat → Value)
    (kind : EffectKind) (draws : ∀ pool, kind.lottery argument = some pool →
      conduct.Draws (kind.rule react argument) pool) :
    (kind.rule react argument).AtMost conduct (kind.questions argument + bound) := by
  cases quiet : kind.isQuiet with
  | true => exact (quiet_rule react argument quiet).atMost (plain_rule argument quiet)
  | false =>
    cases kind with
    | stealCreature =>
        exact Effect.atMost_stealCreature _ fun random => draws _ (by simp [lottery, random])
    | webRandomEnemy => exact Effect.atMost_webRandomEnemy (draws _ rfl)
    | playSpellsFromHand => exact Effect.atMost_playSpellsFromHand _
    | tutorAndPlaySpell => exact Effect.atMost_tutorAndPlaySpell
    | discardDrawAndKillEnemy => exact Effect.atMost_discardDrawAndKillEnemy reacts
    | selectPredatorForEndEffect => exact Effect.atMost_selectPredatorForEndEffect _
    | selectCardToDiscard => exact Effect.atMost_selectCardToDiscard _
    | selectAndDiscard => exact Effect.atMost_selectAndDiscard _
    | selectEnemyToKill => exact Effect.atMost_selectEnemyToKill reacts
    | tutorFromDeck => exact Effect.atMost_tutorFromDeck _
    | selectCreatureForDamage => exact Effect.atMost_selectCreatureForDamage reacts _ _
    | selectTargetForDamage => exact Effect.atMost_selectTargetForDamage reacts _ _
    | selectEnemyPreyToConsume => exact Effect.atMost_selectEnemyPreyToConsume reacts
    | selectCreatureToRestore => exact Effect.atMost_selectCreatureToRestore reacts
    | selectEnemyForKeyword => exact Effect.atMost_selectEnemyForKeyword reacts _
    | selectEnemyCreatureForDamage => exact Effect.atMost_selectEnemyCreatureForDamage reacts _ _
    | selectCreatureToCopy => exact Effect.atMost_selectCreatureToCopy reacts
    | selectCreatureToTransform => exact Effect.atMost_selectCreatureToTransform reacts _
    | damageRivalAndSelectEnemy => exact Effect.atMost_damageRivalAndSelectEnemy reacts _ _
    | healAndSelectTargetForDamage => exact Effect.atMost_healAndSelectTargetForDamage reacts _ _
    | webTarget => exact Effect.atMost_webTarget
    | enterStalkMode => exact Effect.atMost_enterStalkMode
    | grantPride => exact Effect.atMost_grantPride
    | damageEqualToStalkBonus => exact Effect.atMost_damageEqualToStalkBonus
    | chasePrey => exact Effect.atMost_chasePrey _
    | grantShell => exact Effect.atMost_grantShell _
    | grantMolt => exact Effect.atMost_grantMolt
    | damageEqualToTotalShell => exact Effect.atMost_damageEqualToTotalShell
    | selectEnemyToFreeze => exact Effect.atMost_selectEnemyToFreeze reacts
    | selectCreatureFromDeckWithKeyword => exact Effect.atMost_selectCreatureFromDeckWithKeyword _
    | selectFriendlyCreatureToSacrifice => exact Effect.atMost_selectFriendlyCreatureToSacrifice
    | selectEnemyToReturn => exact Effect.atMost_selectEnemyToReturn reacts _
    | drawThenDiscard => exact Effect.atMost_drawThenDiscard _ _
    | forceOpponentDiscard => exact Effect.atMost_forceOpponentDiscard _
    | playSpellFromHand => exact Effect.atMost_playSpellFromHand
    | selectEnemyToReturnToOpponentHand => exact Effect.atMost_selectEnemyToReturn reacts _
    | drawAndEmpowerPredator => exact Effect.atMost_drawAndEmpowerPredator _ _
    | eatPreyInsteadOfAttacking => exact Effect.atMost_eatPreyInsteadOfAttacking reacts
    | _ => cases quiet

end EffectKind

end CreatureCards
