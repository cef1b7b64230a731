import CreatureCards.Proofs.ReliableOutcome

/-!
# Plain effects on a footing

An effect is supported by a footing if it never breaks off there and comes to something
reliable.  The effects that ask nothing are supported whatever roles are missing: an effect
on a role looks first whether somebody plays it.  Some of them do arithmetic on what they
are given, so they are supported as far as the totals can be told.
-/

namespace CreatureCards

open Engine

/-- On the footing, the run comes to something reliable. -/
abbrev Footing.Supports (footing : Footing) (running : Engine Outcome) : Prop :=
  Succeeds footing.admits (Outcome.IsReliable footing) running

namespace Succeeds

variable {footing : Footing}

theorem nothing : footing.Supports (return .nothing) :=
  .pure .nothing

/-- A message is told, and there is nothing to do. -/
theorem missing (message : String) : footing.Supports (do
    Engine.announce message
    return .nothing) :=
  .telling .nothing

theorem told (message : String) {key : String} {payload : Outcome}
    (free : key ∉ Outcome.boundKeys) : footing.Supports (do
      Engine.announce message
      return .descriptor key payload) :=
  .telling (.pure (.descriptor free))

end Succeeds

namespace Effect

variable {footing : Footing}

/-- In the contexts of the footing, the effect comes to something reliable. -/
def SupportedBy (footing : Footing) (effect : Effect) : Prop :=
  ∀ context, footing.acts context → footing.Supports (effect context)

theorem SupportedBy.canRun {effect : Effect} (supported : effect.SupportedBy footing) :
    Outcome.CanRun footing effect := by
  intro context acting board admitted session usable
  obtain ⟨outcome, after, ran, -, reliable⟩ :=
    supported context acting board admitted session usable
  exact ⟨outcome, after, ran, reliable.orNothing⟩

section Families

theorem supported_onRole (role : Value) (missing : String) {act : Board → CardId → Engine Outcome}
    (each : ∀ board creature, footing.Supports (act board creature)) :
    (onRole role missing act).SupportedBy footing := by
  refine fun context _ => .reading fun board _ => ?_
  split
  · exact each board _
  · exact .missing missing

theorem supported_onSource (missing : String) {act : Board → CardId → Engine Outcome}
    (each : ∀ board creature, footing.Supports (act board creature)) :
    (onSource missing act).SupportedBy footing := by
  refine fun context _ => .reading fun board _ => ?_
  split
  · exact each board _
  · exact .missing missing

theorem supported_onTrapped (missing : String) {act : Context → Board → CardId → Engine Outcome}
    (each : ∀ context board creature, footing.Supports (act context board creature)) :
    (onTrapped missing act).SupportedBy footing := by
  refine fun context _ => .reading fun board _ => ?_
  split
  · exact each context board _
  · exact .missing missing

theorem supported_onAttacker (missing : String) {act : Board → CardId → Engine Outcome}
    (each : ∀ board creature, footing.Supports (act board creature)) :
    (onAttacker missing act).SupportedBy footing := by
  refine fun context _ => .reading fun board _ => ?_
  split
  · exact each board _
  · exact .missing missing

theorem supported_onFriendlies (missing reached : String) {build : List CardId → Outcome}
    (each : ∀ creatures, Outcome.IsReliable footing (build creatures)) :
    (onFriendlies missing reached build).SupportedBy footing := fun _ _ =>
  .reading fun _ _ => .ite (fun _ => .missing missing) fun _ => .telling (.pure (each _))

theorem supported_onPool {pool : Board → Context → List CardId} {missing : String}
    {act : Context → List CardId → Engine Outcome}
    (each : ∀ context, footing.acts context → ∀ board, footing.admits board →
      pool board context ≠ [] → footing.Supports (act context (pool board context))) :
    (onPool pool missing act).SupportedBy footing := fun context acting =>
  .reading fun board admitted => .ite (fun _ => .missing missing) fun present =>
    each context acting board admitted (by simpa using present)

theorem supported_onPoolTold (pool : Board → Context → List CardId) (missing reached : String)
    {build : Context → List CardId → Outcome}
    (each : ∀ context creatures, Outcome.IsReliable footing (build context creatures)) :
    (onPoolTold pool missing reached build).SupportedBy footing :=
  supported_onPool fun context _ _ _ _ => .telling (.pure (each context _))

theorem supported_flatDamage {key : String} (free : key ∉ Outcome.boundKeys) (amount : Value)
    (whom : String) : (flatDamage key amount whom).SupportedBy footing :=
  fun _ _ => .told _ free

theorem supported_signal {key : String} (free : key ∉ Outcome.boundKeys) (message : String) :
    (signal key message).SupportedBy footing :=
  fun _ _ => .told _ free

theorem supported_returnTrapped (stray : Context → Int) :
    (returnTrapped stray).SupportedBy footing :=
  supported_onTrapped _ fun _ _ _ => .told _ (by decide)

end Families

section Players

theorem supported_heal (amount : Value) : (heal amount).SupportedBy footing :=
  fun _ _ => .told _ (by decide)

theorem succeeds_resolveCount {count : Value} (plain : count.isContainer = false)
    (context : Context) :
    Succeeds footing.admits (fun _ => True) (resolveCount count context) := by
  unfold resolveCount
  refine .reading fun board _ => ?_
  dsimp only
  split
  all_goals first
    | exact .pure trivial
    | exact .warning (.pure trivial)
    | cases plain

theorem supported_draw {count : Value} (plain : count.isContainer = false) :
    (draw count).SupportedBy footing := fun context _ =>
  (succeeds_resolveCount plain context).bind fun _ _ =>
    .ite (fun _ => .missing _) fun _ => .told _ (by decide)

theorem supported_damageRival (amount : Value) : (damageRival amount).SupportedBy footing :=
  fun _ _ => .told _ (by decide)

theorem supported_summonTokens (tokenIds : Value) : (summonTokens tokenIds).SupportedBy footing :=
  fun _ _ => .ite (fun _ => .missing _) fun _ => .told _ (by decide)

theorem supported_addToHand (cardId : Value) : (addToHand cardId).SupportedBy footing :=
  fun _ _ => .told _ (by decide)

theorem supported_discardCards (count : Value) : (discardCards count).SupportedBy footing :=
  fun _ _ => .told _ (by decide)

theorem supported_revealCards (count : Value) : (revealCards count).SupportedBy footing :=
  fun _ _ => .told _ (by decide)

theorem supported_revealHand (durationMs : Value) : (revealHand durationMs).SupportedBy footing :=
  fun context _ => (Succeeds.settings context).bind fun _ _ => .told _ (by decide)

theorem supported_drawAndRevealHand (drawCount : Value) :
    (drawAndRevealHand drawCount).SupportedBy footing := fun context _ =>
  (Succeeds.settings context).bind fun _ _ =>
    .telling (.pure (.of_keys ["draw", "reveal_hand"] rfl (by decide) (by decide)))

theorem supported_allowReplay (excludeNegated : Value) :
    (allowReplay excludeNegated).SupportedBy footing := fun _ _ =>
  .telling (.pure (.of_keys ["allow_replay", "exclude_negated"] rfl (by decide) (by decide)))

theorem supported_negateAndAllowReplay : negateAndAllowReplay.SupportedBy footing := fun _ _ =>
  .telling (.pure (.of_keys ["negate_play", "allow_replay"] rfl (by decide) (by decide)))

end Players

section Creatures

theorem supported_damageCreature (targetType amount sourceLabel : Value) :
    (damageCreature targetType amount sourceLabel).SupportedBy footing :=
  supported_onRole _ _ fun _ _ => .told _ (by decide)

theorem supported_killCreature (targetType : Value) :
    (killCreature targetType).SupportedBy footing :=
  supported_onRole _ _ fun _ _ => .told _ (by decide)

theorem supported_transformCard (targetType newCardId : Value) :
    (transformCard targetType newCardId).SupportedBy footing :=
  supported_onRole _ _ fun _ _ => .told _ (by decide)

theorem supported_removeAbilities (targetType : Value) :
    (removeAbilities targetType).SupportedBy footing :=
  supported_onRole _ _ fun _ _ => .told _ (by decide)

theorem supported_copyAbilities (source : Value) : (copyAbilities source).SupportedBy footing := by
  refine fun context _ => .reading fun board _ => ?_
  split
  · exact .told _ (by decide)
  · exact .missing _

theorem supported_reviveCreature : reviveCreature.SupportedBy footing := fun context acting =>
  supported_onSource _ (fun _ _ => .told _ (by decide)) context acting

theorem supported_regenSelf : regenSelf.SupportedBy footing :=
  supported_onSource _ fun _ _ => .told _ (by decide)

theorem supported_trackAttackForRegenHeal (healAmount : Value) :
    (trackAttackForRegenHeal healAmount).SupportedBy footing := by
  intro context _
  unfold trackAttackForRegenHeal
  split
  · exact .nothing
  · exact .told _ (by decide)

theorem supported_grantKeyword (targetType keyword : Value) :
    (grantKeyword targetType keyword).SupportedBy footing := by
  unfold grantKeyword
  split
  · exact supported_onFriendlies _ _ fun _ => .descriptor (by decide)
  · exact supported_onRole _ _ fun _ _ => .told _ (by decide)

theorem supports_gainKeyword (keyword : String) (creature : CardId) :
    footing.Supports (gainKeyword keyword creature) :=
  .reading fun _ _ => .told _ (by decide)

theorem supports_gainStats (attack health : Value) (creature : CardId) :
    footing.Supports (gainStats attack health creature) :=
  .reading fun _ _ => .told _ (by decide)

theorem supported_buffFriendlies (attack health : Value) :
    (buffFriendlies attack health).SupportedBy footing := by
  unfold buffFriendlies
  exact supported_onFriendlies _ _ fun _ => .descriptor (by decide)

theorem supported_buffStats (targetType attack health : Value) :
    (buffStats targetType attack health).SupportedBy footing := by
  unfold buffStats
  split
  · exact supported_buffFriendlies attack health
  · exact supported_onRole _ _ fun _ creature => supports_gainStats attack health creature

end Creatures

section Fields

theorem supported_freezeAllCreatures : freezeAllCreatures.SupportedBy footing :=
  supported_onPoolTold _ _ _ fun _ _ => .descriptor (by decide)

theorem supported_freezeAllEnemies : freezeAllEnemies.SupportedBy footing :=
  supported_onPoolTold _ _ _ fun _ _ => .descriptor (by decide)

theorem supported_removeFrozenFromFriendlies : removeFrozenFromFriendlies.SupportedBy footing :=
  supported_onPoolTold _ _ _ fun _ _ => .descriptor (by decide)

theorem supported_killAll {targetType : Value} (plain : targetType.isContainer = false) :
    (killAll targetType).SupportedBy footing := by
  intro context _
  unfold killAll
  rw [if_neg (by simp [plain])]
  refine .reading fun board _ => ?_
  split
  · exact .missing _
  · exact .ite (fun _ => .missing _) fun _ => .told _ (by decide)

theorem supported_grantBarrier : grantBarrier.SupportedBy footing :=
  supported_onPoolTold _ _ _ fun _ _ => .descriptor (by decide)

theorem supported_removeAbilitiesAll : removeAbilitiesAll.SupportedBy footing :=
  supported_onPoolTold _ _ _ fun _ _ => .descriptor (by decide)

theorem supported_damageOtherCreatures (amount : Value) :
    (damageOtherCreatures amount).SupportedBy footing :=
  supported_onPoolTold _ _ _ fun _ _ => .descriptor (by decide)

theorem supported_damageAllEnemiesMultiple {amount applications total : Value}
    (told : amount.times applications = .ok total) :
    (damageAllEnemiesMultiple amount applications).SupportedBy footing :=
  fun _ _ => .making told (.told _ (by decide))

theorem supported_damageEnemiesAfterCombat (damage : Value) :
    (damageEnemiesAfterCombat damage).SupportedBy footing :=
  supported_onPoolTold _ _ _ fun _ _ => .descriptor (by decide)

theorem supported_damageAllAndFreezeAll (damage : Value) :
    (damageAllAndFreezeAll damage).SupportedBy footing := by
  refine fun context _ => .reading fun board _ => .telling (.pure ?_)
  split
  · exact .of_keys ["damage_both_players"] rfl (by decide) (by decide)
  · exact .of_keys ["damage_both_players", "damage_creatures", "grant_keyword_to_all"] rfl
      (by decide) (by decide)

theorem supported_returnAllEnemies : returnAllEnemies.SupportedBy footing :=
  supported_onPoolTold _ _ _ fun _ _ => .descriptor (by decide)

theorem supported_killEnemyTokens : killEnemyTokens.SupportedBy footing :=
  supported_onPoolTold _ _ _ fun _ _ => .descriptor (by decide)

theorem supported_killEnemyTokensEffect : killEnemyTokensEffect.SupportedBy footing := fun _ _ =>
  .reading fun _ _ => .telling (.ite (fun _ => .nothing) fun _ => .pure (.descriptor (by decide)))

theorem supported_killAllEnemyCreatures : killAllEnemyCreatures.SupportedBy footing :=
  supported_onPoolTold _ _ _ fun _ _ => .descriptor (by decide)

theorem supported_regenOtherCreatures : regenOtherCreatures.SupportedBy footing :=
  supported_onPoolTold _ _ _ fun _ _ => .descriptor (by decide)

end Fields

section Traps

theorem supported_removeTriggeredCreatureAbilities :
    removeTriggeredCreatureAbilities.SupportedBy footing :=
  supported_onTrapped _ fun _ _ _ => .told _ (by decide)

theorem supported_negateAndKillAttacker : negateAndKillAttacker.SupportedBy footing := by
  refine fun context _ => .reading fun board _ => ?_
  split
  · exact .telling (.pure (.of_keys ["negate_attack", "kill_targets"] rfl (by decide) (by decide)))
  · exact .told _ (by decide)

theorem supported_negateAndDamageAll (creatureDamage playerDamage : Value) :
    (negateAndDamageAll creatureDamage playerDamage).SupportedBy footing := fun _ _ =>
  .telling <| .pure <| .of_keys ["negate_attack", "damage_all_creatures", "damage_both_players"] rfl
    (by decide) (by decide)

theorem supported_killAttacker : killAttacker.SupportedBy footing :=
  supported_onAttacker _ fun _ _ => .told _ (by decide)

theorem supported_dealDamageToAttacker (damage : Value) :
    (dealDamageToAttacker damage).SupportedBy footing :=
  supported_onAttacker _ fun _ _ => .told _ (by decide)

theorem supported_applyNeurotoxicToAttacker : applyNeurotoxicToAttacker.SupportedBy footing :=
  supported_onAttacker _ fun _ _ => .told _ (by decide)

theorem supported_freezeAttacker : freezeAttacker.SupportedBy footing :=
  supported_onAttacker _ fun _ _ => .told _ (by decide)

end Traps

section Tribes

theorem succeeds_cappedDraw (context : Context) (count : Nat) :
    Succeeds footing.admits (fun _ => True) (cappedDraw context count) :=
  (Succeeds.settings context).bind fun _ _ => .pure trivial

theorem supports_web (creature : CardId) : footing.Supports (web creature) :=
  .reading fun _ _ => .ite (fun _ => .nothing) fun _ => .told _ (by decide)

theorem supported_webAllEnemies : webAllEnemies.SupportedBy footing := by
  refine supported_onPool fun context _ _ _ _ => .reading fun board _ =>
    .ite (fun _ => .nothing) fun _ => ?_
  refine Succeeds.bind (.forM fun creature _ => .announce _) fun _ _ => ?_
  exact .pure (.descriptor (by decide))

theorem supported_webAttacker : webAttacker.SupportedBy footing := by
  refine fun context _ => .reading fun board _ => ?_
  split
  · exact supports_web _
  · exact .nothing

theorem supported_webRandomEnemy : webRandomEnemy.SupportedBy footing := by
  refine supported_onPool fun context _ board _ present => ?_
  have positive : 0 < (board.enemyCreatures context).length := List.length_pos_iff.2 present
  dsimp only
  split
  · refine .drawing positive fun place below => ?_
    rw [List.getElem?_eq_getElem below]
    exact supports_web _
  · rw [pure_bind, Int.toNat_zero, List.getElem?_eq_getElem positive]
    exact supports_web _

theorem supported_damageWebbed (damage : Value) : (damageWebbed damage).SupportedBy footing :=
  supported_onPoolTold _ _ _ fun _ _ => .descriptor (by decide)

theorem supported_drawPerWebbed : drawPerWebbed.SupportedBy footing :=
  supported_onPool fun context _ _ _ _ => (succeeds_cappedDraw context _).bind fun _ _ =>
    .told _ (by decide)

theorem supported_drawIfEnemyWebbed : drawIfEnemyWebbed.SupportedBy footing :=
  supported_onPoolTold _ _ _ fun _ _ => .descriptor (by decide)

theorem supported_summonTokensPerWebbed (tokenId : Value) :
    (summonTokensPerWebbed tokenId).SupportedBy footing :=
  supported_onPool fun _ _ _ _ _ => .told _ (by decide)

theorem supports_enterStalking (creature : CardId) : footing.Supports (enterStalking creature) :=
  .reading fun _ _ => .told _ (by decide)

theorem supported_enterStalkModeOnPlay : enterStalkModeOnPlay.SupportedBy footing := by
  refine fun context _ => .reading fun board _ => ?_
  split
  · exact .nothing
  · exact .ite (fun _ => supports_enterStalking _) fun _ => .nothing

theorem supported_scaledDraw (rule : Card → Bool) (noun : String) :
    (scaledDraw rule noun).SupportedBy footing :=
  supported_onPool fun context _ _ _ _ => (succeeds_cappedDraw context _).bind fun _ _ =>
    .told _ (by decide)

theorem supported_buffAll (rule : Card → Bool) (noun : String) (bonus : Value) :
    (buffAll rule noun bonus).SupportedBy footing :=
  supported_onPoolTold _ _ _ fun _ _ => .descriptor (by decide)

theorem supported_tokensPer (rule : Card → Bool) (noun : String) (tokenId : Value) :
    (tokensPer rule noun tokenId).SupportedBy footing :=
  supported_onPool fun _ _ _ _ _ => .told _ (by decide)

theorem supported_regenerateAllShells : regenerateAllShells.SupportedBy footing :=
  supported_onPool fun _ _ _ _ _ => .reading fun _ _ => .telling <|
    .ite (fun _ => .nothing) fun _ => .pure (.descriptor (by decide))

theorem supported_buffHpPerShell : buffHpPerShell.SupportedBy footing :=
  supported_onPool fun _ _ _ _ _ => .telling <| .reading fun _ _ => .pure (.descriptor (by decide))

end Tribes

end Effect

end CreatureCards
