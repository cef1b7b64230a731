import CreatureCards.EffectRule
import CreatureCards.Proofs.PlainEffects

/-!
# Quiet runs

A run is quiet if it looks at the board and at the settings, tells and reports
something, and does nothing else: it draws no random number, takes no seat, asks
no card for its reaction, and does not break off because reactions have no end.
All effects that ask nothing are quiet, but for the two that may draw a creature
at random.
-/

namespace CreatureCards

open Engine

/-- The run is made of looks at the board and the settings, of messages and of
reports. -/
inductive Quiet : {α : Type} → Engine α → Prop
  | pure {α : Type} (value : α) : Quiet (Pure.pure value)
  | throw {α : Type} {failure : Failure} (isOther : failure ≠ .endlessReaction) :
      Quiet (MonadExcept.throw failure : Engine α)
  | bind {α β : Type} {running : Engine α} {next : α → Engine β} (first : Quiet running)
      (each : ∀ value, Quiet (next value)) : Quiet (running >>= next)
  | board : Quiet Engine.board
  | announce (message : String) : Quiet (Engine.announce message)
  | warn (warning : Warning) : Quiet (Engine.warn warning)
  | settings (context : Context) : Quiet context.settings

/-- What an attempt fails with is not an endless chain of reactions. -/
abbrev NeverEndless {α : Type} (made : Except Failure α) : Prop :=
  FailsOnly (· ≠ .endlessReaction) made

theorem Failure.IsShapeFault.ne_endlessReaction {failure : Failure} (fault : failure.IsShapeFault) :
    failure ≠ .endlessReaction := by
  rintro rfl
  exact fault

namespace Quiet

variable {α β : Type}

theorem reading {next : Board → Engine α} (each : ∀ board, Quiet (next board)) :
    Quiet (Engine.board >>= next) :=
  Quiet.board.bind each

theorem telling {message : String} {next : Unit → Engine α} (later : Quiet (next ())) :
    Quiet (Engine.announce message >>= next) :=
  (announce message).bind fun _ => later

theorem nothing : Quiet (return .nothing : Engine Outcome) :=
  .pure _

/-- A message is told, and there is nothing to do. -/
theorem missing (message : String) : Quiet (do
    Engine.announce message
    return Outcome.nothing) :=
  .telling .nothing

theorem ite {condition : Prop} [Decidable condition] {running otherwise : Engine α}
    (whenTrue : condition → Quiet running) (whenFalse : ¬ condition → Quiet otherwise) :
    Quiet (if condition then running else otherwise) := by
  split
  · exact whenTrue ‹_›
  · exact whenFalse ‹_›

theorem orFail {made : Except Failure α} (never : NeverEndless made) :
    Quiet (Engine.orFail made) := by
  cases made with
  | error failure => exact .throw (never failure rfl)
  | ok value => exact .pure value

theorem require (found : Option α) : Quiet (Engine.require found) := by
  cases found with
  | none => exact .throw nofun
  | some value => exact .pure value

theorem forM {entries : List α} {run : α → Engine Unit} (each : ∀ entry, Quiet (run entry)) :
    Quiet (entries.forM run) := by
  induction entries with
  | nil => exact .pure ()
  | cons entry rest ih => exact (each entry).bind fun _ => ih

end Quiet

namespace Value

theorem ends_shown (number : Int) : NeverEndless (shown number) := by
  unfold shown
  exact .ite (.ok _) (.error nofun)

theorem ends_copies (count : Int) (value : Value) : NeverEndless (copies count value) := by
  unfold copies
  split
  · exact .ite (.error nofun) <| .ite (.error nofun) <| .ite (.ok _) (.ok _)
  · exact .ite (.error nofun) <| .ite (.error nofun) <| .ite (.ok _) (.ok _)
  · exact .error nofun

theorem ends_scaled (count : Int) (value : Value) : NeverEndless (scaled count value) := by
  unfold scaled
  split
  · refine FailsOnly.bind ?_ fun _ _ => .ok _
    unfold nearest
    exact .ite (.ok _) (.error nofun)
  · exact ends_copies count _

theorem ends_times (left right : Value) : NeverEndless (left.times right) := by
  unfold times
  split
  · exact (ends_shown _).map _
  · exact ends_scaled _ _
  · exact ends_scaled _ _
  · split
    · exact .ok _
    · exact .error nofun

end Value

theorem quiet_resolveCount (count : Value) (context : Context) :
    Quiet (resolveCount count context) := by
  unfold resolveCount
  refine .reading fun board => ?_
  dsimp only
  split
  all_goals first
    | exact .pure _
    | exact .throw nofun
    | exact (Quiet.warn _).bind fun _ => .pure _

namespace Effect

/-- The effect is quiet in every context. -/
def Quiet (effect : Effect) : Prop :=
  ∀ context, CreatureCards.Quiet (effect context)

section Families

variable {missing : String}

theorem quiet_told (message : String) (outcome : Outcome) :
    CreatureCards.Quiet (do
      announce message
      return outcome) :=
  .telling (.pure outcome)

theorem quiet_onRole {role : Value} {act : Board → CardId → Engine Outcome}
    (each : ∀ board creature, CreatureCards.Quiet (act board creature)) :
    (onRole role missing act).Quiet := by
  intro context
  refine .reading fun board => ?_
  split
  · exact each board _
  · exact .missing missing

theorem quiet_onSource {act : Board → CardId → Engine Outcome}
    (each : ∀ board creature, CreatureCards.Quiet (act board creature)) :
    (onSource missing act).Quiet := by
  intro context
  refine .reading fun board => ?_
  split
  · exact each board _
  · exact .missing missing

theorem quiet_onTrapped {act : Context → Board → CardId → Engine Outcome}
    (each : ∀ context board creature, CreatureCards.Quiet (act context board creature)) :
    (onTrapped missing act).Quiet := by
  intro context
  refine .reading fun board => ?_
  split
  · exact each context board _
  · exact .missing missing

theorem quiet_onAttacker {act : Board → CardId → Engine Outcome}
    (each : ∀ board creature, CreatureCards.Quiet (act board creature)) :
    (onAttacker missing act).Quiet := by
  intro context
  refine .reading fun board => ?_
  split
  · exact each board _
  · exact .missing missing

theorem quiet_onFriendlies (reached : String) (build : List CardId → Outcome) :
    (onFriendlies missing reached build).Quiet := fun _ =>
  .reading fun _ => .ite (fun _ => .missing missing) fun _ => quiet_told _ _

theorem quiet_onPool {pool : Board → Context → List CardId}
    {act : Context → List CardId → Engine Outcome}
    (each : ∀ context creatures, CreatureCards.Quiet (act context creatures)) :
    (onPool pool missing act).Quiet := fun _ =>
  .reading fun _ => .ite (fun _ => .missing missing) fun _ => each _ _

theorem quiet_onPoolTold (pool : Board → Context → List CardId) (reached : String)
    (build : Context → List CardId → Outcome) : (onPoolTold pool missing reached build).Quiet :=
  quiet_onPool fun _ _ => quiet_told _ _

end Families

section Creatures

theorem quiet_gainKeyword (keyword : String) (creature : CardId) :
    CreatureCards.Quiet (gainKeyword keyword creature) :=
  .reading fun _ => quiet_told _ _

theorem quiet_gainStats (attack health : Value) (creature : CardId) :
    CreatureCards.Quiet (gainStats attack health creature) :=
  .reading fun _ => quiet_told _ _

theorem quiet_buffFriendlies (attack health : Value) : (buffFriendlies attack health).Quiet := by
  unfold buffFriendlies
  exact quiet_onFriendlies _ _

theorem quiet_buffStats (targetType attack health : Value) :
    (buffStats targetType attack health).Quiet := by
  unfold buffStats
  split
  · exact quiet_buffFriendlies attack health
  · exact quiet_onRole fun _ creature => quiet_gainStats attack health creature

theorem quiet_grantKeyword (targetType keyword : Value) :
    (grantKeyword targetType keyword).Quiet := by
  unfold grantKeyword
  split
  · exact quiet_onFriendlies _ _
  · exact quiet_onRole fun _ _ => quiet_told _ _

theorem quiet_copyAbilities (source : Value) : (copyAbilities source).Quiet := by
  intro context
  refine .reading fun board => ?_
  split
  · exact quiet_told _ _
  · exact .missing _

theorem quiet_killAll (targetType : Value) : (killAll targetType).Quiet := by
  intro context
  unfold killAll
  refine .ite (fun _ => .throw nofun) fun _ => .reading fun board => ?_
  split
  · exact .missing _
  · exact .ite (fun _ => .missing _) fun _ => quiet_told _ _

theorem quiet_negateAndKillAttacker : negateAndKillAttacker.Quiet := by
  intro context
  refine .reading fun board => ?_
  split
  · exact quiet_told _ _
  · exact quiet_told _ _

theorem quiet_trackAttackForRegenHeal (healAmount : Value) :
    (trackAttackForRegenHeal healAmount).Quiet := by
  intro context
  unfold trackAttackForRegenHeal
  split
  · exact .nothing
  · exact quiet_told _ _

end Creatures

section Players

theorem quiet_draw (count : Value) : (draw count).Quiet := fun context =>
  (quiet_resolveCount count context).bind fun _ =>
    .ite (fun _ => .missing _) fun _ => quiet_told _ _

theorem quiet_summonTokens (tokenIds : Value) : (summonTokens tokenIds).Quiet := fun _ =>
  .ite (fun _ => .missing _) fun _ => quiet_told _ _

theorem quiet_tutor (cardType : Value) : (tutor cardType).Quiet := fun _ =>
  .reading fun _ => (Quiet.require _).bind fun _ => .ite (fun _ => .missing _) fun _ => .pure _

theorem quiet_revealHand (durationMs : Value) : (revealHand durationMs).Quiet := fun context =>
  (Quiet.settings context).bind fun _ => quiet_told _ _

theorem quiet_drawAndRevealHand (drawCount : Value) : (drawAndRevealHand drawCount).Quiet :=
  fun context => (Quiet.settings context).bind fun _ => quiet_told _ _

end Players

section Fields

theorem quiet_freezeAllCreatures : freezeAllCreatures.Quiet :=
  quiet_onPoolTold _ _ _

theorem quiet_freezeAllEnemies : freezeAllEnemies.Quiet :=
  quiet_onPoolTold _ _ _

theorem quiet_removeFrozenFromFriendlies : removeFrozenFromFriendlies.Quiet :=
  quiet_onPoolTold _ _ _

theorem quiet_grantBarrier : grantBarrier.Quiet :=
  quiet_onPoolTold _ _ _

theorem quiet_removeAbilitiesAll : removeAbilitiesAll.Quiet :=
  quiet_onPoolTold _ _ _

theorem quiet_returnAllEnemies : returnAllEnemies.Quiet :=
  quiet_onPoolTold _ _ _

theorem quiet_killEnemyTokens : killEnemyTokens.Quiet :=
  quiet_onPoolTold _ _ _

theorem quiet_killAllEnemyCreatures : killAllEnemyCreatures.Quiet :=
  quiet_onPoolTold _ _ _

theorem quiet_regenOtherCreatures : regenOtherCreatures.Quiet :=
  quiet_onPoolTold _ _ _

theorem quiet_damageOtherCreatures (amount : Value) : (damageOtherCreatures amount).Quiet :=
  quiet_onPoolTold _ _ _

theorem quiet_damageEnemiesAfterCombat (damage : Value) : (damageEnemiesAfterCombat damage).Quiet :=
  quiet_onPoolTold _ _ _

theorem quiet_damageAllEnemiesMultiple (amount applications : Value) :
    (damageAllEnemiesMultiple amount applications).Quiet := fun _ =>
  (Quiet.orFail (Value.ends_times amount applications)).bind fun _ => quiet_told _ _

theorem quiet_damageAllAndFreezeAll (damage : Value) :
    (damageAllAndFreezeAll damage).Quiet := fun _ =>
  .reading fun _ => quiet_told _ _

theorem quiet_killEnemyTokensEffect : killEnemyTokensEffect.Quiet := fun _ =>
  .reading fun _ => .telling (.ite (fun _ => .nothing) fun _ => .pure _)

end Fields

section Tribes

theorem quiet_cappedDraw (context : Context) (count : Nat) :
    CreatureCards.Quiet (cappedDraw context count) :=
  (Quiet.settings context).bind fun _ => .pure _

theorem quiet_drawPerWebbed : drawPerWebbed.Quiet :=
  quiet_onPool fun context _ => (quiet_cappedDraw context _).bind fun _ => quiet_told _ _

theorem quiet_damageWebbed (damage : Value) : (damageWebbed damage).Quiet :=
  quiet_onPoolTold _ _ _

theorem quiet_drawIfEnemyWebbed : drawIfEnemyWebbed.Quiet :=
  quiet_onPoolTold _ _ _

theorem quiet_buffAll (rule : Card → Bool) (noun : String) (bonus : Value) :
    (buffAll rule noun bonus).Quiet :=
  quiet_onPoolTold _ _ _

theorem quiet_scaledDraw (rule : Card → Bool) (noun : String) : (scaledDraw rule noun).Quiet :=
  quiet_onPool fun context _ => (quiet_cappedDraw context _).bind fun _ => quiet_told _ _

theorem quiet_web (creature : CardId) : CreatureCards.Quiet (web creature) :=
  .reading fun _ => .ite (fun _ => .nothing) fun _ => quiet_told _ _

theorem quiet_webAllEnemies : webAllEnemies.Quiet :=
  quiet_onPool fun _ _ => .reading fun _ => .ite (fun _ => .nothing) fun _ =>
    (Quiet.forM fun _ => .announce _).bind fun _ => .pure _

theorem quiet_webAttacker : webAttacker.Quiet := by
  intro context
  refine .reading fun board => ?_
  split
  · exact quiet_web _
  · exact .nothing

theorem quiet_webAt (enemies : List CardId) (place : Int) :
    CreatureCards.Quiet (match enemies[place.toNat]? with
      | some creature => web creature
      | none => throw .badValue) := by
  split
  · exact quiet_web _
  · exact .throw nofun

/-- Out of a game, nothing is drawn at random: the first enemy is webbed. -/
theorem quiet_webRandomEnemy {context : Context} (outOfGame : context.inGame ≠ true) :
    CreatureCards.Quiet (webRandomEnemy context) :=
  .reading fun _ => .ite (fun _ => .missing _) fun _ =>
    .ite (fun inGame => absurd inGame outOfGame) fun _ =>
      (Quiet.pure (0 : Int)).bind fun place => quiet_webAt _ place

theorem quiet_enterStalking (creature : CardId) : CreatureCards.Quiet (enterStalking creature) :=
  .reading fun _ => quiet_told _ _

theorem quiet_enterStalkModeOnPlay : enterStalkModeOnPlay.Quiet := by
  intro context
  refine .reading fun board => ?_
  split
  · exact .nothing
  · exact .ite (fun _ => quiet_enterStalking _) fun _ => .nothing

theorem quiet_buffAtkPerWebbed (bonus : Value) : (buffAtkPerWebbed bonus).Quiet := by
  refine quiet_onPool fun context webbed => ?_
  split
  · exact .nothing
  · exact (Quiet.orFail (Value.ends_times _ bonus)).bind fun _ => quiet_told _ _

theorem quiet_healPerWebbed (amount : Value) : (healPerWebbed amount).Quiet :=
  quiet_onPool fun _ _ => (Quiet.orFail (Value.ends_times _ amount)).bind fun _ => quiet_told _ _

theorem quiet_healPer (rule : Card → Bool) (noun : String) (amount : Value) :
    (healPer rule noun amount).Quiet :=
  quiet_onPool fun _ _ => (Quiet.orFail (Value.ends_times _ amount)).bind fun _ => quiet_told _ _

theorem quiet_summonTokensPerWebbed (tokenId : Value) : (summonTokensPerWebbed tokenId).Quiet :=
  quiet_onPool fun _ _ => quiet_told _ _

theorem quiet_tokensPer (rule : Card → Bool) (noun : String) (tokenId : Value) :
    (tokensPer rule noun tokenId).Quiet :=
  quiet_onPool fun _ _ => quiet_told _ _

theorem quiet_regenerateAllShells : regenerateAllShells.Quiet :=
  quiet_onPool fun _ _ => .reading fun _ => .telling <| .ite (fun _ => .nothing) fun _ => .pure _

theorem quiet_buffHpPerShell : buffHpPerShell.Quiet :=
  quiet_onPool fun _ _ => .telling (.reading fun _ => .pure _)

end Tribes

end Effect

namespace EffectKind

/-- The rule of the effect type asks nothing, and draws nothing at random. -/
def isQuiet : EffectKind → Bool
  | .webRandomEnemy => false
  | .revealHand | .drawPerWebbed | .drawPerStalking | .drawPerPride | .drawPerShell | .drawPerMolt
  | .drawAndRevealHand => true
  | kind => kind.isStraight

theorem quiet_rule (react : Reactor) (argument : Nat → Value) {kind : EffectKind}
    (quiet : kind.isQuiet = true) : (kind.rule react argument).Quiet := by
  cases kind with
  | heal | damageRival | addToHand | discardCards | revealCards | allowReplay | negateAndAllowReplay
  | negateAttack | negateDamage | negatePlay | negateCombat | endTurn | damageAllCreatures
  | damageAllEnemyCreatures | damageBothPlayers | negateAndDamageAll =>
      exact fun _ => Effect.quiet_told _ _
  | draw => exact Effect.quiet_draw _
  | summonTokens => exact Effect.quiet_summonTokens _
  | tutor => exact Effect.quiet_tutor _
  | damageCreature | killCreature | transformCard | removeAbilities =>
      exact Effect.quiet_onRole fun _ _ => Effect.quiet_told _ _
  | grantKeyword => exact Effect.quiet_grantKeyword _ _
  | copyAbilities => exact Effect.quiet_copyAbilities _
  | reviveCreature =>
      exact fun context => Effect.quiet_onSource (fun _ _ => Effect.quiet_told _ _) context
  | regenSelf => exact Effect.quiet_onSource fun _ _ => Effect.quiet_told _ _
  | trackAttackForRegenHeal => exact Effect.quiet_trackAttackForRegenHeal _
  | killAttacker | dealDamageToAttacker | applyNeurotoxicToAttacker | freezeAttacker =>
      exact Effect.quiet_onAttacker fun _ _ => Effect.quiet_told _ _
  | removeTriggeredCreatureAbilities | returnTriggeredToHand | returnTargetedToHand =>
      exact Effect.quiet_onTrapped fun _ _ _ => Effect.quiet_told _ _
  | negateAndKillAttacker => exact Effect.quiet_negateAndKillAttacker
  | freezeAllCreatures => exact Effect.quiet_freezeAllCreatures
  | freezeAllEnemies => exact Effect.quiet_freezeAllEnemies
  | removeFrozenFromFriendlies => exact Effect.quiet_removeFrozenFromFriendlies
  | grantBarrier => exact Effect.quiet_grantBarrier
  | removeAbilitiesAll => exact Effect.quiet_removeAbilitiesAll
  | returnAllEnemies => exact Effect.quiet_returnAllEnemies
  | killEnemyTokens => exact Effect.quiet_killEnemyTokens
  | killAllEnemyCreatures => exact Effect.quiet_killAllEnemyCreatures
  | regenOtherCreatures => exact Effect.quiet_regenOtherCreatures
  | drawIfEnemyWebbed => exact Effect.quiet_drawIfEnemyWebbed
  | damageOtherCreatures => exact Effect.quiet_damageOtherCreatures _
  | damageEnemiesAfterCombat => exact Effect.quiet_damageEnemiesAfterCombat _
  | damageWebbed => exact Effect.quiet_damageWebbed _
  | buffAllStalking | buffAllPride | buffAllShell | buffAllMolt => exact Effect.quiet_buffAll _ _ _
  | killAll => exact Effect.quiet_killAll _
  | damageAllEnemiesMultiple => exact Effect.quiet_damageAllEnemiesMultiple _ _
  | damageAllAndFreezeAll => exact Effect.quiet_damageAllAndFreezeAll _
  | killEnemyTokensEffect => exact Effect.quiet_killEnemyTokensEffect
  | webAllEnemies => exact Effect.quiet_webAllEnemies
  | webAttacker => exact Effect.quiet_webAttacker
  | drawPerWebbed => exact Effect.quiet_drawPerWebbed
  | drawPerStalking | drawPerPride | drawPerShell | drawPerMolt => exact Effect.quiet_scaledDraw _ _
  | healPerWebbed => exact Effect.quiet_healPerWebbed _
  | healPerPride | healPerShell => exact Effect.quiet_healPer _ _ _
  | buffAtkPerWebbed => exact Effect.quiet_buffAtkPerWebbed _
  | summonTokensPerWebbed => exact Effect.quiet_summonTokensPerWebbed _
  | summonTokensPerPride | summonTokensPerShell => exact Effect.quiet_tokensPer _ _ _
  | enterStalkModeOnPlay => exact Effect.quiet_enterStalkModeOnPlay
  | regenerateAllShells => exact Effect.quiet_regenerateAllShells
  | buffHpPerShell => exact Effect.quiet_buffHpPerShell
  | revealHand => exact Effect.quiet_revealHand _
  | drawAndRevealHand => exact Effect.quiet_drawAndRevealHand _
  | destroy | addKeyword | buffStats | buff | selectTarget | selectConsume | conditional
  | composite | repeated | selectFromGroup | chooseOption | choice | selectPreyForBuff
  | selectCreatureForBuff => exact fun _ => .nothing
  | _ => cases quiet

end EffectKind

end CreatureCards
