import CreatureCards.EffectRule
import CreatureCards.Proofs.Announcement
import CreatureCards.Proofs.NamedArguments
import CreatureCards.Proofs.TargetingLaw

/-!
# Effects that speak

One lemma for each effect, or family of effects, that never does nothing in silence, in
the order of the modules that define them.  Most look for somebody to act on, say so if
there is nobody, and otherwise say what they do.  Picks say nothing before they are made,
but what follows a pick does, or comes to something even if the picked card reacts.
-/

namespace CreatureCards

open Engine

variable {board : Board} {react : Reactor}

theorem Board.cardCandidates_ne_nil {cards : List CardId} (viewer : Option Context) (shown : Bool)
    (present : cards ≠ []) : board.cardCandidates viewer shown cards ≠ [] := by
  simpa [Board.cardCandidates] using present

theorem Board.sorted_ne_nil {cards : List CardId} (present : cards ≠ []) :
    board.sorted cards ≠ [] := by
  obtain ⟨id, member⟩ := List.exists_mem_of_ne_nil _ present
  exact List.ne_nil_of_mem (mem_sorted.2 member)

/-- Places that are not empty offer something. -/
theorem Board.placeCandidates_ne_nil {places : Places} {viewer : Option Context} {shown : Bool}
    {candidates : List Candidate} (present : places ≠ [])
    (made : board.placeCandidates viewer shown places = .ok candidates) : candidates ≠ [] := by
  obtain ⟨cards, full, same⟩ := bind_eq_ok.1 made
  cases same
  obtain ⟨place, member⟩ := List.exists_mem_of_ne_nil _ present
  obtain ⟨card, isCard, -⟩ := exists_of_mapM full member
  exact cardCandidates_ne_nil viewer shown (List.ne_nil_of_mem isCard)

namespace Effect

/-- The effect never does nothing in silence. -/
def Speaks (effect : Effect) : Prop :=
  ∀ context board, Spoken board (effect context)

section Families

theorem speaks_onRole {role : Value} {missing : String} {act : Board → CardId → Engine Outcome}
    (each : ∀ board creature, Spoken board (act board creature)) :
    (onRole role missing act).Speaks := by
  refine fun context board => .reading ?_
  split
  · exact each _ _
  · exact .answering missing _

theorem speaks_onSource {missing : String} {act : Board → CardId → Engine Outcome}
    (each : ∀ board creature, Spoken board (act board creature)) :
    (onSource missing act).Speaks := by
  refine fun context board => .reading ?_
  split
  · exact each _ _
  · exact .answering missing _

theorem speaks_onTrapped {missing : String} {act : Context → Board → CardId → Engine Outcome}
    (each : ∀ context board creature, Spoken board (act context board creature)) :
    (onTrapped missing act).Speaks := by
  refine fun context board => .reading ?_
  split
  · exact each _ _ _
  · exact .answering missing _

theorem speaks_onAttacker {missing : String} {act : Board → CardId → Engine Outcome}
    (each : ∀ board creature, Spoken board (act board creature)) :
    (onAttacker missing act).Speaks := by
  refine fun context board => .reading ?_
  split
  · exact each _ _
  · exact .answering missing _

theorem speaks_onFriendlies (missing reached : String) (build : List CardId → Outcome) :
    (onFriendlies missing reached build).Speaks :=
  fun _ _ => .reading (.unlessEmpty fun _ => .answering reached _)

theorem speaks_onPool {pool : Board → Context → List CardId} {missing : String}
    {act : Context → List CardId → Engine Outcome}
    (each : ∀ context board creatures, creatures ≠ [] → Spoken board (act context creatures)) :
    (onPool pool missing act).Speaks :=
  fun context board => .reading (.unlessEmpty fun present => each context board _ present)

theorem speaks_onPoolTold (pool : Board → Context → List CardId) (missing reached : String)
    (build : Context → List CardId → Outcome) : (onPoolTold pool missing reached build).Speaks :=
  speaks_onPool fun _ _ _ _ => .answering reached _

/-- Something is asked about a pool of creatures. -/
theorem speaks_onPool_pick {pool : Board → Context → List CardId} {missing : String}
    {style : PickStyle} {title : String} {viewer : Context → Option Context} {shown : Bool}
    {answer : CardId → Engine Outcome} (each : ∀ board creature, Spoken board (answer creature)) :
    (onPool pool missing fun context creatures => do
      pickOne style title ((← Engine.board).cardCandidates (viewer context) shown creatures)
        (onCard answer)).Speaks :=
  speaks_onPool fun _ board _ present => .reading <|
    .pickOne (board.cardCandidates_ne_nil _ _ present) (.onCard (each board))

theorem speaks_pickFriendly {rule : Card → Bool} {missing title : String}
    {change : CardId → Engine Outcome}
    (each : ∀ board creature, Spoken board (change creature)) :
    (pickFriendly rule missing title change).Speaks :=
  speaks_onPool_pick each

/-- What is built for a picked creature is there, so it or what the creature answers with
is. -/
theorem speaks_pickFrom {pool : Board → Context → (CardId → Bool) → List CardId}
    {asked : CreaturePick}
    {build : CardId → Effect}
    (each : ∀ board target context, Present board (build target context)) :
    (pickFrom react pool asked build).Speaks := by
  refine fun context board => .reading (.unlessEmpty fun present =>
    .pickOne (board.cardCandidates_ne_nil _ _ present) (.onCard fun target => Present.spoken ?_))
  have answered :
      Present board (build target context >>= fun result =>
        reactionOr react target result context) :=
    (each board target context).bind fun _ truthy => Present.reactionOr react target truthy context
  dsimp only
  split
  · exact .after fun _ => .after fun _ => answered
  · exact answered

theorem speaks_pickEnemy {asked : CreaturePick} {build : CardId → Effect}
    (each : ∀ board target context, Present board (build target context)) :
    (pickEnemy react asked build).Speaks :=
  speaks_pickFrom each

theorem speaks_pickAny {asked : CreaturePick} {build : CardId → Effect}
    (each : ∀ board target context, Present board (build target context)) :
    (pickAny react asked build).Speaks :=
  speaks_pickFrom each

end Families

section Players

theorem speaks_draw (count : Value) : (draw count).Speaks := fun context _ =>
  .muted (.resolveCount count context) fun _ => .branch (fun _ => .answering _ _) fun _ =>
    .answering _ _

theorem speaks_summonTokens (tokenIds : Value) : (summonTokens tokenIds).Speaks :=
  fun _ _ => .unlessEmpty fun _ => .answering _ _

theorem speaks_revealHand (durationMs : Value) : (revealHand durationMs).Speaks :=
  fun context _ => .muted (.settings context) fun _ => .answering _ _

theorem speaks_drawAndRevealHand (drawCount : Value) : (drawAndRevealHand drawCount).Speaks :=
  fun context _ => .muted (.settings context) fun _ => .answering _ _

theorem speaks_tutor (cardType : Value) : (tutor cardType).Speaks := fun _ _ =>
  .reading <| .requiring fun _ => .unlessEmpty fun _ => Present.spoken (.pure rfl)

end Players

section Creatures

theorem speaks_copyAbilities (source : Value) : (copyAbilities source).Speaks := by
  refine fun context board => .reading ?_
  split
  · exact .answering _ _
  · exact .answering _ _

theorem speaks_grantKeyword (targetType keyword : Value) :
    (grantKeyword targetType keyword).Speaks := by
  unfold grantKeyword
  split
  · exact speaks_onFriendlies _ _ _
  · exact speaks_onRole fun _ _ => .answering _ _

theorem spoken_gainKeyword (keyword : String) (creature : CardId) :
    Spoken board (gainKeyword keyword creature) :=
  .reading (.answering _ _)

theorem spoken_gainStats (attack health : Value) (creature : CardId) :
    Spoken board (gainStats attack health creature) :=
  .reading (.answering _ _)

theorem speaks_buffFriendlies (attack health : Value) : (buffFriendlies attack health).Speaks := by
  unfold buffFriendlies
  exact speaks_onFriendlies _ _ _

theorem speaks_buffStats (targetType attack health : Value) :
    (buffStats targetType attack health).Speaks := by
  unfold buffStats
  split
  · exact speaks_buffFriendlies attack health
  · exact speaks_onRole fun _ _ => spoken_gainStats attack health _

theorem spoken_destroyPicked (context : Context) (target : CardId) :
    Spoken board (destroyPicked context target) :=
  .reading (.answering _ _)

end Creatures

section Fields

theorem speaks_freezeAllCreatures : freezeAllCreatures.Speaks :=
  speaks_onPoolTold _ _ _ _

theorem speaks_freezeAllEnemies : freezeAllEnemies.Speaks :=
  speaks_onPoolTold _ _ _ _

theorem speaks_removeFrozenFromFriendlies : removeFrozenFromFriendlies.Speaks :=
  speaks_onPoolTold _ _ _ _

theorem speaks_grantBarrier : grantBarrier.Speaks :=
  speaks_onPoolTold _ _ _ _

theorem speaks_removeAbilitiesAll : removeAbilitiesAll.Speaks :=
  speaks_onPoolTold _ _ _ _

theorem speaks_returnAllEnemies : returnAllEnemies.Speaks :=
  speaks_onPoolTold _ _ _ _

theorem speaks_killEnemyTokens : killEnemyTokens.Speaks :=
  speaks_onPoolTold _ _ _ _

theorem speaks_killAllEnemyCreatures : killAllEnemyCreatures.Speaks :=
  speaks_onPoolTold _ _ _ _

theorem speaks_regenOtherCreatures : regenOtherCreatures.Speaks :=
  speaks_onPoolTold _ _ _ _

theorem speaks_damageOtherCreatures (amount : Value) : (damageOtherCreatures amount).Speaks :=
  speaks_onPoolTold _ _ _ _

theorem speaks_damageEnemiesAfterCombat (damage : Value) :
    (damageEnemiesAfterCombat damage).Speaks :=
  speaks_onPoolTold _ _ _ _

theorem speaks_killAll (targetType : Value) : (killAll targetType).Speaks := by
  refine fun context board => .branch (fun _ => .throw .wrongKind) fun _ => .reading ?_
  split
  · exact .answering _ _
  · exact .unlessEmpty fun _ => .answering _ _

theorem speaks_damageAllEnemiesMultiple (amount applications : Value) :
    (damageAllEnemiesMultiple amount applications).Speaks :=
  fun _ _ => .making fun _ _ => .answering _ _

theorem speaks_damageAllAndFreezeAll (damage : Value) : (damageAllAndFreezeAll damage).Speaks :=
  fun _ _ => .reading (.answering _ _)

theorem speaks_killEnemyTokensEffect : killEnemyTokensEffect.Speaks :=
  fun _ _ => .reading (.told _ (.ite (.pure _) (.pure _)))

theorem speaks_negateAndKillAttacker : negateAndKillAttacker.Speaks := by
  refine fun context board => .reading ?_
  split
  · exact .answering _ _
  · exact .answering _ _

end Fields

section Tribes

theorem speaks_damageWebbed (damage : Value) : (damageWebbed damage).Speaks :=
  speaks_onPoolTold _ _ _ _

theorem speaks_drawIfEnemyWebbed : drawIfEnemyWebbed.Speaks :=
  speaks_onPoolTold _ _ _ _

theorem speaks_buffAll (rule : Card → Bool) (noun : String) (bonus : Value) :
    (buffAll rule noun bonus).Speaks :=
  speaks_onPoolTold _ _ _ _

theorem muted_cappedDraw (context : Context) (count : Nat) :
    Muted board (cappedDraw context count) :=
  fun _ => rfl

theorem speaks_drawPerWebbed : drawPerWebbed.Speaks :=
  speaks_onPool fun context _ _ _ => .muted (muted_cappedDraw context _) fun _ => .answering _ _

theorem speaks_scaledDraw (rule : Card → Bool) (noun : String) : (scaledDraw rule noun).Speaks :=
  speaks_onPool fun context _ _ _ => .muted (muted_cappedDraw context _) fun _ => .answering _ _

theorem speaks_healPerWebbed (amount : Value) : (healPerWebbed amount).Speaks :=
  speaks_onPool fun _ _ _ _ => .making fun _ _ => .answering _ _

theorem speaks_healPer (rule : Card → Bool) (noun : String) (amount : Value) :
    (healPer rule noun amount).Speaks :=
  speaks_onPool fun _ _ _ _ => .making fun _ _ => .answering _ _

theorem speaks_summonTokensPerWebbed (tokenId : Value) : (summonTokensPerWebbed tokenId).Speaks :=
  speaks_onPool fun _ _ _ _ => .answering _ _

theorem speaks_tokensPer (rule : Card → Bool) (noun : String) (tokenId : Value) :
    (tokensPer rule noun tokenId).Speaks :=
  speaks_onPool fun _ _ _ _ => .answering _ _

theorem spoken_enterStalking (creature : CardId) : Spoken board (enterStalking creature) :=
  .reading (.answering _ _)

theorem speaks_enterStalkMode : enterStalkMode.Speaks :=
  speaks_onPool_pick fun _ => spoken_enterStalking

theorem speaks_grantPride : grantPride.Speaks :=
  speaks_pickFriendly fun _ _ => .reading (.answering _ _)

theorem speaks_chasePrey (atkBonus : Value) : (chasePrey atkBonus).Speaks :=
  speaks_pickFriendly fun _ _ => .reading (.answering _ _)

theorem speaks_grantShell (shellLevel : Value) : (grantShell shellLevel).Speaks :=
  speaks_pickFriendly fun _ _ => .reading (.answering _ _)

theorem speaks_grantMolt : grantMolt.Speaks :=
  speaks_pickFriendly fun _ _ => .reading (.answering _ _)

theorem speaks_damageEqualToStalkBonus : damageEqualToStalkBonus.Speaks := fun _ board =>
  .reading <| .branch (fun _ => .answering _ _) fun _ => .unlessEmpty fun present =>
    .pickOne (board.cardCandidates_ne_nil _ _ present) (.onCard fun _ => .reading (.answering _ _))

theorem speaks_damageEqualToTotalShell : damageEqualToTotalShell.Speaks := fun _ _ =>
  .reading <| .branch (fun _ => .answering _ _) fun _ => .unlessEmpty fun present =>
    .making fun _ _ => .pickOne (by simpa [healthCandidates] using present)
      (.onCard fun _ => .reading (.answering _ _))

theorem speaks_regenerateAllShells : regenerateAllShells.Speaks :=
  speaks_onPool fun _ _ _ _ => .reading (.told _ (.ite (.pure _) (.pure _)))

theorem speaks_buffHpPerShell : buffHpPerShell.Speaks :=
  speaks_onPool fun _ _ _ _ => .told _ (.reading (.pure _))

end Tribes

section Picks

theorem speaks_stealCreature (targetType : Value) : (stealCreature targetType).Speaks := by
  refine fun context board =>
    .reading (.unlessEmpty fun present => .branch (fun _ => ?_) fun _ => ?_)
  · refine .muted (.draw _) fun place => ?_
    split
    · exact .reading (.answering _ _)
    · exact .throw .missingEntry
  · exact .pickOne (board.cardCandidates_ne_nil _ _ present)
      (.onCard fun _ => .reading (.answering _ _))

theorem speaks_selectEnemyForKeyword (keyword : Value) :
    (selectEnemyForKeyword react keyword).Speaks :=
  speaks_pickEnemy fun _ _ _ => .after fun _ => .after fun _ => .pure rfl

/-- The prey goes back to hand, or it is eaten. -/
theorem present_eatPicked (context : Context) (target : CardId) :
    Present board (eatPicked react context target) := by
  have eaten : Present board (do
      let board ← Engine.board
      let creature ← require context.creature
      let name := board.title creature
      let preyName := board.title target
      announce s!"{name} eats {preyName}."
      return .descriptor "eat_creature" (.record
        [("creature", .card creature), ("target", .card target),
         ("player_index", .index context.playerIndex)])) :=
    .after fun _ => .after fun _ => .after fun _ => .pure rfl
  refine .after fun response => ?_
  by_cases answered : response.isTruthy = true
  · rw [if_pos answered]
    refine .after fun returns => ?_
    cases returns with
    | true => exact .pure answered
    | false => exact eaten
  · rw [if_neg answered]
    exact eaten

theorem speaks_eatPreyInsteadOfAttacking : (eatPreyInsteadOfAttacking react).Speaks :=
  fun context board =>
  .reading <| .unlessEmpty fun present =>
    .pickOne (board.cardCandidates_ne_nil _ _ present) (.onCard fun target =>
      (present_eatPicked context target).spoken)

theorem speaks_damageRivalAndSelectEnemy (rivalDamage creatureDamage : Value) :
    (damageRivalAndSelectEnemy react rivalDamage creatureDamage).Speaks := fun _ _ =>
  .reading <| .branch (fun _ => .answering _ _) fun _ =>
    Present.spoken (.after fun _ => .merging ⟨_, .head _, rfl⟩)

theorem speaks_selectCreatureForDamage (amount label : Value) :
    (selectCreatureForDamage react amount label).Speaks := fun context board =>
  .muted (.resolveCount amount context) fun _ => .branch (fun _ => .answering _ _) fun _ =>
    speaks_pickAny (fun _ _ _ => .pure rfl) context board

theorem speaks_selectForBuff (preyOnly : Bool) (stats : Stats) :
    (selectForBuff react preyOnly stats).Speaks :=
  speaks_pickAny fun _ _ _ => .pure rfl

theorem creatureOrRivalCandidates_ne_nil (board : Board) (context : Context) :
    creatureOrRivalCandidates board context ≠ [] := by
  unfold creatureOrRivalCandidates
  dsimp only
  split
  · rename_i lured
    obtain ⟨id, member, -⟩ := List.any_eq_true.1 lured
    exact List.ne_nil_of_mem (List.mem_map_of_mem member)
  · simp

theorem present_damagePicked (amount label : Value) (context : Context) (ref : TargetRef) :
    Present board (damagePicked react amount label context ref) := by
  unfold damagePicked
  split
  · exact .after fun _ => .pure rfl
  · exact .after fun _ => .after fun _ => .after fun _ => .reactionOr react _ rfl context

theorem speaks_selectTargetForDamage (amount label : Value) :
    (selectTargetForDamage react amount label).Speaks := fun context board =>
  .reading <| .pickOne (creatureOrRivalCandidates_ne_nil board context) (.onRef fun ref =>
    (present_damagePicked amount label context ref).spoken)

theorem speaks_healAndSelectTargetForDamage (healAmount damageAmount : Value) :
    (healAndSelectTargetForDamage react healAmount damageAmount).Speaks := fun _ _ =>
  Present.spoken <| .after fun _ => .after fun _ => .after fun _ => .merging ⟨_, .head _, rfl⟩

theorem speaks_selectPredatorForEndEffect (tokenId : Value) :
    (selectPredatorForEndEffect tokenId).Speaks :=
  speaks_onPool_pick fun _ _ => .reading (.answering _ _)

theorem speaks_drawAndEmpowerPredator (drawCount tokenId : Value) :
    (drawAndEmpowerPredator drawCount tokenId).Speaks := fun _ _ =>
  .reading <| .branch (fun _ => .answering _ _) fun _ =>
    Present.spoken <| .after fun _ => .after fun _ => .merging ⟨_, .head _, rfl⟩

theorem speaks_selectFriendlyCreatureToSacrifice : selectFriendlyCreatureToSacrifice.Speaks :=
  speaks_onPool_pick fun _ _ => Present.spoken (.pure rfl)

end Picks

section Zones

theorem spoken_discardTold (who : String) (playerIndex : Option Int) (card : CardId) :
    Spoken board (discardTold who playerIndex card) :=
  .reading (.answering _ _)

theorem speaks_selectCardToDiscard (count : Value) : (selectCardToDiscard count).Speaks :=
  fun _ _ =>
  .reading <| .requiring fun _ => .unlessEmpty fun present => .making fun _ made =>
    .pickOne (Board.placeCandidates_ne_nil present made)
      (.onCard fun _ => Present.spoken (.pure rfl))

theorem speaks_selectAndDiscard (count : Value) : (selectAndDiscard count).Speaks := fun _ _ =>
  .reading <| .requiring fun _ => .unlessEmpty fun present => .making fun _ made =>
    .pickOne (Board.placeCandidates_ne_nil present made) (.onCard (spoken_discardTold _ _))

theorem speaks_forceOpponentDiscard (count : Value) : (forceOpponentDiscard count).Speaks :=
  fun _ _ =>
  .reading <| .unlessEmpty fun present => .making fun _ made =>
    .pickOne (Board.placeCandidates_ne_nil present made) (.onCard (spoken_discardTold _ _))

theorem speaks_tutorFromDeck (cardType : Value) : (tutorFromDeck cardType).Speaks := by
  refine fun context board => .reading <| .requiring fun player => .unlessEmpty fun _ => ?_
  dsimp only
  split
  · exact .answering _ _
  · exact Present.spoken (.pure rfl)
  · exact Present.spoken (.pure rfl)

theorem speaks_selectCreatureFromDeckWithKeyword (keyword : Value) :
    (selectCreatureFromDeckWithKeyword keyword).Speaks := fun _ board =>
  .reading <| .requiring fun _ => .unlessEmpty fun present =>
    .pickOne (board.cardCandidates_ne_nil _ _ (Board.sorted_ne_nil present))
      (.onCard fun _ => Present.spoken (.pure rfl))

/-- A spell is played first, whatever others follow. -/
theorem present_playSpell (context : Context) (several : Bool) (left step : Nat)
    (chosen : List CardId) (spell : CardId) :
    Present board (playSpell context several left step chosen spell) := by
  cases left with
  | zero => exact .pure rfl
  | succ left =>
    exact .after fun _ => .after fun _ =>
      .branch (.after fun _ => .pure rfl) (.merging ⟨_, .head _, rfl⟩)

theorem speaks_playSpellsFromHand (count : Value) : (playSpellsFromHand count).Speaks :=
  fun context board =>
  .reading <| .making fun _ _ => .unlessEmpty fun present => .making fun _ _ =>
    .pickOne (board.cardCandidates_ne_nil _ _ present) (.onCard fun spell =>
      (present_playSpell context _ _ _ _ spell).spoken)

theorem speaks_playSpellFromHand : playSpellFromHand.Speaks := fun _ board =>
  .reading <| .making fun _ _ => .unlessEmpty fun present =>
    .pickOne (board.cardCandidates_ne_nil _ _ present) (.onCard fun _ => .reading (.answering _ _))

theorem speaks_tutorAndPlaySpell : tutorAndPlaySpell.Speaks := fun _ _ =>
  .reading <| .requiring fun _ => .unlessEmpty fun _ => Present.spoken (.pure rfl)

/-- The discard stands, whatever becomes of the kill. -/
theorem present_discardThenKill (context : Context) (card : CardId) :
    Present board (discardThenKill react context card) :=
  .after fun _ => .branch (.after fun _ => .pure rfl) (.after fun _ => .merging ⟨_, .head _, rfl⟩)

theorem speaks_discardDrawAndKillEnemy : (discardDrawAndKillEnemy react).Speaks := fun context _ =>
  .reading <| .requiring fun _ => .unlessEmpty fun present => .making fun _ made =>
    .pickOne (Board.placeCandidates_ne_nil present made) (.onCard fun card =>
      (present_discardThenKill context card).spoken)

end Zones

end Effect

namespace EffectKind

/-- The effect type may do nothing in silence. -/
def maySlip : EffectKind → Bool
  | .webAllEnemies | .webAttacker | .webTarget | .webRandomEnemy | .buffAtkPerWebbed
  | .enterStalkModeOnPlay | .trackAttackForRegenHeal => true
  | _ => false

/-- The effect type does with its arguments what the table of rules says. -/
def isRuled : EffectKind → Bool
  | .buffStats | .selectPreyForBuff => false
  | kind => kind.takesArguments

theorem speaks_rule (react : Reactor) (argument : Nat → Value) {kind : EffectKind}
    (ruled : kind.isRuled = true) (reliable : kind.maySlip = false) :
    (kind.rule react argument).Speaks := by
  cases kind with
  | heal | damageRival | addToHand | discardCards | revealCards | allowReplay | negateAndAllowReplay
  | negateAttack | negateDamage | negatePlay | negateCombat | endTurn | damageAllCreatures
  | damageAllEnemyCreatures | damageBothPlayers | negateAndDamageAll | drawThenDiscard =>
      exact fun _ _ => .answering _ _
  | damageCreature | killCreature | transformCard | removeAbilities =>
      exact Effect.speaks_onRole fun _ _ => .answering _ _
  | reviveCreature =>
      exact fun context => Effect.speaks_onSource (fun _ _ => .answering _ _) context
  | regenSelf => exact Effect.speaks_onSource fun _ _ => .answering _ _
  | killAttacker | dealDamageToAttacker | applyNeurotoxicToAttacker | freezeAttacker =>
      exact Effect.speaks_onAttacker fun _ _ => .answering _ _
  | removeTriggeredCreatureAbilities | returnTriggeredToHand | returnTargetedToHand =>
      exact Effect.speaks_onTrapped fun _ _ _ => .answering _ _
  | freezeAllCreatures => exact Effect.speaks_freezeAllCreatures
  | freezeAllEnemies => exact Effect.speaks_freezeAllEnemies
  | removeFrozenFromFriendlies => exact Effect.speaks_removeFrozenFromFriendlies
  | grantBarrier => exact Effect.speaks_grantBarrier
  | removeAbilitiesAll => exact Effect.speaks_removeAbilitiesAll
  | returnAllEnemies => exact Effect.speaks_returnAllEnemies
  | killEnemyTokens => exact Effect.speaks_killEnemyTokens
  | killAllEnemyCreatures => exact Effect.speaks_killAllEnemyCreatures
  | regenOtherCreatures => exact Effect.speaks_regenOtherCreatures
  | drawIfEnemyWebbed => exact Effect.speaks_drawIfEnemyWebbed
  | damageOtherCreatures => exact Effect.speaks_damageOtherCreatures _
  | damageEnemiesAfterCombat => exact Effect.speaks_damageEnemiesAfterCombat _
  | damageWebbed => exact Effect.speaks_damageWebbed _
  | buffAllStalking | buffAllPride | buffAllShell | buffAllMolt => exact Effect.speaks_buffAll _ _ _
  | selectEnemyToKill | selectEnemyToFreeze | selectEnemyToReturn
  | selectEnemyToReturnToOpponentHand | selectEnemyCreatureForDamage | selectEnemyPreyToConsume =>
      exact Effect.speaks_pickEnemy fun _ _ _ => .pure rfl
  | selectCreatureToRestore | selectCreatureToCopy | selectCreatureToTransform =>
      exact Effect.speaks_pickAny fun _ _ _ => .pure rfl
  | draw => exact Effect.speaks_draw _
  | summonTokens => exact Effect.speaks_summonTokens _
  | tutor => exact Effect.speaks_tutor _
  | revealHand => exact Effect.speaks_revealHand _
  | drawAndRevealHand => exact Effect.speaks_drawAndRevealHand _
  | grantKeyword => exact Effect.speaks_grantKeyword _ _
  | copyAbilities => exact Effect.speaks_copyAbilities _
  | killAll => exact Effect.speaks_killAll _
  | damageAllEnemiesMultiple => exact Effect.speaks_damageAllEnemiesMultiple _ _
  | damageAllAndFreezeAll => exact Effect.speaks_damageAllAndFreezeAll _
  | killEnemyTokensEffect => exact Effect.speaks_killEnemyTokensEffect
  | negateAndKillAttacker => exact Effect.speaks_negateAndKillAttacker
  | drawPerWebbed => exact Effect.speaks_drawPerWebbed
  | drawPerStalking | drawPerPride | drawPerShell | drawPerMolt =>
      exact Effect.speaks_scaledDraw _ _
  | healPerWebbed => exact Effect.speaks_healPerWebbed _
  | healPerPride | healPerShell => exact Effect.speaks_healPer _ _ _
  | summonTokensPerWebbed => exact Effect.speaks_summonTokensPerWebbed _
  | summonTokensPerPride | summonTokensPerShell => exact Effect.speaks_tokensPer _ _ _
  | enterStalkMode => exact Effect.speaks_enterStalkMode
  | grantPride => exact Effect.speaks_grantPride
  | chasePrey => exact Effect.speaks_chasePrey _
  | grantShell => exact Effect.speaks_grantShell _
  | grantMolt => exact Effect.speaks_grantMolt
  | damageEqualToStalkBonus => exact Effect.speaks_damageEqualToStalkBonus
  | damageEqualToTotalShell => exact Effect.speaks_damageEqualToTotalShell
  | regenerateAllShells => exact Effect.speaks_regenerateAllShells
  | buffHpPerShell => exact Effect.speaks_buffHpPerShell
  | stealCreature => exact Effect.speaks_stealCreature _
  | selectEnemyForKeyword => exact Effect.speaks_selectEnemyForKeyword _
  | eatPreyInsteadOfAttacking => exact Effect.speaks_eatPreyInsteadOfAttacking
  | damageRivalAndSelectEnemy => exact Effect.speaks_damageRivalAndSelectEnemy _ _
  | selectCreatureForDamage => exact Effect.speaks_selectCreatureForDamage _ _
  | selectTargetForDamage => exact Effect.speaks_selectTargetForDamage _ _
  | healAndSelectTargetForDamage => exact Effect.speaks_healAndSelectTargetForDamage _ _
  | selectPredatorForEndEffect => exact Effect.speaks_selectPredatorForEndEffect _
  | drawAndEmpowerPredator => exact Effect.speaks_drawAndEmpowerPredator _ _
  | selectFriendlyCreatureToSacrifice => exact Effect.speaks_selectFriendlyCreatureToSacrifice
  | selectCardToDiscard => exact Effect.speaks_selectCardToDiscard _
  | selectAndDiscard => exact Effect.speaks_selectAndDiscard _
  | forceOpponentDiscard => exact Effect.speaks_forceOpponentDiscard _
  | tutorFromDeck => exact Effect.speaks_tutorFromDeck _
  | selectCreatureFromDeckWithKeyword => exact Effect.speaks_selectCreatureFromDeckWithKeyword _
  | playSpellsFromHand => exact Effect.speaks_playSpellsFromHand _
  | playSpellFromHand => exact Effect.speaks_playSpellFromHand
  | tutorAndPlaySpell => exact Effect.speaks_tutorAndPlaySpell
  | discardDrawAndKillEnemy => exact Effect.speaks_discardDrawAndKillEnemy
  | webAllEnemies | webAttacker | webTarget | webRandomEnemy | buffAtkPerWebbed
  | enterStalkModeOnPlay | trackAttackForRegenHeal => cases reliable
  | _ => cases ruled

end EffectKind

end CreatureCards
