import CreatureCards.Proofs.GroupShortcuts
import CreatureCards.Proofs.SupportedZones

/-!
# Supported invocations

Picks from target groups and menus go on with nested definitions, so they are supported
where those are.  What an invocation takes is a condition on its own parameters; an
invocation that takes what it is given is supported as far as its nested definitions are.
-/

namespace CreatureCards

open Engine

namespace Candidate

/-- The candidate stands for a reference to something that is there. -/
def Refers (candidate : Candidate) : Prop :=
  ∃ picked, candidate.value = .ref picked ∧ picked.HasReferent

theorem refers_player (label : String) (index : Option Int) :
    (playerCandidate label index).Refers :=
  ⟨_, rfl, trivial⟩

theorem refers_creatures (board : Board) (owner : Option Int) (ids : List CardId) :
    ∀ candidate ∈ ids.map (board.creatureCandidate owner), candidate.Refers := by
  intro candidate member
  obtain ⟨id, -, rfl⟩ := List.mem_map.1 member
  exact ⟨_, rfl, rfl⟩

end Candidate

namespace Board

variable {board : Board} {context : Context}

theorem refers_pileCandidates {kind : TargetKind} (isPile : kind = .hand ∨ kind = .carrion)
    (owner : Option Int) (pile : Places) (rule : Card → Bool) :
    ∀ candidate ∈ board.pileCandidates kind owner pile rule, candidate.Refers := by
  intro candidate member
  obtain ⟨id, -, rfl⟩ := List.mem_map.1 member
  obtain rfl | rfl := isPile <;> exact ⟨_, rfl, rfl⟩

theorem refers_mixedCandidates (rule : CardId → Bool) {others : List Candidate}
    (beside : ∀ other ∈ others, other.Refers) :
    ∀ candidate ∈ board.mixedCandidates context rule others, candidate.Refers := by
  have enemies := Candidate.refers_creatures board context.opponentIndex
    (board.targetableEnemies context rule)
  unfold mixedCandidates
  split
  · exact enemies
  · exact List.forall_mem_append.2 ⟨beside, enemies⟩

/-- Where the acting player is there, every group of candidates can be offered. -/
theorem exists_refers_groupCandidates {player : Player}
    (isActor : context.actor board = some player) (group : TargetGroup) :
    ∃ candidates, board.groupCandidates context group = .ok candidates ∧
      ∀ candidate ∈ candidates, candidate.Refers := by
  have friendly (rule : CardId → Bool) :=
    Candidate.refers_creatures board context.playerIndex
      ((board.friendlyCreatures context).filter rule)
  have enemies (rule : CardId → Bool) := Candidate.refers_creatures board context.opponentIndex
    (board.targetableEnemies context rule)
  have self : (board.selfCandidate context).Refers := Candidate.refers_player _ _
  have rival : (board.rivalCandidate context).Refers := Candidate.refers_player _ _
  have carrion (owner : Option Int) (pile : Places) :=
    board.refers_pileCandidates (.inr rfl) owner pile fun _ => true
  cases group
  case friendlyCreatures | friendlyPrey | friendlyPredators => exact ⟨_, rfl, friendly _⟩
  case enemyCreatures | enemyPrey => exact ⟨_, rfl, enemies _⟩
  case allCreatures | allPrey | otherCreatures =>
    exact ⟨_, rfl, refers_mixedCandidates _ (friendly _)⟩
  case self => exact ⟨_, rfl, List.forall_mem_singleton.2 self⟩
  case rival => exact ⟨_, rfl, List.forall_mem_singleton.2 rival⟩
  case friendlyEntities => exact ⟨_, rfl, List.forall_mem_cons.2 ⟨self, friendly anyCard⟩⟩
  case enemyEntities =>
    exact ⟨_, rfl, refers_mixedCandidates _ (List.forall_mem_singleton.2 rival)⟩
  case allEntities =>
    exact ⟨_, rfl, refers_mixedCandidates _
      (List.forall_mem_cons.2 ⟨self, List.forall_mem_cons.2 ⟨rival, friendly anyCard⟩⟩)⟩
  case handPrey =>
    refine ⟨_, ?_, board.refers_pileCandidates (.inl rfl) context.playerIndex player.hand
      Card.isPrey⟩
    simp only [groupCandidates, isActor]
  case carrionPredators =>
    refine ⟨_, ?_,
      board.refers_pileCandidates (.inr rfl) context.playerIndex player.carrion Card.isPredator⟩
    simp only [groupCandidates, isActor]
  case friendlyCarrion =>
    refine ⟨_, ?_, carrion context.playerIndex player.carrion⟩
    simp only [groupCandidates, isActor]
  case carrion =>
    have theirs : ∀ candidate ∈ (context.rival board).elim [] (fun holder =>
        board.pileCandidates .carrion context.opponentIndex holder.carrion fun _ => true),
        candidate.Refers := by
      cases context.rival board with
      | none => exact fun _ member => nomatch member
      | some holder => exact carrion _ _
    refine ⟨_, ?_, List.forall_mem_append.2 ⟨carrion context.playerIndex player.carrion, theirs⟩⟩
    simp only [groupCandidates, isActor]
    rfl

end Board

namespace Shortcut

/-- No shortcut asks for anything but descriptors. -/
theorem key_not_mem_boundKeys (context : Context) (selection : TargetRef) (shortcut : Shortcut) :
    key context selection shortcut ∉ Outcome.boundKeys := by
  cases shortcut <;> dsimp only [key]
  case damage | heal | consume | play => split <;> decide
  all_goals decide

end Shortcut

/-- The effect of an option is of a documented shape: a list, or an object in which changes
of attack and health are an object, and in which no key stands twice or asks something. -/
def Value.IsOption : Value → Prop
  | .object fields =>
    (((Value.object fields).get "buff").isTruthy →
      ((Value.object fields).get "buff").isObject = true) ∧
    (KeyedList.keys fields).Nodup ∧
    ∀ key ∈ KeyedList.keys fields, key ∉ compositeKey :: chainKeys
  | _ => True

theorem Condition.exists_holds {condition : Condition} (number : condition.minCount.isNumber = true)
    (context : Context) (board : Board) : ∃ answer, condition.holds context board = .ok answer := by
  have atMost (bound : Int) : ∃ answer, condition.minCount.atMost bound = .ok answer := by
    cases counted : condition.minCount with
    | float number =>
        unfold Value.atMost
        dsimp only
        split <;> exact ⟨_, rfl⟩
    | int _ | bool _ => exact ⟨_, rfl⟩
    | _ =>
        rw [counted] at number
        cases number
  unfold Condition.holds
  split
  · split
    · exact atMost _
    · exact ⟨false, rfl⟩
  · exact atMost _
  · exact atMost _

namespace Effect

variable {footing : Footing} {react : Reactor} {stance : Stance}

theorem supported_withOwnResolver {nested : Resolution}
    (each : ∀ settings, (nested settings).SupportedBy stance.footing) :
    Effect.SupportedBy stance.footing nested.withOwnResolver := by
  refine fun context acts => (Succeeds.settings context).bind fun settings _ =>
    (Succeeds.adopt context settings).bind fun adopted isAdopted => ?_
  obtain ⟨resolver, rfl⟩ := isAdopted
  exact each settings _ ⟨acts.player, acts.creature⟩

section Groups

theorem reliable_asked (board : Board) (context : Context) {selection : TargetRef}
    (refers : selection.HasReferent) (shortcuts : Shortcuts) :
    Outcome.IsReliable footing (.record (asked board context selection shortcuts)) := by
  refine .of_keys _ (keys_asked refers) (Shortcut.nodup_applied_keys shortcuts context selection) ?_
  intro name member
  obtain ⟨shortcut, -, rfl⟩ := List.mem_map.1 member
  exact Shortcut.key_not_mem_boundKeys context selection shortcut

theorem supported_applyGroupEffect {selection : TargetRef} (refers : selection.HasReferent)
    (effect : GroupEffect) {nested : Option Resolution}
    (each : ∀ definition, nested = some definition →
      Effect.SupportedBy stance.footing definition.withOwnResolver) :
    (applyGroupEffect selection effect nested).SupportedBy stance.footing := by
  refine fun context acts => .reading fun board _ =>
    Succeeds.bind (.forM fun step _ => .announce step.message) fun _ _ =>
      .ite (fun _ => .pure (reliable_asked board context refers effect.shortcuts)) fun _ => ?_
  cases nested with
  | none => exact .nothing
  | some definition =>
      refine (Succeeds.derived context).bind fun derived isDerived => ?_
      obtain ⟨resolver, rfl⟩ := isDerived
      exact each definition rfl _ ⟨acts.player, acts.creature⟩

theorem succeeds_groupTargets (group : Value) {context : Context} (acts : stance.Acts context) :
    Succeeds stance.footing.admits (fun candidates => ∀ candidate ∈ candidates, candidate.Refers)
      (groupTargets group context) := by
  unfold groupTargets
  split
  · refine .reading fun board admits => ?_
    obtain ⟨player, -, isActor⟩ := admits.exists_actor acts
    obtain ⟨candidates, made, refers⟩ := Board.exists_refers_groupCandidates isActor _
    exact .orFail made refers
  · exact .warning (.pure fun _ member => nomatch member)

theorem supported_selectFromGroup (silent : react.Silent stance.footing.admits) (shape : GroupShape)
    {nested : Option Resolution}
    (each : ∀ definition, nested = some definition →
      Effect.SupportedBy stance.footing definition.withOwnResolver) :
    (selectFromGroup react shape nested).SupportedBy stance.footing := by
  refine fun context acts => (succeeds_groupTargets _ acts).bind fun candidates refers =>
    .ite (fun _ => .missing _) fun _ => .pickOne fun candidate member => ?_
  obtain ⟨picked, isPicked, hasReferent⟩ := refers candidate member
  have applied := supported_applyGroupEffect hasReferent shape.effect each context acts
  rw [isPicked]
  dsimp only [onRef]
  split
  · refine (Succeeds.reactionOf silent _ none context).bind fun response isNull => ?_
    subst isNull
    exact applied
  · exact applied

end Groups

section Menus

/-- A menu with an entry for each effect can be answered with each of its entries. -/
theorem supported_offer (title : String) {entries : List MenuEntry} {effects : List Effect}
    (paired : entries.length = effects.length)
    (each : ∀ effect ∈ effects, effect.SupportedBy footing) :
    (offer title entries effects).SupportedBy footing := by
  intro context acting
  unfold offer
  split
  · exact .telling (each _ (List.mem_singleton_self _) context acting)
  · refine .pure (.offering (.of_answers (fun _ _ => trivial) fun _ _ choice shows => ?_))
    obtain ⟨place, below, rfl⟩ := shows
    have within : place < effects.length := paired ▸ below
    have found : effects[place]? = some effects[place] := List.getElem?_eq_getElem within
    have entered : entries[place]? = some entries[place] := List.getElem?_eq_getElem below
    dsimp only [onOption]
    rw [entered, found]
    exact Succeeds.telling ((each _ (List.getElem_mem _) context acting).weaken
      fun _ reliable => reliable.orNothing)

theorem supported_resolveOption {effect : Value} (isOption : effect.IsOption) {nested : Resolution}
    (each : effect.isNestable = true → Effect.SupportedBy footing nested.withOwnResolver) :
    (resolveOption effect nested).SupportedBy footing := by
  intro context acting
  cases effect with
  | list items => exact .ite (fun _ => .nothing) fun _ => each rfl context acting
  | object fields =>
      obtain ⟨isObject, distinct, free⟩ := isOption
      refine .ite (fun _ => .nothing) fun _ => .ite (fun _ => ?_) fun _ =>
        .ite (fun buffs => ?_) fun _ =>
        .ite (fun _ => .told _ (by decide)) fun _ => .ite (fun _ => .told _ (by decide)) fun _ =>
        .ite (fun _ => .told _ (by decide)) fun _ =>
          .ite (fun typed => each typed context acting) fun _ => ?_
      · exact supported_summonTokens _ context acting
      · rw [Bool.and_eq_true] at buffs
        obtain ⟨truthy, present⟩ := buffs
        obtain ⟨creature, isCreature⟩ := Option.isSome_iff_exists.1 present
        have changes := isObject truthy
        cases buff : (Value.object fields).get "buff" with
        | object stats =>
            rw [isCreature]
            exact supports_gainStats _ _ creature
        | _ =>
            rw [buff] at changes
            cases changes
      · refine .pure (.of_silent (Outcome.silent_ofFields fields) ?_ ?_)
        · rwa [Outcome.keys_ofFields]
        · rwa [Outcome.keys_ofFields]
  | _ => exact .nothing

theorem supported_chooseOption (title : Option String) {options : List (OptionShape × Resolution)}
    (documented : ∀ option ∈ options, option.1.effect.IsOption)
    (each : ∀ option ∈ options, option.1.effect.isNestable = true →
      Effect.SupportedBy footing option.2.withOwnResolver) :
    (chooseOption title options).SupportedBy footing := by
  refine fun context acting => .ite (fun _ => .missing _) fun _ =>
    supported_offer _ (by simp [numbered]) (fun effect member => ?_) context acting
  obtain ⟨option, isOption, rfl⟩ := List.mem_map.1 member
  exact supported_resolveOption (documented option isOption) (each option isOption)

theorem supported_chooseDefinition {choices : List (ChoiceShape × Resolution)}
    (each : ∀ choice ∈ choices, Effect.SupportedBy footing choice.2.withOwnResolver) :
    (chooseDefinition choices).SupportedBy footing := by
  refine fun context acting => .ite (fun _ => .missing _) fun _ =>
    supported_offer _ (by simp [numbered]) (fun effect member => ?_) context acting
  obtain ⟨choice, isChoice, rfl⟩ := List.mem_map.1 member
  exact each choice isChoice

end Menus

theorem supported_composite {effects : List Effect}
    (each : ∀ effect ∈ effects, effect.SupportedBy footing) :
    (composite effects).SupportedBy footing := fun context acting =>
  (Succeeds.mapM fun effect member => each effect member context acting).bind fun _ reliable =>
    .pure (.collect reliable)

theorem supported_conditional {condition : Condition}
    (number : condition.minCount.isNumber = true) {whenTrue : Effect} {whenFalse : Option Effect}
    (first : whenTrue.SupportedBy footing)
    (second : ∀ effect, whenFalse = some effect → effect.SupportedBy footing) :
    (conditional condition whenTrue whenFalse).SupportedBy footing := by
  refine fun context acting => .reading fun board _ => ?_
  obtain ⟨answer, holds⟩ := Condition.exists_holds number context board
  refine .making holds <| .ite (fun _ => first context acting) fun _ => ?_
  split
  · exact second _ rfl context acting
  · exact .nothing

end Effect

namespace EffectKind

/-- The effect type can do with the arguments: what counts is a number or a name, what adds
up to a total can be told, and what eats has a creature. -/
def Takes (stance : Stance) (argument : Nat → Value) : EffectKind → Prop
  | .draw | .selectCreatureForDamage | .killAll => (argument 0).isContainer = false
  | .playSpellsFromHand => (argument 0).isNumber = true
  | .damageAllEnemiesMultiple => ∃ amount applications, argument 0 = .int amount ∧
      argument 1 = .int applications ∧ Value.IsTellable (amount * applications)
  | .healPerWebbed | .buffAtkPerWebbed | .healPerPride | .healPerShell =>
      ∃ amount, argument 0 = .int amount ∧ Value.IsTellable (stance.slots * amount)
  | .eatPreyInsteadOfAttacking => stance.creature ≠ none
  | _ => True

variable {react : Reactor} {stance : Stance}

theorem supported_rule (silent : react.Silent stance.footing.admits) (argument : Nat → Value)
    {kind : EffectKind} (takes : kind.Takes stance argument) :
    (kind.rule react argument).SupportedBy stance.footing := by
  cases kind with
  | heal => exact Effect.supported_heal _
  | draw => exact Effect.supported_draw takes
  | damageRival => exact Effect.supported_damageRival _
  | damageCreature => exact Effect.supported_damageCreature _ _ _
  | summonTokens => exact Effect.supported_summonTokens _
  | addToHand => exact Effect.supported_addToHand _
  | transformCard => exact Effect.supported_transformCard _ _
  | killCreature => exact Effect.supported_killCreature _
  | grantKeyword => exact Effect.supported_grantKeyword _ _
  | negateAttack | negateDamage | negatePlay | negateCombat | endTurn =>
      exact Effect.supported_signal (by decide) _
  | allowReplay => exact Effect.supported_allowReplay _
  | killAttacker => exact Effect.supported_killAttacker
  | freezeAllCreatures => exact Effect.supported_freezeAllCreatures
  | discardCards => exact Effect.supported_discardCards _
  | revealCards => exact Effect.supported_revealCards _
  | tutor => exact Effect.supported_tutor _
  | copyAbilities => exact Effect.supported_copyAbilities _
  | stealCreature => exact Effect.supported_stealCreature _
  | killAll => exact Effect.supported_killAll takes
  | revealHand => exact Effect.supported_revealHand _
  | grantBarrier => exact Effect.supported_grantBarrier
  | removeAbilities => exact Effect.supported_removeAbilities _
  | removeAbilitiesAll => exact Effect.supported_removeAbilitiesAll
  | selectPredatorForEndEffect => exact Effect.supported_selectPredatorForEndEffect _
  | selectCardToDiscard => exact Effect.supported_selectCardToDiscard _
  | selectAndDiscard => exact Effect.supported_selectAndDiscard _
  | selectEnemyToKill => exact Effect.supported_selectEnemyToKill silent
  | tutorFromDeck => exact Effect.supported_tutorFromDeck _
  | selectCreatureForDamage => exact Effect.supported_selectCreatureForDamage silent takes _
  | selectTargetForDamage => exact Effect.supported_selectTargetForDamage silent _ _
  | selectEnemyPreyToConsume => exact Effect.supported_selectEnemyPreyToConsume silent
  | selectCreatureToRestore => exact Effect.supported_selectCreatureToRestore silent
  | damageAllCreatures | damageAllEnemyCreatures | damageBothPlayers =>
      exact Effect.supported_flatDamage (by decide) _ _
  | damageOtherCreatures => exact Effect.supported_damageOtherCreatures _
  | returnAllEnemies => exact Effect.supported_returnAllEnemies
  | killEnemyTokens => exact Effect.supported_killEnemyTokens
  | killAllEnemyCreatures => exact Effect.supported_killAllEnemyCreatures
  | selectEnemyForKeyword => exact Effect.supported_selectEnemyForKeyword silent _
  | selectEnemyCreatureForDamage => exact Effect.supported_selectEnemyCreatureForDamage silent _ _
  | selectCreatureToCopy => exact Effect.supported_selectCreatureToCopy silent
  | selectCreatureToTransform => exact Effect.supported_selectCreatureToTransform silent _
  | removeTriggeredCreatureAbilities => exact Effect.supported_removeTriggeredCreatureAbilities
  | negateAndDamageAll => exact Effect.supported_negateAndDamageAll _ _
  | returnTriggeredToHand | returnTargetedToHand => exact Effect.supported_returnTrapped _
  | negateAndKillAttacker => exact Effect.supported_negateAndKillAttacker
  | damageRivalAndSelectEnemy => exact Effect.supported_damageRivalAndSelectEnemy silent _ _
  | damageAllEnemiesMultiple =>
      obtain ⟨amount, applications, isAmount, isApplications, tellable⟩ := takes
      have told : (argument 0).times (argument 1) = .ok (.int (amount * applications)) := by
        rw [isAmount, isApplications]
        exact Value.times_of_isTellable tellable
      exact Effect.supported_damageAllEnemiesMultiple told
  | killEnemyTokensEffect => exact Effect.supported_killEnemyTokensEffect
  | healAndSelectTargetForDamage => exact Effect.supported_healAndSelectTargetForDamage silent _ _
  | negateAndAllowReplay => exact Effect.supported_negateAndAllowReplay
  | playSpellsFromHand => exact Effect.supported_playSpellsFromHand takes
  | webAllEnemies => exact Effect.supported_webAllEnemies
  | webAttacker => exact Effect.supported_webAttacker
  | webTarget => exact Effect.supported_webTarget
  | webRandomEnemy => exact Effect.supported_webRandomEnemy
  | damageWebbed => exact Effect.supported_damageWebbed _
  | drawPerWebbed => exact Effect.supported_drawPerWebbed
  | healPerWebbed => exact Effect.supported_healPerWebbed takes
  | drawIfEnemyWebbed => exact Effect.supported_drawIfEnemyWebbed
  | buffAtkPerWebbed => exact Effect.supported_buffAtkPerWebbed takes
  | summonTokensPerWebbed => exact Effect.supported_summonTokensPerWebbed _
  | enterStalkMode => exact Effect.supported_enterStalkMode
  | enterStalkModeOnPlay => exact Effect.supported_enterStalkModeOnPlay
  | drawPerStalking | drawPerPride | drawPerShell | drawPerMolt =>
      exact Effect.supported_scaledDraw _ _
  | buffAllStalking | buffAllPride | buffAllShell | buffAllMolt =>
      exact Effect.supported_buffAll _ _ _
  | summonTokensPerPride | summonTokensPerShell => exact Effect.supported_tokensPer _ _ _
  | healPerPride | healPerShell => exact Effect.supported_healPer _ _ takes
  | grantPride => exact Effect.supported_grantPride
  | damageEqualToStalkBonus => exact Effect.supported_damageEqualToStalkBonus
  | chasePrey => exact Effect.supported_chasePrey _
  | regenerateAllShells => exact Effect.supported_regenerateAllShells
  | grantShell => exact Effect.supported_grantShell _
  | grantMolt => exact Effect.supported_grantMolt
  | damageEqualToTotalShell => exact Effect.supported_damageEqualToTotalShell
  | buffHpPerShell => exact Effect.supported_buffHpPerShell
  | selectEnemyToFreeze => exact Effect.supported_selectEnemyToFreeze silent
  | freezeAllEnemies => exact Effect.supported_freezeAllEnemies
  | removeFrozenFromFriendlies => exact Effect.supported_removeFrozenFromFriendlies
  | selectCreatureFromDeckWithKeyword =>
      exact Effect.supported_selectCreatureFromDeckWithKeyword _
  | selectFriendlyCreatureToSacrifice => exact Effect.supported_selectFriendlyCreatureToSacrifice
  | reviveCreature => exact Effect.supported_reviveCreature
  | regenSelf => exact Effect.supported_regenSelf
  | selectEnemyToReturn | selectEnemyToReturnToOpponentHand =>
      exact Effect.supported_selectEnemyToReturn silent _
  | discardDrawAndKillEnemy => exact Effect.supported_discardDrawAndKillEnemy silent
  | drawThenDiscard => exact Effect.supported_drawThenDiscard _ _
  | forceOpponentDiscard => exact Effect.supported_forceOpponentDiscard _
  | drawAndRevealHand => exact Effect.supported_drawAndRevealHand _
  | tutorAndPlaySpell => exact Effect.supported_tutorAndPlaySpell
  | damageAllAndFreezeAll => exact Effect.supported_damageAllAndFreezeAll _
  | regenOtherCreatures => exact Effect.supported_regenOtherCreatures
  | playSpellFromHand => exact Effect.supported_playSpellFromHand
  | drawAndEmpowerPredator => exact Effect.supported_drawAndEmpowerPredator _ _
  | trackAttackForRegenHeal => exact Effect.supported_trackAttackForRegenHeal _
  | dealDamageToAttacker => exact Effect.supported_dealDamageToAttacker _
  | applyNeurotoxicToAttacker => exact Effect.supported_applyNeurotoxicToAttacker
  | freezeAttacker => exact Effect.supported_freezeAttacker
  | damageEnemiesAfterCombat => exact Effect.supported_damageEnemiesAfterCombat _
  | eatPreyInsteadOfAttacking => exact Effect.supported_eatPreyInsteadOfAttacking silent takes
  | destroy | addKeyword | buffStats | buff | selectTarget | selectConsume | conditional
  | composite | repeated | selectFromGroup | chooseOption | choice | selectPreyForBuff
  | selectCreatureForBuff => exact fun _ _ => .nothing

end EffectKind

namespace Invocation

/-- The invocation can do with its own parameters. -/
def IsWellTyped {α : Type} (stance : Stance) : Invocation α → Prop
  | direct kind arguments => kind.Takes stance fun place => arguments.getD place .null
  | conditional condition _ _ => condition.minCount.isNumber = true
  | chooseOption _ options => ∀ option ∈ options, option.1.effect.IsOption
  | selectTargetIdly _ => False
  | _ => True

variable {react : Reactor} {stance : Stance} {resolution : Value → Resolution}

theorem supported_effect (silent : react.Silent stance.footing.admits) {asked : Invocation Value}
    (typed : asked.IsWellTyped stance)
    (each : ∀ nested ∈ asked.pursued, ∀ settings,
      (resolution nested settings).SupportedBy stance.footing) (settings : Settings) :
    ((asked.mapDefinitions fun nested _ => resolution nested).effect react settings).SupportedBy
      stance.footing := by
  cases asked with
  | direct kind arguments =>
      rw [IsWellTyped] at typed
      exact EffectKind.supported_rule silent (fun place => arguments.getD place .null) typed
  | buffStats targetType attack health => exact Effect.supported_buffStats _ _ _
  | selectForBuff preyOnly stats => exact Effect.supported_selectForBuff silent _ _
  | destroy shape => exact Effect.supported_destroy shape
  | addKeyword shape => exact Effect.supported_addKeyword shape
  | buff shape => exact Effect.supported_buff shape
  | composite effects =>
      simp only [mapDefinitions, effect, List.attach_map_val, List.map_map]
      refine Effect.supported_composite fun effect member => ?_
      obtain ⟨nested, isNested, rfl⟩ := List.mem_map.1 member
      exact each nested isNested settings
  | repeated nested count =>
      refine Effect.supported_composite fun effect member => ?_
      rw [List.eq_of_mem_replicate member]
      exact each nested (List.mem_singleton_self nested) settings
  | conditional condition whenTrue whenFalse =>
      simp only [mapDefinitions, effect, Option.attach_map_val, Option.map_map]
      refine Effect.supported_conditional typed (each whenTrue List.mem_cons_self settings) ?_
      intro branch found
      obtain ⟨nested, rfl, rfl⟩ := Option.map_eq_some_iff.1 found
      exact each nested (List.mem_cons_of_mem _ (List.mem_singleton_self nested)) settings
  | selectTarget pool nested =>
      rw [mapDefinitions, effect]
      exact Effect.supported_selectTarget pool
        (each nested (List.mem_singleton_self nested) settings)
  | selectConsume cardType count nested =>
      simp only [mapDefinitions, effect, Option.attach_map_val]
      refine Effect.supported_selectConsume cardType count fun follow isFollow => ?_
      cases nested with
      | none => cases isFollow
      | some nested =>
          cases isFollow
          exact (each nested (List.mem_singleton_self nested) settings).canRun
  | selectTargetIdly pool => exact typed.elim
  | selectConsumeNoting cardType count note =>
      refine Effect.supported_selectConsume _ _ fun follow isFollow => ?_
      cases isFollow
  | selectFromGroup shape nested =>
      simp only [mapDefinitions, effect, Option.attach_map_val]
      refine Effect.supported_selectFromGroup silent shape fun definition found => ?_
      obtain ⟨inner, rfl, rfl⟩ := Option.map_eq_some_iff.1 found
      exact Effect.supported_withOwnResolver (each inner (List.mem_singleton_self inner))
  | chooseOption title options =>
      simp only [mapDefinitions, effect]
      refine Effect.supported_chooseOption title (fun option member => ?_)
        fun option member nestable => ?_
      · obtain ⟨⟨entry, isEntry⟩, -, rfl⟩ := List.mem_map.1 member
        exact typed entry isEntry
      · obtain ⟨⟨entry, isEntry⟩, -, rfl⟩ := List.mem_map.1 member
        exact Effect.supported_withOwnResolver (each entry.2
          (List.mem_map_of_mem (List.mem_filter.2 ⟨isEntry, nestable⟩)))
  | choice choices =>
      simp only [mapDefinitions, effect]
      refine Effect.supported_chooseDefinition fun choice member => ?_
      obtain ⟨⟨entry, isEntry⟩, -, rfl⟩ := List.mem_map.1 member
      exact Effect.supported_withOwnResolver (each entry.2 (List.mem_map_of_mem isEntry))

end Invocation

end CreatureCards
