import CreatureCards.Proofs.ArrangedResolution
import CreatureCards.Proofs.PickProcedure

/-!
# Procedures of invocations

Picks from target groups, menus and conditions hand over to nested definitions.
With those, every effect type has a procedure, and so has every invocation; the
nested definitions that its procedure may reach are those that may come to be
resolved.
-/

namespace CreatureCards

open Engine

namespace Procedure

variable {react : Reactor} {given : Effect → Prop} {context : Context}

section Groups

/-- Every step asks for something silent. -/
def SilentSteps (steps : List Effect.Step) : Prop :=
  ∀ step ∈ steps, step.payload.silent = true

theorem silentSteps_append {steps others : List Effect.Step} :
    SilentSteps (steps ++ others) ↔ SilentSteps steps ∧ SilentSteps others :=
  List.forall_mem_append

theorem silentSteps_flagStep {flag : Bool} {message key : String} {payload : Outcome}
    (silent : payload.silent = true) : SilentSteps (Effect.flagStep flag message key payload) := by
  unfold Effect.flagStep
  split <;> simp [SilentSteps, silent]

theorem silentSteps_map {α : Type} {found : Option α} {make : α → Effect.Step}
    (silent : ∀ value, (make value).payload.silent = true) :
    SilentSteps (found.toList.map make) := by
  intro step member
  obtain ⟨value, -, rfl⟩ := List.mem_map.1 member
  exact silent value

theorem silentSteps_creatureSteps (owner : Option Int) (creature : CardId) (name : String)
    (shortcuts : Shortcuts) :
    SilentSteps (Effect.creatureSteps context owner creature name shortcuts) := by
  have consumed : (if (owner != context.playerIndex) = true then
      Effect.consumeEnemyPrey context.creature creature owner
    else ("consume_creature", .card creature)).2.silent = true := by
    split <;> simp [Effect.consumeEnemyPrey]
  have card : (Outcome.card creature).silent = true := by simp
  have copied : (Effect.copyPayload context.creature creature).silent = true := by
    simp [Effect.copyPayload]
  simp only [Effect.creatureSteps, silentSteps_append, and_assoc]
  constructor
  · exact silentSteps_map fun amount => by simp
  constructor
  · exact silentSteps_map fun amount => by simp
  constructor
  · exact silentSteps_flagStep card
  constructor
  · exact silentSteps_map fun stats => by simp
  constructor
  · exact silentSteps_map fun keyword => by simp [Outcome.keywordPayload]
  constructor
  · exact silentSteps_flagStep card
  constructor
  · exact silentSteps_flagStep consumed
  constructor
  · exact silentSteps_flagStep card
  constructor
  · exact silentSteps_flagStep (by simp)
  constructor
  · exact silentSteps_flagStep copied
  constructor
  · exact silentSteps_flagStep copied
  constructor
  · exact silentSteps_flagStep card
  · exact silentSteps_flagStep card

theorem silentSteps_playerSteps (shortcuts : Shortcuts) :
    SilentSteps (Effect.playerSteps shortcuts) :=
  silentSteps_append.2 ⟨silentSteps_map fun _ => by simp, silentSteps_map fun _ => by simp⟩

theorem silentSteps_carrionSteps (owner : Option Int) (card : CardId) (name : String)
    (shortcuts : Shortcuts) :
    SilentSteps (Effect.carrionSteps context owner card name shortcuts) := by
  have keyword : (shortcuts.keyword.elim .null .text : Outcome).silent = true := by
    cases shortcuts.keyword <;> exact Outcome.silent_value _
  simp only [Effect.carrionSteps, silentSteps_append, and_assoc]
  refine ⟨?_, ?_, ?_, ?_⟩ <;>
    exact silentSteps_flagStep (by simp [Effect.copyPayload, keyword])

theorem silentSteps_steps (board : Board) (selection : TargetRef) (shortcuts : Shortcuts) :
    SilentSteps (Effect.steps board context selection shortcuts) := by
  have none : SilentSteps [] := fun _ member => nomatch member
  unfold Effect.steps
  split
  · cases selection.creature with
    | none => exact none
    | some creature => exact silentSteps_creatureSteps _ creature _ shortcuts
  · exact silentSteps_playerSteps shortcuts
  · cases selection.subject with
    | none => exact none
    | some card => exact silentSteps_carrionSteps _ card _ shortcuts
  · cases selection.subject with
    | none => exact none
    | some card => exact silentSteps_flagStep (by simp)
  · exact none

theorem silent_stepsTaken {steps : List Effect.Step} (silent : SilentSteps steps)
    (selection : TargetRef) (shortcuts : Shortcuts) :
    Outcome.silentFields (steps.map (fun step => (step.key, step.payload)) ++
      Effect.sacrificeDraw selection shortcuts) = true := by
  rw [Outcome.silentFields_iff, List.forall_mem_append]
  refine ⟨List.forall_mem_map.2 silent, ?_⟩
  unfold Effect.sacrificeDraw
  split <;> simp

def applyGroupEffect (selection : TargetRef) (effect : GroupEffect) {nested : Option Resolution}
    (reached : ∀ definition, nested = some definition → given definition.withOwnResolver) :
    Procedure react given (Effect.applyGroupEffect selection effect nested context) :=
  .reading fun board => .first (Harmless.forM fun _ _ => .announce _) fun _ _ =>
    .branch (.act (.pure (by
      simpa using silent_stepsTaken (silentSteps_steps board selection _) selection _))) <|
      match nested with
      | some definition => .fromDerived fun _ => .nested (reached definition rfl)
      | none => nothing

/-- A pile of the acting player may be missing, but that refuses no definition. -/
theorem unrefused_ownPile (board : Board) (kind : TargetKind) (pile : Player → Places)
    (rule : Card → Bool) :
    NeverRefuses (match context.actor board with
      | some player => .ok (board.pileCandidates kind context.playerIndex (pile player) rule)
      | none => .error .missingPart) := by
  split
  · exact .ok _
  · exact .error id

theorem unrefused_groupCandidates (board : Board) (group : TargetGroup) :
    NeverRefuses (board.groupCandidates context group) := by
  cases group
  case handPrey => exact unrefused_ownPile board _ _ _
  case carrionPredators => exact unrefused_ownPile board _ _ _
  case friendlyCarrion => exact unrefused_ownPile board _ _ _
  case carrion => exact (unrefused_ownPile board _ _ _).bind fun _ _ => .ok _
  all_goals exact .ok _

theorem elementary_groupTargets (group : Value) :
    Elementary (fun _ => True) (groupTargets group context) := by
  unfold groupTargets
  split
  · exact .reading fun board =>
      (Elementary.orFail (unrefused_groupCandidates board _)).weaken fun _ _ => trivial
  · exact .warning id (.pure trivial)

def selectFromGroup (shape : GroupShape) {nested : Option Resolution}
    (reached : ∀ definition, nested = some definition → given definition.withOwnResolver) :
    Procedure react given (Effect.selectFromGroup react shape nested context) :=
  .first (elementary_groupTargets _).harmless fun _ _ => .branch missing <|
    .pickRef ((TargetGroup.ofValue? (.text shape.targetGroup)).bind (Demand.ofGroup context))
      fun selection =>
      match Effect.pickedCreature selection with
      | some _ => .reacting answers answers_null (applyGroupEffect selection shape.effect reached)
      | none => applyGroupEffect selection shape.effect reached

end Groups

section Menus

theorem onOption_of_found {α : Type} {entries : List MenuEntry} {options : List α}
    {effect : α → Effect} {place : Nat} {entry : MenuEntry} {option : α}
    (entered : entries[place]? = some entry) (found : options[place]? = some option) :
    (do
      announce s!"Chose: {entry.label}"
      effect option context) =
      Effect.onOption entries (options.map effect) context (.option place) := by
  simp [Effect.onOption, entered, found]

theorem onOption_of_missing {α : Type} {entries : List MenuEntry} {options : List α}
    {effect : α → Effect} {place : Nat}
    (missing : entries[place]? = none ∨ options[place]? = none) :
    (throw .missingEntry : Engine Outcome) =
      Effect.onOption entries (options.map effect) context (.option place) := by
  unfold Effect.onOption
  rcases missing with missing | missing
  · simp [missing]
  · simp only [List.getElem?_map, missing, Option.map_none]
    split
    · simp_all
    · rfl

/-- What follows each option of a menu. -/
def onOption {α : Type} {entries : List MenuEntry} {options : List α} {effect : α → Effect}
    (each : (option : α) → option ∈ options → Procedure react given (effect option context)) :
    (choice : Choice) →
      Procedure react given (Effect.onOption entries (options.map effect) context choice)
  | .option place =>
    match entered : entries[place]?, found : options[place]? with
    | some _, some option => .same (onOption_of_found entered found)
        (.telling (each option (List.mem_of_getElem? found)))
    | some _, none => .same (onOption_of_missing (.inr found)) (.act (.throw id))
    | none, _ => .same (onOption_of_missing (.inl entered)) (.act (.throw id))
  | .card _ | .ref _ | .number _ => .act (.throw id)

/-- A menu, or its only option. -/
def offered {α : Type} {title : String} {entries : List MenuEntry} {options : List α}
    {effect : α → Effect}
    (each : (option : α) → option ∈ options → Procedure react given (effect option context)) :
    Procedure react given (Effect.offer title entries (options.map effect) context) :=
  match entries, options with
  | [_], [option] => .telling (each option (List.mem_singleton_self option))
  | [], _ | [_], [] | [_], _ :: _ :: _ | _ :: _ :: _, _ => .offer (onOption each)

theorem plain_shortOption (effect : Value) :
    (Effect.resolveOption effect fun _ _ => return .nothing).Plain := by
  intro context
  have nothing : Plain (return .nothing) := Elementary.nothing.harmless
  have nested : Plain (Resolution.withOwnResolver (fun _ _ => return .nothing) context) :=
    (Harmless.settings context).bind fun settings _ =>
      (Harmless.adopt context settings).bind fun _ _ => nothing
  cases effect with
  | list items => exact .ite (fun _ => nothing) fun _ => nested
  | object fields =>
      refine .ite (fun _ => nothing) fun _ => .ite (fun _ => ?_) fun _ =>
        .ite (fun _ => ?_) fun _ =>
        .ite (fun _ => ?_) fun _ => .ite (fun _ => ?_) fun _ => .ite (fun _ => ?_) fun _ =>
        .ite (fun _ => nested) fun _ => .pure (by simp)
      · exact (Effect.straight_summonTokens _ context).harmless
      · split
        · exact (Effect.straight_gainStats _ _ _).harmless
        · exact .throw id
      · exact (Effect.straight_heal _ context).harmless
      · exact .telling (.pure (by simp))
      · exact (Effect.straight_damageRival _ context).harmless
  | _ => exact nothing

def resolveOption (effect : Value) {nested : Resolution}
    (reached : Layout.isDefinition effect context = true → given nested.withOwnResolver) :
    Procedure react given (Effect.resolveOption effect nested context) :=
  match isDefinition : Layout.isDefinition effect context with
  | true => .same (Effect.resolveOption_of_isDefinition isDefinition nested).symm
      (.nested (reached isDefinition))
  | false => .same (Effect.resolveOption_congr isDefinition _ nested)
      (.act (plain_shortOption effect context))

def chooseOption (title : Option String) {options : List (OptionShape × Resolution)}
    (reached : ∀ option ∈ options, Layout.isDefinition option.1.effect context = true →
      given option.2.withOwnResolver) :
    Procedure react given (Effect.chooseOption title options context) :=
  .branch missing <| offered fun (option, _) member =>
    resolveOption option.effect (reached _ member)

def chooseDefinition {choices : List (ChoiceShape × Resolution)}
    (reached : ∀ choice ∈ choices, given choice.2.withOwnResolver) :
    Procedure react given (Effect.chooseDefinition choices context) :=
  .branch missing <| offered fun (_, _) member => .nested (reached _ member)

end Menus

theorem unrefused_holds (condition : Condition) (board : Board) :
    NeverRefuses (condition.holds context board) := by
  unfold Condition.holds
  split
  · split
    · exact Value.fails_atMost _ _
    · exact .ok false
  · exact Value.fails_atMost _ _
  · exact Value.fails_atMost _ _

def conditional (condition : Condition) (whenTrue : Effect) (whenFalse : Option Effect)
    (isGiven : given whenTrue) (reached : ∀ effect, whenFalse = some effect → given effect) :
    Procedure react given (Effect.conditional condition whenTrue whenFalse context) :=
  .reading fun board => .first (Harmless.orFail (unrefused_holds condition board).blameless)
    fun _ _ =>
    .branch (.nested isGiven) <| match whenFalse with
      | some effect => .nested (reached effect rfl)
      | none => nothing

end Procedure

/-- How an effect type builds its questions. -/
def EffectKind.procedure (react : Reactor) (given : Effect → Prop) (argument : Nat → Value)
    (context : Context) :
    (kind : EffectKind) → Procedure react given (kind.rule react argument context)
  | .stealCreature => Procedure.stealCreature (argument 0)
  | .selectPredatorForEndEffect => Procedure.selectPredatorForEndEffect (argument 0)
  | .selectCardToDiscard => Procedure.selectCardToDiscard (argument 0)
  | .selectAndDiscard => Procedure.selectAndDiscard (argument 0)
  | .selectEnemyToKill => Procedure.selectEnemyToKill
  | .tutorFromDeck => Procedure.tutorFromDeck (argument 0)
  | .selectCreatureForDamage => Procedure.selectCreatureForDamage (argument 0) (argument 1)
  | .selectTargetForDamage => Procedure.selectTargetForDamage (argument 0) (argument 1)
  | .selectEnemyPreyToConsume => Procedure.selectEnemyPreyToConsume
  | .selectCreatureToRestore => Procedure.selectCreatureToRestore
  | .selectEnemyForKeyword => Procedure.selectEnemyForKeyword (argument 0)
  | .selectEnemyCreatureForDamage =>
      Procedure.selectEnemyCreatureForDamage (argument 0) (argument 1)
  | .selectCreatureToCopy => Procedure.selectCreatureToCopy
  | .selectCreatureToTransform => Procedure.selectCreatureToTransform (argument 0)
  | .damageRivalAndSelectEnemy => Procedure.damageRivalAndSelectEnemy (argument 0) (argument 1)
  | .healAndSelectTargetForDamage =>
      Procedure.healAndSelectTargetForDamage (argument 0) (argument 1)
  | .playSpellsFromHand => Procedure.playSpellsFromHand (argument 0)
  | .webTarget => Procedure.webTarget
  | .enterStalkMode => Procedure.enterStalkMode
  | .grantPride => Procedure.grantPride
  | .damageEqualToStalkBonus => Procedure.damageEqualToStalkBonus
  | .chasePrey => Procedure.chasePrey (argument 0)
  | .grantShell => Procedure.grantShell (argument 0)
  | .grantMolt => Procedure.grantMolt
  | .damageEqualToTotalShell => Procedure.damageEqualToTotalShell
  | .selectEnemyToFreeze => Procedure.selectEnemyToFreeze
  | .selectCreatureFromDeckWithKeyword => Procedure.selectCreatureFromDeckWithKeyword (argument 0)
  | .selectFriendlyCreatureToSacrifice => Procedure.selectFriendlyCreatureToSacrifice
  | .selectEnemyToReturn => Procedure.selectEnemyToReturn
      "Choose a Rival's creature to return to hand"
  | .discardDrawAndKillEnemy => Procedure.discardDrawAndKillEnemy
  | .drawThenDiscard => Procedure.drawThenDiscard (argument 0) (argument 1)
  | .forceOpponentDiscard => Procedure.forceOpponentDiscard (argument 0)
  | .tutorAndPlaySpell => Procedure.tutorAndPlaySpell
  | .playSpellFromHand => Procedure.playSpellFromHand
  | .selectEnemyToReturnToOpponentHand =>
      Procedure.selectEnemyToReturn "Choose a Rival's creature to return to their hand"
  | .drawAndEmpowerPredator => Procedure.drawAndEmpowerPredator (argument 0) (argument 1)
  | .eatPreyInsteadOfAttacking => Procedure.eatPreyInsteadOfAttacking
  | .revealHand => .act (Effect.plain_revealHand (argument 0) context)
  | .drawPerWebbed => .act (Effect.plain_drawPerWebbed context)
  | .drawPerStalking => .act (Effect.plain_scaledDraw Card.stalking "stalking" context)
  | .drawPerPride => .act (Effect.plain_scaledDraw Card.hasPride "Pride" context)
  | .drawPerShell => .act (Effect.plain_scaledDraw Card.hasShell "Shell" context)
  | .drawPerMolt => .act (Effect.plain_scaledDraw Card.hasMolt "Molt" context)
  | .drawAndRevealHand => .act (Effect.plain_drawAndRevealHand (argument 0) context)
  | .heal | .draw | .damageRival | .damageCreature | .summonTokens | .addToHand | .transformCard
  | .killCreature | .grantKeyword | .negateAttack | .negateDamage | .negatePlay | .allowReplay
  | .killAttacker | .freezeAllCreatures | .discardCards | .revealCards | .tutor | .copyAbilities
  | .killAll | .grantBarrier | .removeAbilities | .removeAbilitiesAll | .damageAllCreatures
  | .damageAllEnemyCreatures | .damageBothPlayers | .damageOtherCreatures | .returnAllEnemies
  | .killEnemyTokens | .killAllEnemyCreatures | .removeTriggeredCreatureAbilities
  | .negateAndDamageAll | .returnTriggeredToHand | .negateAndKillAttacker | .negateCombat
  | .damageAllEnemiesMultiple | .killEnemyTokensEffect | .negateAndAllowReplay | .webAllEnemies
  | .webAttacker | .webRandomEnemy | .damageWebbed | .healPerWebbed | .drawIfEnemyWebbed
  | .buffAtkPerWebbed | .summonTokensPerWebbed | .enterStalkModeOnPlay | .buffAllStalking
  | .buffAllPride | .summonTokensPerPride | .healPerPride | .buffAllShell | .healPerShell
  | .regenerateAllShells | .buffAllMolt | .summonTokensPerShell | .buffHpPerShell
  | .freezeAllEnemies | .removeFrozenFromFriendlies | .returnTargetedToHand | .reviveCreature
  | .regenSelf | .damageAllAndFreezeAll | .endTurn | .regenOtherCreatures
  | .trackAttackForRegenHeal | .dealDamageToAttacker | .applyNeurotoxicToAttacker
  | .freezeAttacker | .damageEnemiesAfterCombat | .destroy | .addKeyword | .buffStats | .buff
  | .selectTarget | .selectConsume | .conditional | .composite | .repeated | .selectFromGroup
  | .chooseOption | .choice | .selectPreyForBuff | .selectCreatureForBuff
    => .act (straight_rule react argument _ rfl context).harmless

theorem Invocation.effect_selectTargetIdly (react : Reactor) (settings : Settings) (pool : Value) :
    (Effect.selectTarget pool fun _ => throw .wrongKind) =
      (selectTargetIdly pool).effect react settings :=
  rfl

/-- The nested definitions of an invocation that may come to be resolved, with the
settings they are resolved under. -/
inductive Invocation.Reaches (settings : Settings) (context : Context) :
    Invocation Resolution → Effect → Prop
  | composite {effects : List Resolution} {nested : Resolution} (member : nested ∈ effects) :
      Reaches settings context (composite effects) (nested settings)
  | repeated (nested : Resolution) (count : Int) :
      Reaches settings context (repeated nested count) (nested settings)
  | whenTrue (condition : Condition) (nested : Resolution) (whenFalse : Option Resolution) :
      Reaches settings context (conditional condition nested whenFalse) (nested settings)
  | whenFalse (condition : Condition) (whenTrue nested : Resolution) :
      Reaches settings context (conditional condition whenTrue (some nested)) (nested settings)
  | selectTarget (pool : Value) (nested : Resolution) :
      Reaches settings context (selectTarget pool nested) (nested settings)
  | selectConsume (cardType count : Value) (nested : Resolution) :
      Reaches settings context (selectConsume cardType count (some nested)) (nested settings)
  | selectFromGroup (shape : GroupShape) (nested : Resolution) :
      Reaches settings context (selectFromGroup shape (some nested)) nested.withOwnResolver
  | option {title : Option String} {options : List (OptionShape × Resolution)}
      {option : OptionShape × Resolution} (member : option ∈ options)
      (isDefinition : Layout.isDefinition option.1.effect context = true) :
      Reaches settings context (chooseOption title options) option.2.withOwnResolver
  | choice {choices : List (ChoiceShape × Resolution)} {entry : ChoiceShape × Resolution}
      (member : entry ∈ choices) :
      Reaches settings context (choice choices) entry.2.withOwnResolver

/-- How an invocation builds its questions. -/
def Invocation.procedure (react : Reactor) (settings : Settings) (context : Context) :
    (asked : Invocation Resolution) →
      Procedure react (asked.Reaches settings context) (asked.effect react settings context)
  | direct kind arguments =>
    kind.procedure react _ (fun place => arguments.getD place .null) context
  | buffStats targetType attack health =>
    .act (Effect.straight_buffStats targetType attack health context).harmless
  | selectForBuff preyOnly stats => Procedure.selectForBuff preyOnly stats
  | destroy shape => Procedure.destroy shape
  | addKeyword shape => Procedure.addKeyword shape
  | buff shape => Procedure.buff shape
  | composite _ => .sideBySide fun _ member => by
      obtain ⟨nested, isNested, rfl⟩ := List.mem_map.1 member
      exact .composite isNested
  | repeated nested count => .sideBySide fun _ member => by
      obtain ⟨-, rfl⟩ := List.mem_replicate.1 member
      exact .repeated nested count
  | conditional condition whenTrue whenFalse =>
    Procedure.conditional condition (whenTrue settings)
      (whenFalse.map fun nested => nested settings) (.whenTrue condition whenTrue whenFalse)
      fun _ found => by
        obtain ⟨nested, rfl, rfl⟩ := Option.map_eq_some_iff.1 found
        exact .whenFalse condition whenTrue nested
  | selectTarget pool nested => Procedure.selectTarget pool fun _ =>
      .nested (.selectTarget pool nested)
  | selectConsume cardType count none =>
    .act (Procedure.straight_selectConsume cardType count .null context).harmless
  | selectConsume cardType count (some nested) =>
    Procedure.selectConsume cardType count (.selectConsume cardType count nested)
  | selectTargetIdly pool =>
    .same (congrFun (effect_selectTargetIdly react settings pool) context)
      (Procedure.selectTarget pool fun _ => .act (.throw id))
  | selectConsumeNoting cardType count note =>
    .act (Procedure.straight_selectConsume cardType count note context).harmless
  | selectFromGroup shape _ => Procedure.selectFromGroup shape fun nested found => by
      cases found
      exact .selectFromGroup shape nested
  | chooseOption title _ => Procedure.chooseOption title fun _ member => .option member
  | choice _ => Procedure.chooseDefinition fun _ member => .choice member

end CreatureCards
