import CreatureCards.Proofs.AlikeOutcome
import CreatureCards.Proofs.PickProcedure

/-!
# Picks in accord

Effects that pick creatures and cards do the same in contexts that differ in their
resolvers only, as long as the cards react alike.  Most of them neither look at the
resolver nor call for a reaction.
-/

namespace CreatureCards

open Engine

variable {pairing : Pairing}

/-- The effects come to outcomes that are alike, in contexts that differ in their
resolvers only. -/
def Effect.Accords (pairing : Pairing) (effect other : Effect) : Prop :=
  ∀ context counterpart, pairing.Contexts context counterpart →
    CreatureCards.Accords pairing (Outcome.Alike pairing) (effect context) (other counterpart)

/-- The cards react alike. -/
def Reactor.Accords (pairing : Pairing) (react other : Reactor) : Prop :=
  ∀ id, Effect.Accords pairing (react id) (other id)

theorem Pairing.Contexts.exists_seat {context counterpart : Context}
    (contexts : pairing.Contexts context counterpart) :
    ∃ seat, counterpart = { context with resolver := seat } :=
  ⟨_, contexts.same⟩

/-- Contexts that are aimed at something carry the resolvers that they carried. -/
theorem Pairing.Contexts.aimed {context counterpart : Context}
    (contexts : pairing.Contexts context counterpart) (target : Option Target)
    (creature : Option CardId) :
    pairing.Contexts { context with target, creature } { counterpart with target, creature } :=
  ⟨by rw [contexts.same], contexts.seat, contexts.otherSeat⟩

/-- The effect does not look at the resolver of its context. -/
def Effect.Indifferent (effect : Effect) : Prop :=
  ∀ context seat, effect { context with resolver := seat } = effect context

/-- An effect that does not look at the resolver, and that is in accord with itself. -/
theorem Effect.Accords.of_indifferent {effect : Effect} (indifferent : effect.Indifferent)
    (each : ∀ context,
      CreatureCards.Accords pairing (Outcome.Alike pairing) (effect context) (effect context)) :
    Effect.Accords pairing effect effect := by
  intro context counterpart contexts
  obtain ⟨seat, rfl⟩ := contexts.exists_seat
  rw [indifferent context seat]
  exact each context

namespace Accords

/-- What is done straight is in accord with itself. -/
theorem straight {running : Engine Outcome} (straight : Straight running) :
    Accords pairing (Outcome.Alike pairing) running running := by
  refine (of_elementary straight).weaken ?_
  rintro outcome _ ⟨rfl, silent⟩
  exact .of_silent silent

theorem missing {message : String} : Accords pairing (Outcome.Alike pairing)
    (do
      announce message
      return .nothing)
    (do
      announce message
      return .nothing) :=
  straight (Elementary.missing message)

theorem orNothing {running other : Engine Outcome}
    (accords : Accords pairing (Outcome.Alike pairing) running other) :
    Accords pairing (Outcome.Alike pairing) (do return (← running).orNothing)
      (do return (← other).orNothing) :=
  accords.bind fun _ _ alike => .pure alike.orNothing

theorem merge {results others : List Outcome} (alike : Outcome.AllAlike pairing results others) :
    Accords pairing (Outcome.Alike pairing) (Engine.orFail (Outcome.merge results))
      (Engine.orFail (Outcome.merge others)) :=
  orFail alike.merge ((Outcome.shapely_merge _).weaken fun _ fault => fault.not_refusesDefinition)

/-- What the runs come to is merged behind a result. -/
theorem behind {done : Outcome} (silent : done.silent = true) {running other : Engine Outcome}
    (accords : Accords pairing (Outcome.Alike pairing) running other) :
    Accords pairing (Outcome.Alike pairing)
      (do
        let result ← running
        Engine.orFail (Outcome.merge [done, result]))
      (do
        let result ← other
        Engine.orFail (Outcome.merge [done, result])) :=
  accords.bind fun _ _ alike => merge (.cons (.of_silent silent) (.cons alike .nil))

section Questions

variable {style : PickStyle} {title : String}

theorem pickOne {candidates : List Candidate} {answer other : Choice → Engine Outcome}
    (each : ∀ choice, Accords pairing (Outcome.Alike pairing) (answer choice) (other choice)) :
    Accords pairing (Outcome.Alike pairing) (CreatureCards.pickOne style title candidates answer)
      (CreatureCards.pickOne style title candidates other) := by
  unfold CreatureCards.pickOne
  split
  · exact .pure .nothing
  · exact orNothing (each _)
  · exact .pure (.descriptor (.question each))

theorem onCard {answer other : CardId → Engine Outcome}
    (each : ∀ id, Accords pairing (Outcome.Alike pairing) (answer id) (other id))
    (choice : Choice) :
    Accords pairing (Outcome.Alike pairing) (CreatureCards.onCard answer choice)
      (CreatureCards.onCard other choice) := by
  cases choice with
  | card id => exact each id
  | _ => exact .throw fun _ => id

theorem onRef {answer other : TargetRef → Engine Outcome}
    (each : ∀ ref, Accords pairing (Outcome.Alike pairing) (answer ref) (other ref))
    (choice : Choice) :
    Accords pairing (Outcome.Alike pairing) (CreatureCards.onRef answer choice)
      (CreatureCards.onRef other choice) := by
  cases choice with
  | ref ref => exact each ref
  | _ => exact .throw fun _ => id

theorem pickCard {candidates : List Candidate} {answer other : CardId → Engine Outcome}
    (each : ∀ id, Accords pairing (Outcome.Alike pairing) (answer id) (other id)) :
    Accords pairing (Outcome.Alike pairing)
      (CreatureCards.pickOne style title candidates (CreatureCards.onCard answer))
      (CreatureCards.pickOne style title candidates (CreatureCards.onCard other)) :=
  pickOne (onCard each)

theorem pickRef {candidates : List Candidate} {answer other : TargetRef → Engine Outcome}
    (each : ∀ ref, Accords pairing (Outcome.Alike pairing) (answer ref) (other ref)) :
    Accords pairing (Outcome.Alike pairing)
      (CreatureCards.pickOne style title candidates (CreatureCards.onRef answer))
      (CreatureCards.pickOne style title candidates (CreatureCards.onRef other)) :=
  pickOne (onRef each)

/-- A pick whose candidates are found when it is shown, beside descriptors that are
there at once. -/
theorem pickLater (ahead : Descriptors) (silent : Outcome.silentFields ahead = true)
    {candidates : Board → Except Failure (List Candidate)} {answer other : CardId → Engine Outcome}
    (each : ∀ id, Accords pairing (Outcome.Alike pairing) (answer id) (other id)) :
    Accords pairing (Outcome.Alike pairing)
      (return .record (ahead ++
        [("select_target", laterPick style title candidates (CreatureCards.onCard answer))]))
      (return .record (ahead ++
        [("select_target", laterPick style title candidates (CreatureCards.onCard other))])) :=
  .pure (.record (List.rel_append (Outcome.Alike.of_silentFields silent)
    (.cons ⟨rfl, .question (onCard each)⟩ .nil)))

theorem drawCard {pool : List CardId} {answer other : CardId → Engine Outcome}
    (each : ∀ id, Accords pairing (Outcome.Alike pairing) (answer id) (other id)) :
    Accords pairing (Outcome.Alike pairing)
      (do
        let place ← Engine.draw pool.length
        match pool[place.toNat]? with
        | some target => answer target
        | none => MonadExcept.throw .missingEntry)
      (do
        let place ← Engine.draw pool.length
        match pool[place.toNat]? with
        | some target => other target
        | none => MonadExcept.throw .missingEntry) := by
  refine (draw _).bind ?_
  rintro place _ rfl
  split
  · exact each _
  · exact .throw fun _ => id

end Questions

section Reactions

variable {react other : Reactor} {context counterpart : Context}

/-- A card that is selected reacts alike. -/
theorem reactionOf (reacts : react.Accords pairing other) (target : CardId) (source : Option CardId)
    (contexts : pairing.Contexts context counterpart) :
    Accords pairing (Outcome.Alike pairing) (CreatureCards.reactionOf react target source context)
      (CreatureCards.reactionOf other target source counterpart) :=
  (derived contexts).bind fun _ _ derived => reacts target _ _ (derived.aimed _ _)

/-- The reaction of the target, or a result that asks nothing. -/
theorem reactionOr (reacts : react.Accords pairing other) {target : CardId} {result : Outcome}
    (silent : result.silent = true) (contexts : pairing.Contexts context counterpart) :
    Accords pairing (Outcome.Alike pairing) (CreatureCards.reactionOr react target result context)
      (CreatureCards.reactionOr other target result counterpart) := by
  refine (reactionOf reacts target none contexts).bind fun response responseOther alike => ?_
  refine .pure ?_
  rw [alike.isTruthy_eq]
  split
  · exact alike
  · exact .of_silent silent

end Reactions

end Accords

namespace Effect

section Families

variable {react other : Reactor} {context counterpart : Context}

/-- A pick from a pool whose picked creature may react. -/
theorem accords_pickFrom (reacts : react.Accords pairing other)
    {pool : Board → Context → (CardId → Bool) → List CardId} {asked : CreaturePick}
    {build : CardId → Effect} (samePool : ∀ board context seat rule,
      pool board { context with resolver := seat } rule = pool board context rule)
    (indifferent : ∀ target, (build target).Indifferent)
    (straight : ∀ target, (build target).Straight) :
    (pickFrom react pool asked build).Accords pairing (pickFrom other pool asked build) := by
  intro context counterpart contexts
  have built (target : CardId) : CreatureCards.Accords pairing (Outcome.Alike pairing)
      (do
        let result ← build target context
        reactionOr react target result context)
      (do
        let result ← build target counterpart
        reactionOr other target result counterpart) := by
    obtain ⟨seat, same⟩ := contexts.exists_seat
    have sameResult : build target counterpart = build target context := by
      rw [same, indifferent target context seat]
    rw [sameResult]
    exact .first (straight target context) fun result silent => .reactionOr reacts silent contexts
  obtain ⟨seat, same⟩ := contexts.exists_seat
  have sameTargets (board : Board) : pool board counterpart (fun id => asked.rule (board.card id)) =
      pool board context fun id => asked.rule (board.card id) := by
    rw [same, samePool]
  refine .reading fun board => ?_
  dsimp only
  rw [sameTargets]
  have sameCandidates (targets : List CardId) :
      board.cardCandidates (some counterpart) asked.shown targets =
        board.cardCandidates (some context) asked.shown targets := by
    rw [same]
    rfl
  rw [sameCandidates]
  refine .ite (fun _ => .missing) fun _ => .pickCard fun target => ?_
  exact .ite (fun _ => .reading fun _ => .telling (built target)) fun _ => built target

theorem accords_pickEnemy (reacts : react.Accords pairing other) {asked : CreaturePick}
    {build : CardId → Effect}
    (indifferent : ∀ target, (build target).Indifferent)
    (straight : ∀ target, (build target).Straight) :
    (pickEnemy react asked build).Accords pairing (pickEnemy other asked build) :=
  accords_pickFrom reacts (fun _ _ _ _ => rfl) indifferent straight

theorem accords_pickAny (reacts : react.Accords pairing other) {asked : CreaturePick}
    {build : CardId → Effect}
    (indifferent : ∀ target, (build target).Indifferent)
    (straight : ∀ target, (build target).Straight) :
    (pickAny react asked build).Accords pairing (pickAny other asked build) :=
  accords_pickFrom reacts (fun _ _ _ _ => rfl) indifferent straight

end Families

section Reacting

variable {react other : Reactor}

theorem accords_selectEnemyToKill (reacts : react.Accords pairing other) :
    (selectEnemyToKill react).Accords pairing (selectEnemyToKill other) :=
  accords_pickEnemy reacts (fun _ _ _ => rfl) fun _ _ => .pure (by simp)

theorem accords_selectEnemyToFreeze (reacts : react.Accords pairing other) :
    (selectEnemyToFreeze react).Accords pairing (selectEnemyToFreeze other) :=
  accords_pickEnemy reacts (fun _ _ _ => rfl) fun _ _ =>
    .pure (by simp [Outcome.addKeyword, Outcome.keywordPayload])

theorem accords_selectEnemyToReturn (reacts : react.Accords pairing other) (title : String) :
    (selectEnemyToReturn react title).Accords pairing (selectEnemyToReturn other title) :=
  accords_pickEnemy reacts (fun _ _ _ => rfl) fun _ _ => .pure (by simp [returnToHand])

theorem accords_selectEnemyForKeyword (reacts : react.Accords pairing other) (keyword : Value) :
    (selectEnemyForKeyword react keyword).Accords pairing (selectEnemyForKeyword other keyword) :=
  accords_pickEnemy reacts (fun _ _ _ => rfl) fun _ _ => .reading fun _ => .telling <|
    .pure (by simp [Outcome.addKeyword, Outcome.keywordPayload])

theorem accords_selectEnemyCreatureForDamage (reacts : react.Accords pairing other)
    (amount label : Value) : (selectEnemyCreatureForDamage react amount label).Accords pairing
      (selectEnemyCreatureForDamage other amount label) :=
  accords_pickEnemy reacts (fun _ _ _ => rfl) fun _ _ => .pure (by simp [Outcome.damageCreature])

theorem accords_selectEnemyPreyToConsume (reacts : react.Accords pairing other) :
    (selectEnemyPreyToConsume react).Accords pairing (selectEnemyPreyToConsume other) :=
  accords_pickEnemy reacts (fun _ _ _ => rfl) fun _ _ => .pure (by simp [consumeEnemyPrey])

theorem accords_selectCreatureToRestore (reacts : react.Accords pairing other) :
    (selectCreatureToRestore react).Accords pairing (selectCreatureToRestore other) :=
  accords_pickAny reacts (fun _ _ _ => rfl) fun _ _ => .pure (by simp)

theorem accords_selectCreatureToCopy (reacts : react.Accords pairing other) :
    (selectCreatureToCopy react).Accords pairing (selectCreatureToCopy other) :=
  accords_pickAny reacts (fun _ _ _ => rfl) fun _ _ => .pure (by simp)

theorem accords_selectCreatureToTransform (reacts : react.Accords pairing other)
    (newCardId : Value) :
    (selectCreatureToTransform react newCardId).Accords pairing
      (selectCreatureToTransform other newCardId) :=
  accords_pickAny reacts (fun _ _ _ => rfl) fun _ _ => .pure (by simp)

theorem accords_selectForBuff (reacts : react.Accords pairing other) (preyOnly : Bool)
    (stats : Stats) :
    (selectForBuff react preyOnly stats).Accords pairing (selectForBuff other preyOnly stats) :=
  accords_pickAny reacts (fun _ _ _ => rfl) fun _ _ => .pure (by simp [Outcome.buffCreature])

theorem accords_selectCreatureForDamage (reacts : react.Accords pairing other)
    (amount label : Value) :
    (selectCreatureForDamage react amount label).Accords pairing
      (selectCreatureForDamage other amount label) := by
  intro context counterpart contexts
  obtain ⟨seat, rfl⟩ := contexts.exists_seat
  refine .first (elementary_resolveCount amount context) fun _ _ =>
    .ite (fun _ => .missing) fun _ => ?_
  exact accords_pickAny reacts (fun _ _ _ => rfl)
    (fun _ _ => .pure (by simp [Outcome.damageCreature])) context _ contexts

theorem accords_eatPicked (reacts : react.Accords pairing other) {context counterpart : Context}
    (contexts : pairing.Contexts context counterpart) (target : CardId) :
    CreatureCards.Accords pairing (Outcome.Alike pairing) (eatPicked react context target)
      (eatPicked other counterpart target) := by
  obtain ⟨seat, rfl⟩ := contexts.exists_seat
  refine (Accords.reactionOf reacts target context.creature contexts).bind
    fun response answer alike => ?_
  have straight := Procedure.straight_eat context target
  rw [alike.isTruthy_eq]
  refine .ite (fun _ => ?_) fun _ => .straight straight
  rw [alike.mentions_eq]
  refine .first (Elementary.orFail ((Outcome.shapely_mentions _ _).weaken fun _ fault =>
    fault.not_refusesDefinition)) fun returns _ => .ite (fun _ => .pure alike) fun _ =>
      .straight straight

theorem accords_eatPreyInsteadOfAttacking (reacts : react.Accords pairing other) :
    (eatPreyInsteadOfAttacking react).Accords pairing (eatPreyInsteadOfAttacking other) := by
  intro context counterpart contexts
  obtain ⟨seat, rfl⟩ := contexts.exists_seat
  exact .reading fun _ => .ite (fun _ => .missing) fun _ =>
    .pickCard fun target => accords_eatPicked reacts contexts target

theorem accords_damageRivalAndSelectEnemy (reacts : react.Accords pairing other)
    (rivalDamage creatureDamage : Value) :
    (damageRivalAndSelectEnemy react rivalDamage creatureDamage).Accords pairing
      (damageRivalAndSelectEnemy other rivalDamage creatureDamage) := by
  intro context counterpart contexts
  obtain ⟨seat, rfl⟩ := contexts.exists_seat
  exact .reading fun _ => .ite (fun _ => .straight (.telling (.pure (by simp)))) fun _ =>
    .behind (by simp)
      (.pickCard fun _ => .reactionOr reacts (by simp [Outcome.damageCreature]) contexts)

theorem accords_damagePicked (reacts : react.Accords pairing other) (amount label : Value)
    {context counterpart : Context} (contexts : pairing.Contexts context counterpart)
    (ref : TargetRef) :
    CreatureCards.Accords pairing (Outcome.Alike pairing)
      (damagePicked react amount label context ref)
      (damagePicked other amount label counterpart ref) := by
  refine .ite (fun _ => .straight (.telling (.pure (by simp)))) fun _ => ?_
  exact .first (.require _) fun _ _ => .reading fun _ => .telling <|
    .reactionOr reacts (by simp [Outcome.damageCreature]) contexts

theorem accords_selectTargetForDamage (reacts : react.Accords pairing other)
    (amount label : Value) :
    (selectTargetForDamage react amount label).Accords pairing
      (selectTargetForDamage other amount label) := by
  intro context counterpart contexts
  obtain ⟨seat, rfl⟩ := contexts.exists_seat
  exact .reading fun _ => .pickRef (accords_damagePicked reacts amount label contexts)

theorem accords_healAndSelectTargetForDamage (reacts : react.Accords pairing other)
    (healAmount damageAmount : Value) :
    (healAndSelectTargetForDamage react healAmount damageAmount).Accords pairing
      (healAndSelectTargetForDamage other healAmount damageAmount) := by
  intro context counterpart contexts
  obtain ⟨seat, rfl⟩ := contexts.exists_seat
  exact .telling <| .reading fun _ => .behind (by simp) <|
    .pickRef (accords_damagePicked reacts damageAmount _ contexts)

theorem accords_discardThenKill (reacts : react.Accords pairing other)
    {context counterpart : Context} (contexts : pairing.Contexts context counterpart)
    (card : CardId) :
    CreatureCards.Accords pairing (Outcome.Alike pairing) (discardThenKill react context card)
      (discardThenKill other counterpart card) := by
  obtain ⟨seat, rfl⟩ := contexts.exists_seat
  exact .reading fun _ => .ite (fun _ => .straight (.telling (.pure (by simp)))) fun _ =>
    .behind (by simp) (.pickCard fun _ => .reactionOr reacts (by simp) contexts)

theorem accords_discardDrawAndKillEnemy (reacts : react.Accords pairing other) :
    (discardDrawAndKillEnemy react).Accords pairing (discardDrawAndKillEnemy other) := by
  intro context counterpart contexts
  obtain ⟨seat, rfl⟩ := contexts.exists_seat
  exact .reading fun _ => .first (.require _) fun _ _ => .ite (fun _ => .missing) fun _ =>
    .first (.orFail (Procedure.unrefused_placeCandidates _ _ _ _)) fun _ _ =>
      .pickCard (accords_discardThenKill reacts contexts)

end Reacting

section Picks

/-- Something done with a pool that is not empty. -/
theorem accords_onPool {pool : Board → Context → List CardId} {missing : String}
    {act : Context → List CardId → Engine Outcome}
    (indifferent : (onPool pool missing act).Indifferent)
    (each : ∀ context creatures, CreatureCards.Accords pairing (Outcome.Alike pairing)
      (act context creatures) (act context creatures)) :
    (onPool pool missing act).Accords pairing (onPool pool missing act) :=
  .of_indifferent indifferent fun _ => .reading fun _ => .ite (fun _ => .missing) fun _ => each _ _

theorem accords_stealCreature (targetType : Value) :
    (stealCreature targetType).Accords pairing (stealCreature targetType) :=
  .of_indifferent (fun _ _ => rfl) fun _ => .reading fun _ => .ite (fun _ => .missing) fun _ =>
    .ite (fun _ => .drawCard fun target => .straight (Procedure.straight_steal target))
      fun _ => .pickCard fun target => .straight (Procedure.straight_steal target)

theorem accords_selectPredatorForEndEffect (tokenId : Value) :
    (selectPredatorForEndEffect tokenId).Accords pairing (selectPredatorForEndEffect tokenId) :=
  accords_onPool (fun _ _ => rfl) fun _ _ => .reading fun _ =>
    .pickCard fun target => .straight (Procedure.straight_empower tokenId target)

theorem accords_drawAndEmpowerPredator (drawCount tokenId : Value) :
    (drawAndEmpowerPredator drawCount tokenId).Accords pairing
      (drawAndEmpowerPredator drawCount tokenId) := by
  intro context counterpart contexts
  obtain ⟨seat, rfl⟩ := contexts.exists_seat
  exact .reading fun _ => .ite (fun _ => .straight (.telling (.pure (by simp)))) fun _ =>
    .telling <|
    .behind (by simp) (accords_selectPredatorForEndEffect tokenId _ _ contexts)

theorem accords_selectFriendlyCreatureToSacrifice :
    selectFriendlyCreatureToSacrifice.Accords pairing selectFriendlyCreatureToSacrifice :=
  accords_onPool (fun _ _ => rfl) fun _ _ => .reading fun _ =>
    .pickCard fun _ => .straight (.pure (by simp))

theorem accords_webTarget : webTarget.Accords pairing webTarget :=
  accords_onPool (fun _ _ => rfl) fun _ _ => .reading fun _ =>
    .pickCard fun target => .straight (straight_web target)

theorem accords_enterStalkMode : enterStalkMode.Accords pairing enterStalkMode :=
  accords_onPool (fun _ _ => rfl) fun _ _ => .reading fun _ =>
    .pickCard fun target => .straight (straight_enterStalking target)

theorem accords_pickFriendly {rule : Card → Bool} {missing title : String}
    {change : CardId → Engine Outcome}
    (straight : ∀ target, CreatureCards.Straight (change target)) :
    (pickFriendly rule missing title change).Accords pairing
      (pickFriendly rule missing title change) :=
  accords_onPool (fun _ _ => rfl) fun _ _ => .reading fun _ =>
    .pickCard fun target => .straight (straight target)

theorem accords_damageEqualToStalkBonus :
    damageEqualToStalkBonus.Accords pairing damageEqualToStalkBonus :=
  .of_indifferent (fun _ _ => rfl) fun _ => .reading fun _ => .ite (fun _ => .missing) fun _ =>
    .ite (fun _ => .missing) fun _ => .pickCard fun target => .straight (straight_strike _ target)

theorem indifferent_damageEqualToTotalShell : damageEqualToTotalShell.Indifferent := by
  intro context seat
  rw [damageEqualToTotalShell]
  refine bind_congr fun board => ?_
  have sum : totalShell board { context with resolver := seat } = totalShell board context := rfl
  have enemies : board.targetableEnemies { context with resolver := seat } anyCard =
      board.targetableEnemies context anyCard := rfl
  have candidates : healthCandidates board { context with resolver := seat } =
      healthCandidates board context := rfl
  simp only [sum, enemies, candidates]

theorem accords_damageEqualToTotalShell :
    damageEqualToTotalShell.Accords pairing damageEqualToTotalShell :=
  .of_indifferent indifferent_damageEqualToTotalShell fun _ => .reading fun _ =>
    .ite (fun _ => .missing) fun _ => .ite (fun _ => .missing) fun _ =>
      .first (.orFail (Value.fails_shown _)) fun total _ =>
        .pickCard fun target => .straight (straight_crush total target)

theorem accords_addKeyword (shape : AddKeywordShape) :
    (addKeyword shape).Accords pairing (addKeyword shape) := by
  refine .of_indifferent (fun _ _ => rfl) fun context => .ite (fun _ => ?_) fun _ =>
    .ite (fun _ => ?_) fun _ => ?_
  · exact .straight (straight_onFriendlies _ _ (fun _ => by simp [Outcome.keywordForAll]) context)
  · exact .reading fun _ => .ite (fun _ => .missing) fun _ =>
      .pickCard fun target => .straight (straight_gainKeyword _ target)
  · refine .ite (fun _ => ?_) fun _ => .straight .nothing
    split
    · exact .straight (straight_gainKeyword _ _)
    · exact .straight .nothing

theorem accords_buff (shape : BuffShape) : (buff shape).Accords pairing (buff shape) := by
  refine .of_indifferent (fun _ _ => rfl) fun context => .ite (fun _ => ?_) fun _ =>
    .ite (fun _ => ?_) fun _ => ?_
  · exact .straight (straight_buffFriendlies _ _ context)
  · split
    · exact .straight (straight_gainStats _ _ _)
    · exact .straight .nothing
  · exact .reading fun _ => .ite (fun _ => .missing) fun _ =>
      .pickCard fun target => .straight (straight_gainStats _ _ target)

theorem accords_destroy (shape : DestroyShape) :
    (destroy shape).Accords pairing (destroy shape) := by
  refine .of_indifferent (fun _ _ => rfl) fun context => .reading fun _ =>
    .ite (fun _ => ?_) fun _ => .ite (fun _ => ?_) fun _ => .ite (fun _ => ?_) fun _ =>
      .straight .nothing
  · exact .straight (.ite (fun _ => .missing _) fun _ =>
      .telling (.pure (by simp [Outcome.ownedCreatures])))
  · exact .straight (.ite (fun _ => .missing _) fun _ =>
      .telling (.pure (by simp [Outcome.ownedCreatures])))
  · exact .ite (fun _ => .missing) fun _ =>
      .pickCard fun target => .straight (straight_destroyPicked context target)

end Picks

section Zones

theorem accords_selectCardToDiscard (count : Value) :
    (selectCardToDiscard count).Accords pairing (selectCardToDiscard count) :=
  .of_indifferent (fun _ _ => rfl) fun _ => .reading fun _ => .first (.require _) fun _ _ =>
    .ite (fun _ => .missing) fun _ =>
      .first (.orFail (Procedure.unrefused_placeCandidates _ _ _ _)) fun _ _ =>
      .pickCard fun card => .straight (Procedure.straight_discardOne _ card)

theorem accords_selectAndDiscard (count : Value) :
    (selectAndDiscard count).Accords pairing (selectAndDiscard count) :=
  .of_indifferent (fun _ _ => rfl) fun _ => .reading fun _ => .first (.require _) fun _ _ =>
    .ite (fun _ => .missing) fun _ =>
      .first (.orFail (Procedure.unrefused_placeCandidates _ _ _ _)) fun _ _ =>
      .pickCard fun card => .straight (Procedure.straight_discardTold _ _ card)

theorem accords_forceOpponentDiscard (count : Value) :
    (forceOpponentDiscard count).Accords pairing (forceOpponentDiscard count) :=
  .of_indifferent (fun _ _ => rfl) fun _ => .reading fun _ => .ite (fun _ => .missing) fun _ =>
    .first (.orFail (Procedure.unrefused_placeCandidates _ _ _ _)) fun _ _ =>
      .pickCard fun card => .straight (Procedure.straight_discardTold _ _ card)

theorem accords_tutorFromDeck (cardType : Value) :
    (tutorFromDeck cardType).Accords pairing (tutorFromDeck cardType) := by
  refine .of_indifferent (fun _ _ => rfl) fun context => .reading fun _ =>
    .first (.require _) fun _ _ =>
    .ite (fun _ => .missing) fun _ => ?_
  dsimp only
  split
  · exact .missing
  · exact .straight (.pure (by simp))
  · exact .pickLater [] rfl fun _ => .straight (.pure (by simp))

theorem accords_selectCreatureFromDeckWithKeyword (keyword : Value) :
    (selectCreatureFromDeckWithKeyword keyword).Accords pairing
      (selectCreatureFromDeckWithKeyword keyword) :=
  .of_indifferent (fun _ _ => rfl) fun _ => .reading fun _ => .first (.require _) fun _ _ =>
    .ite (fun _ => .missing) fun _ => .pickCard fun _ => .straight (.pure (by simp))

theorem accords_playSpell (context : Context) (several : Bool) (left step : Nat)
    (chosen : List CardId) (spell : CardId) : CreatureCards.Accords pairing (Outcome.Alike pairing)
      (playSpell context several left step chosen spell)
      (playSpell context several left step chosen spell) := by
  induction left generalizing step chosen spell with
  | zero => exact .straight (.pure (by simp))
  | succ left ih =>
      exact .reading fun board => .first (.orFail (Procedure.unrefused_handSpells context _ board))
        fun _ _ =>
        .ite (fun _ => .straight (.telling (.pure (by simp)))) fun _ =>
          .behind (Procedure.silent_playedFromHand context spell)
            (.pickLater [] rfl (ih (step + 1) (chosen ++ [spell])))

theorem indifferent_playSpell (several : Bool) (left step : Nat) (chosen : List CardId)
    (spell : CardId) (context : Context) (seat : ResolverSeat) :
    playSpell { context with resolver := seat } several left step chosen spell =
      playSpell context several left step chosen spell := by
  induction left generalizing step chosen spell with
  | zero => rfl
  | succ left ih =>
      have further :
          playSpell { context with resolver := seat } several left (step + 1) (chosen ++ [spell]) =
          playSpell context several left (step + 1) (chosen ++ [spell]) :=
            funext fun next => ih _ _ next
      rw [playSpell, further]
      rfl

theorem accords_playSpellsFromHand (count : Value) :
    (playSpellsFromHand count).Accords pairing (playSpellsFromHand count) := by
  refine .of_indifferent (fun context seat => ?_) fun context => ?_
  · have further (rounds : Nat) :
        playSpell { context with resolver := seat } count.exceedsOne (rounds - 1) 0 [] =
        playSpell context count.exceedsOne (rounds - 1) 0 [] :=
      funext fun spell => indifferent_playSpell _ _ _ _ spell context seat
    unfold playSpellsFromHand
    simp only [further]
    rfl
  · exact .reading fun board => .first (.orFail (Procedure.unrefused_handSpells context [] board))
      fun _ _ =>
      .ite (fun _ => .missing) fun _ =>
        .first (.orFail (Procedure.unrefused_roundsUp count)) fun _ _ =>
        .pickCard (accords_playSpell context _ _ _ _)

theorem accords_playSpellFromHand : playSpellFromHand.Accords pairing playSpellFromHand :=
  .of_indifferent (fun _ _ => rfl) fun context => .reading fun board =>
    .first (.orFail (Procedure.unrefused_handSpells context [] board)) fun _ _ =>
      .ite (fun _ => .missing) fun _ => .pickCard fun _ =>
        .straight (.reading fun _ => .telling (.pure (by simp)))

theorem accords_tutorThenPlay (context : Context) (card : CardId) :
    CreatureCards.Accords pairing (Outcome.Alike pairing) (tutorThenPlay context card)
      (tutorThenPlay context card) :=
  .reading fun board => .first (.orFail (Procedure.unrefused_handSpells context [] board))
    fun _ _ =>
    .ite (fun _ => .straight (.telling (.pure (by simp)))) fun _ =>
      .behind (Procedure.silent_tutored context (some card))
        (.pickLater [] rfl fun _ => .straight (.pure (by simp)))

theorem accords_tutorAndPlaySpell : tutorAndPlaySpell.Accords pairing tutorAndPlaySpell :=
  .of_indifferent (fun _ _ => rfl) fun context => .reading fun _ => .first (.require _) fun _ _ =>
    .ite (fun _ => .missing) fun _ => .pickLater [] rfl (accords_tutorThenPlay context)

theorem accords_drawThenDiscard (drawCount discardCount : Value) :
    (drawThenDiscard drawCount discardCount).Accords pairing
      (drawThenDiscard drawCount discardCount) :=
  .of_indifferent (fun _ _ => rfl) fun _ => .telling <|
    .pickLater [("draw", .value drawCount)] (by simp)
      fun card => .straight (Procedure.straight_discardOne _ card)

end Zones

end Effect

end CreatureCards
