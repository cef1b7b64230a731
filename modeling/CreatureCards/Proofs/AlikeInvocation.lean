import CreatureCards.Proofs.AlikePick
import CreatureCards.Proofs.ProcedureTable

/-!
# Invocations in accord

With settings, groups, menus and conditions, every effect type does the same in
contexts that differ in their resolvers only, as long as the settings found there
and the nested definitions allow it.  An invocation hands its nested definitions
either its own settings or those that its context carries.
-/

namespace CreatureCards

open Engine

variable {pairing : Pairing}

/-- Contexts that are aimed at something carry the resolvers that they carried. -/
theorem Pairing.Contexts.retargeted {context counterpart : Context}
    (contexts : pairing.Contexts context counterpart) (target : Option Target) :
    pairing.Contexts { context with target } { counterpart with target } :=
  ⟨by rw [contexts.same], contexts.seat, contexts.otherSeat⟩

/-- A definition is resolved under the settings that its context carries. -/
theorem Resolution.accords_withOwnResolver {definition other : Resolution}
    (each : Effect.Accords pairing (definition pairing.settings) (other pairing.otherSettings)) :
    Effect.Accords pairing definition.withOwnResolver other.withOwnResolver := by
  intro context counterpart contexts
  refine (Accords.settings contexts).bind ?_
  rintro _ _ ⟨rfl, rfl⟩
  exact (Accords.adopt contexts _ _).bind fun adopted otherAdopted areAdopted =>
    each adopted otherAdopted areAdopted

namespace Effect

variable {react other : Reactor}

section Settings

theorem accords_revealHand (durationMs : Value) :
    (revealHand durationMs).Accords pairing (revealHand durationMs) := by
  intro context counterpart contexts
  obtain ⟨seat, rfl⟩ := contexts.exists_seat
  refine (Accords.settings contexts).bind ?_
  rintro _ _ ⟨rfl, rfl⟩
  rw [pairing.suited.revealHandDuration]
  exact .straight (.telling (.pure (by simp [handRevelation])))

theorem accords_drawAndRevealHand (drawCount : Value) :
    (drawAndRevealHand drawCount).Accords pairing (drawAndRevealHand drawCount) := by
  intro context counterpart contexts
  obtain ⟨seat, rfl⟩ := contexts.exists_seat
  refine (Accords.settings contexts).bind ?_
  rintro _ _ ⟨rfl, rfl⟩
  rw [pairing.suited.revealHandDuration]
  exact .straight (.telling (.pure (by simp [handRevelation])))

theorem accords_cappedDraw {context counterpart : Context}
    (contexts : pairing.Contexts context counterpart) (count : Nat) :
    CreatureCards.Accords pairing (fun drawn otherDrawn => otherDrawn = drawn)
      (cappedDraw context count) (cappedDraw counterpart count) := by
  refine (Accords.settings contexts).bind ?_
  rintro _ _ ⟨rfl, rfl⟩
  rw [pairing.suited.maxScaledDraw]
  exact .pure rfl

theorem accords_drawPerWebbed : drawPerWebbed.Accords pairing drawPerWebbed := by
  intro context counterpart contexts
  obtain ⟨seat, rfl⟩ := contexts.exists_seat
  refine .reading fun board => .ite (fun _ => .missing) fun _ => ?_
  refine (accords_cappedDraw contexts _).bind ?_
  rintro drawn _ rfl
  exact .straight (.telling (.pure (by simp)))

theorem accords_scaledDraw (rule : Card → Bool) (noun : String) :
    (scaledDraw rule noun).Accords pairing (scaledDraw rule noun) := by
  intro context counterpart contexts
  obtain ⟨seat, rfl⟩ := contexts.exists_seat
  refine .reading fun board => .ite (fun _ => .missing) fun _ => ?_
  refine (accords_cappedDraw contexts _).bind ?_
  rintro drawn _ rfl
  exact .straight (.telling (.pure (by simp)))

end Settings

section Nested

theorem accords_composite {effects others : List Effect}
    (each : List.Forall₂ (Effect.Accords pairing) effects others) :
    (composite effects).Accords pairing (composite others) := by
  intro context counterpart contexts
  refine (Accords.mapM (each.imp fun _ _ accords => accords context counterpart contexts)).bind ?_
  exact fun _ _ alike => .pure (Outcome.AllAlike.collect alike)

theorem accords_conditional (condition : Condition) {whenTrue otherTrue : Effect}
    {whenFalse otherFalse : Option Effect} (isTrue : whenTrue.Accords pairing otherTrue)
    (isFalse : Option.Rel (Effect.Accords pairing) whenFalse otherFalse) :
    (conditional condition whenTrue whenFalse).Accords pairing
      (conditional condition otherTrue otherFalse) := by
  intro context counterpart contexts
  obtain ⟨seat, rfl⟩ := contexts.exists_seat
  refine .reading fun board => .first (.orFail (Procedure.unrefused_holds condition board))
    fun _ _ => ?_
  refine .ite (fun _ => isTrue _ _ contexts) fun _ => ?_
  cases isFalse with
  | none => exact .straight .nothing
  | some accords => exact accords _ _ contexts

theorem accords_selectTarget (pool : Value) {effect otherEffect : Effect}
    (accords : effect.Accords pairing otherEffect) :
    (selectTarget pool effect).Accords pairing (selectTarget pool otherEffect) := by
  intro context counterpart contexts
  obtain ⟨seat, rfl⟩ := contexts.exists_seat
  refine .reading fun board => .ite (fun _ => .missing) fun _ => .pickCard fun target => ?_
  exact (Accords.derived contexts).bind fun _ _ derived =>
    .orNothing (accords _ _ (derived.retargeted _))

theorem accords_selectConsume (cardType count : Value) {follow otherFollow : Outcome}
    (alike : Outcome.Alike pairing follow otherFollow) :
    (selectConsume cardType count follow).Accords pairing
      (selectConsume cardType count otherFollow) := by
  intro context counterpart contexts
  obtain ⟨seat, rfl⟩ := contexts.exists_seat
  refine .reading fun board => .first (.require _) fun player _ =>
    .ite (fun _ => .missing) fun _ => ?_
  refine .pure (.descriptor (.record (.cons ⟨rfl, .value _⟩ (.cons ⟨rfl, .value _⟩ (.cons ⟨rfl, ?_⟩
    (.cons ⟨rfl, alike⟩ .nil))))))
  exact .of_silent (Outcome.silent_places _)

end Nested

section Groups

theorem accords_applyGroupEffect (selection : TargetRef) (effect : GroupEffect)
    {nested otherNested : Option Resolution}
    (each : Option.Rel
      (fun definition counterpart => Effect.Accords pairing definition.withOwnResolver
      counterpart.withOwnResolver) nested otherNested) :
    (applyGroupEffect selection effect nested).Accords pairing
      (applyGroupEffect selection effect otherNested) := by
  intro context counterpart contexts
  obtain ⟨seat, rfl⟩ := contexts.exists_seat
  refine .reading fun board => .first (.forM fun _ _ => .announce _ trivial) fun _ _ => ?_
  refine .ite (fun _ => .straight (.pure ?_)) fun _ => ?_
  · simpa using Procedure.silent_stepsTaken (Procedure.silentSteps_steps board selection _)
      selection _
  · cases each with
    | none => exact .straight .nothing
    | some accords =>
        exact (Accords.derived contexts).bind fun _ _ derived => accords _ _ (derived.retargeted _)

theorem accords_selectFromGroup (reacts : react.Accords pairing other) (shape : GroupShape)
    {nested otherNested : Option Resolution}
    (each : Option.Rel
      (fun definition counterpart => Effect.Accords pairing definition.withOwnResolver
      counterpart.withOwnResolver) nested otherNested) :
    (selectFromGroup react shape nested).Accords pairing
      (selectFromGroup other shape otherNested) := by
  intro context counterpart contexts
  have applied (selection : TargetRef) :=
    accords_applyGroupEffect selection shape.effect each context counterpart contexts
  obtain ⟨seat, rfl⟩ := contexts.exists_seat
  refine .first (Procedure.elementary_groupTargets _) fun candidates _ =>
    .ite (fun _ => .missing) fun _ =>
    .pickRef fun selection => ?_
  dsimp only
  cases pickedCreature selection with
  | none => exact applied selection
  | some creature =>
      refine (Accords.reactionOf reacts creature none contexts).bind fun response answer alike => ?_
      rw [alike.isTruthy_eq]
      exact .ite (fun _ => .pure alike) fun _ => applied selection

end Groups

section Menus

variable {effects others : List Effect}

theorem accords_onOption {entries : List MenuEntry}
    (each : List.Forall₂ (Effect.Accords pairing) effects others)
    {context counterpart : Context} (contexts : pairing.Contexts context counterpart)
    (choice : Choice) :
    CreatureCards.Accords pairing (Outcome.Alike pairing) (onOption entries effects context choice)
      (onOption entries others counterpart choice) := by
  cases choice with
  | option place =>
      have found := getElem?_of_forall₂ each place
      unfold onOption
      dsimp only
      generalize effects[place]? = effect at found ⊢
      generalize others[place]? = otherEffect at found ⊢
      cases entries[place]? with
      | none => exact .throw fun _ => id
      | some entry =>
          cases found with
          | none => exact .throw fun _ => id
          | some accords => exact .telling (accords _ _ contexts)
  | card | ref | number => exact .throw fun _ => id

theorem accords_offer (title : String) (entries : List MenuEntry)
    (each : List.Forall₂ (Effect.Accords pairing) effects others) :
    (offer title entries effects).Accords pairing (offer title entries others) := by
  intro context counterpart contexts
  have asked : CreatureCards.Accords pairing (Outcome.Alike pairing)
      (return .offering { title, entries } (onOption entries effects context))
      (return .offering { title, entries } (onOption entries others counterpart)) :=
    .pure (.descriptor (.question (accords_onOption each contexts)))
  unfold offer
  match entries, each with
  | [only], .cons here .nil => exact .telling (here _ _ contexts)
  | [], each => exact asked
  | _ :: _ :: _, each => exact asked
  | [_], .nil => exact asked
  | [_], .cons _ (.cons _ _) => exact asked

theorem accords_resolveOption (effect : Value) {nested otherNested : Resolution}
    (each : Effect.Accords pairing nested.withOwnResolver otherNested.withOwnResolver) :
    (resolveOption effect nested).Accords pairing (resolveOption effect otherNested) := by
  intro context counterpart contexts
  have taken := each context counterpart contexts
  obtain ⟨seat, rfl⟩ := contexts.exists_seat
  cases effect with
  | list items => exact .ite (fun _ => .straight .nothing) fun _ => taken
  | object fields =>
      refine .ite (fun _ => .straight .nothing) fun _ => .ite (fun _ => ?_) fun _ =>
        .ite (fun _ => ?_) fun _ =>
        .ite (fun _ => ?_) fun _ => .ite (fun _ => ?_) fun _ => .ite (fun _ => ?_) fun _ =>
        .ite (fun _ => taken) fun _ => .straight (.pure (by simp))
      · exact .straight (straight_summonTokens _ context)
      · dsimp only
        split
        · exact .straight (straight_gainStats _ _ _)
        · exact .throw fun _ => id
      · exact .straight (straight_heal _ context)
      · exact .straight (.telling (.pure (by simp)))
      · exact .straight (straight_damageRival _ context)
  | _ => exact .straight .nothing

/-- The same labels, with definitions in accord. -/
abbrev OptionsAlike {α : Type} (pairing : Pairing) : List (α × Resolution) →
    List (α × Resolution) → Prop :=
  List.Forall₂ fun option other => option.1 = other.1 ∧
    Effect.Accords pairing option.2.withOwnResolver other.2.withOwnResolver

theorem OptionsAlike.labels_eq {α : Type} {options others : List (α × Resolution)}
    (alike : OptionsAlike pairing options others) : others.map Prod.fst = options.map Prod.fst := by
  induction alike with
  | nil => rfl
  | cons same _ ih => rw [List.map_cons, List.map_cons, ih, same.1]

theorem accords_chooseOption (title : Option String)
    {options others : List (OptionShape × Resolution)}
    (alike : OptionsAlike pairing options others) :
    (chooseOption title options).Accords pairing (chooseOption title others) := by
  intro context counterpart contexts
  unfold chooseOption
  rw [isEmpty_eq_of_forall₂ alike, alike.labels_eq]
  refine .ite (fun _ => .missing) fun _ =>
    accords_offer _ _ (List.rel_map ?_ alike) context counterpart contexts
  rintro ⟨option, nested⟩ ⟨_, otherNested⟩ ⟨rfl, accords⟩
  exact accords_resolveOption option.effect accords

theorem accords_chooseDefinition {choices others : List (ChoiceShape × Resolution)}
    (alike : OptionsAlike pairing choices others) :
    (chooseDefinition choices).Accords pairing (chooseDefinition others) := by
  intro context counterpart contexts
  unfold chooseDefinition
  rw [isEmpty_eq_of_forall₂ alike, alike.labels_eq]
  refine .ite (fun _ => .missing) fun _ =>
    accords_offer _ _ (List.rel_map ?_ alike) context counterpart contexts
  exact fun _ _ same => same.2

end Menus

end Effect

section Invocations

variable {react other : Reactor}

theorem Effect.indifferent_grantKeyword (targetType keyword : Value) :
    (grantKeyword targetType keyword).Indifferent := by
  intro context seat
  unfold grantKeyword
  split
  · rfl
  · rfl

theorem Effect.indifferent_buffStats (targetType attack health : Value) :
    (buffStats targetType attack health).Indifferent := by
  intro context seat
  unfold buffStats
  split
  · rfl
  · rfl

/-- Every effect type does the same among cards that react alike. -/
theorem EffectKind.accords_rule (reacts : react.Accords pairing other) (argument : Nat → Value)
    (kind : EffectKind) :
    (kind.rule react argument).Accords pairing (kind.rule other argument) := by
  cases kind with
  | stealCreature => exact Effect.accords_stealCreature (argument 0)
  | selectPredatorForEndEffect => exact Effect.accords_selectPredatorForEndEffect (argument 0)
  | selectCardToDiscard => exact Effect.accords_selectCardToDiscard (argument 0)
  | selectAndDiscard => exact Effect.accords_selectAndDiscard (argument 0)
  | selectEnemyToKill => exact Effect.accords_selectEnemyToKill reacts
  | tutorFromDeck => exact Effect.accords_tutorFromDeck (argument 0)
  | selectCreatureForDamage =>
      exact Effect.accords_selectCreatureForDamage reacts (argument 0) (argument 1)
  | selectTargetForDamage =>
      exact Effect.accords_selectTargetForDamage reacts (argument 0) (argument 1)
  | selectEnemyPreyToConsume => exact Effect.accords_selectEnemyPreyToConsume reacts
  | selectCreatureToRestore => exact Effect.accords_selectCreatureToRestore reacts
  | selectEnemyForKeyword => exact Effect.accords_selectEnemyForKeyword reacts (argument 0)
  | selectEnemyCreatureForDamage =>
      exact Effect.accords_selectEnemyCreatureForDamage reacts (argument 0) (argument 1)
  | selectCreatureToCopy => exact Effect.accords_selectCreatureToCopy reacts
  | selectCreatureToTransform => exact Effect.accords_selectCreatureToTransform reacts (argument 0)
  | damageRivalAndSelectEnemy =>
      exact Effect.accords_damageRivalAndSelectEnemy reacts (argument 0) (argument 1)
  | healAndSelectTargetForDamage =>
      exact Effect.accords_healAndSelectTargetForDamage reacts (argument 0) (argument 1)
  | playSpellsFromHand => exact Effect.accords_playSpellsFromHand (argument 0)
  | webTarget => exact Effect.accords_webTarget
  | enterStalkMode => exact Effect.accords_enterStalkMode
  | grantPride => exact Effect.accords_pickFriendly Effect.straight_joinPride
  | damageEqualToStalkBonus => exact Effect.accords_damageEqualToStalkBonus
  | chasePrey => exact Effect.accords_pickFriendly (Effect.straight_giveChase (argument 0))
  | grantShell => exact Effect.accords_pickFriendly (Effect.straight_growShell (argument 0))
  | grantMolt => exact Effect.accords_pickFriendly Effect.straight_learnMolt
  | damageEqualToTotalShell => exact Effect.accords_damageEqualToTotalShell
  | selectEnemyToFreeze => exact Effect.accords_selectEnemyToFreeze reacts
  | selectCreatureFromDeckWithKeyword =>
      exact Effect.accords_selectCreatureFromDeckWithKeyword (argument 0)
  | selectFriendlyCreatureToSacrifice => exact Effect.accords_selectFriendlyCreatureToSacrifice
  | selectEnemyToReturn => exact Effect.accords_selectEnemyToReturn reacts _
  | discardDrawAndKillEnemy => exact Effect.accords_discardDrawAndKillEnemy reacts
  | drawThenDiscard => exact Effect.accords_drawThenDiscard (argument 0) (argument 1)
  | forceOpponentDiscard => exact Effect.accords_forceOpponentDiscard (argument 0)
  | tutorAndPlaySpell => exact Effect.accords_tutorAndPlaySpell
  | playSpellFromHand => exact Effect.accords_playSpellFromHand
  | selectEnemyToReturnToOpponentHand => exact Effect.accords_selectEnemyToReturn reacts _
  | drawAndEmpowerPredator => exact Effect.accords_drawAndEmpowerPredator (argument 0) (argument 1)
  | eatPreyInsteadOfAttacking => exact Effect.accords_eatPreyInsteadOfAttacking reacts
  | revealHand => exact Effect.accords_revealHand (argument 0)
  | drawPerWebbed => exact Effect.accords_drawPerWebbed
  | drawPerStalking => exact Effect.accords_scaledDraw Card.stalking "stalking"
  | drawPerPride => exact Effect.accords_scaledDraw Card.hasPride "Pride"
  | drawPerShell => exact Effect.accords_scaledDraw Card.hasShell "Shell"
  | drawPerMolt => exact Effect.accords_scaledDraw Card.hasMolt "Molt"
  | drawAndRevealHand => exact Effect.accords_drawAndRevealHand (argument 0)
  | grantKeyword =>
      exact .of_indifferent (Effect.indifferent_grantKeyword _ _) fun context =>
        .straight (Effect.straight_grantKeyword _ _ context)
  | _ =>
      exact .of_indifferent (fun _ _ => rfl) fun context =>
        .straight (straight_rule react argument _ rfl context)

namespace Invocation

/-- The nested definitions are resolved under the settings of the context. -/
def followsContext {α : Type} : Invocation α → Bool
  | selectFromGroup _ _ | chooseOption _ _ | choice _ => true
  | _ => false

/-- The settings that govern nested definitions, of the invocation's own and those
that its context carries. -/
def governing {α : Type} (asked : Invocation α) (own carried : Settings) : Settings :=
  if asked.followsContext then carried else own

theorem governing_self {α : Type} (asked : Invocation α) (settings : Settings) :
    asked.governing settings settings = settings :=
  ite_self settings

variable {α : Type} {own otherOwn : Settings} {make otherMake : α → Resolution}

/-- Nested definitions of choices that are in accord, each beside its label. -/
theorem optionsAlike_map {β : Type} {options : List (β × α)}
    (each : ∀ option ∈ options, Effect.Accords pairing (make option.2).withOwnResolver
      (otherMake option.2).withOwnResolver) :
    Effect.OptionsAlike pairing (options.attach.map fun entry => (entry.1.1, make entry.1.2))
      (options.attach.map fun entry => (entry.1.1, otherMake entry.1.2)) :=
  forall₂_map fun entry _ => ⟨rfl, each entry.1 entry.2⟩

/-- Two invocations of one effect type are in accord if their nested definitions
are, under the settings that govern them. -/
theorem accords_effect (reacts : react.Accords pairing other) (asked : Invocation α)
    (each : ∀ nested ∈ asked.definitions,
      Effect.Accords pairing (make nested (asked.governing own pairing.settings))
        (otherMake nested (asked.governing otherOwn pairing.otherSettings))) :
    Effect.Accords pairing ((asked.mapDefinitions fun nested _ => make nested).effect react own)
      ((asked.mapDefinitions fun nested _ => otherMake nested).effect other otherOwn) := by
  cases asked with
  | direct kind arguments =>
      exact EffectKind.accords_rule reacts (fun place => arguments.getD place .null) kind
  | buffStats targetType attack health =>
      exact .of_indifferent (Effect.indifferent_buffStats targetType attack health) fun context =>
        .straight (Effect.straight_buffStats targetType attack health context)
  | selectForBuff preyOnly stats => exact Effect.accords_selectForBuff reacts preyOnly stats
  | destroy shape => exact Effect.accords_destroy shape
  | addKeyword shape => exact Effect.accords_addKeyword shape
  | buff shape => exact Effect.accords_buff shape
  | composite effects =>
      refine Effect.accords_composite ?_
      rw [List.map_map, List.map_map]
      exact forall₂_map fun entry _ => each entry.1 entry.2
  | repeated nested count =>
      have here := each nested (List.mem_singleton_self nested)
      refine Effect.accords_composite ?_
      induction count.toNat with
      | zero => exact .nil
      | succ rounds ih => exact .cons here ih
  | conditional condition whenTrue whenFalse =>
      refine Effect.accords_conditional condition (each whenTrue List.mem_cons_self) ?_
      cases whenFalse with
      | none => exact .none
      | some nested => exact .some (each nested (by simp [definitions]))
  | selectTarget pool nested =>
      exact Effect.accords_selectTarget pool (each nested (List.mem_singleton_self nested))
  | selectConsume cardType count nested =>
      refine Effect.accords_selectConsume cardType count ?_
      cases nested with
      | none => exact .value .null
      | some nested => exact .callback (each nested (List.mem_singleton_self nested))
  | selectTargetIdly pool =>
      have picked : Effect.Accords pairing (Effect.selectTarget pool fun _ => throw .wrongKind)
          (Effect.selectTarget pool fun _ => throw .wrongKind) :=
        Effect.accords_selectTarget pool fun _ _ _ => .throw fun _ => id
      exact picked
  | selectConsumeNoting cardType count note =>
      exact Effect.accords_selectConsume cardType count (.value note)
  | selectFromGroup shape nested =>
      refine Effect.accords_selectFromGroup reacts shape ?_
      cases nested with
      | none => exact .none
      | some nested =>
          exact .some
            (Resolution.accords_withOwnResolver (each nested (List.mem_singleton_self nested)))
  | chooseOption title options =>
      refine Effect.accords_chooseOption title (optionsAlike_map fun option member => ?_)
      exact Resolution.accords_withOwnResolver (each option.2 (List.mem_map_of_mem member))
  | choice choices =>
      refine Effect.accords_chooseDefinition (optionsAlike_map fun option member => ?_)
      exact Resolution.accords_withOwnResolver (each option.2 (List.mem_map_of_mem member))

end Invocation

end Invocations

end CreatureCards
