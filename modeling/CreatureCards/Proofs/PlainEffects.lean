import CreatureCards.EffectRule
import CreatureCards.GroupPick
import CreatureCards.OptionEffect
import CreatureCards.Proofs.Elementary

/-!
# Plain effects

Most effects ask nothing: what they come to holds no question, and no effect that
the keeper of the game would run later.  They are harmless on every board, and
so are the parts of the other effects in which nothing is asked.  All of them but
those that look up the settings are straight: nothing but elementary steps leads
to what they come to.
-/

namespace CreatureCards

namespace Outcome

mutual

/-- The outcome holds no question and no effect that is handed over. -/
def silent : Outcome → Bool
  | question _ _ => false
  | callback _ => false
  | list items => silentItems items
  | record fields => silentFields fields
  | _ => true

def silentItems : List Outcome → Bool
  | [] => true
  | item :: rest => item.silent && silentItems rest

def silentFields : Descriptors → Bool
  | [] => true
  | (_, payload) :: rest => payload.silent && silentFields rest

end

theorem silentItems_iff {items : List Outcome} :
    silentItems items = true ↔ ∀ item ∈ items, item.silent = true := by
  induction items with
  | nil => simp [silentItems]
  | cons item rest ih => simp [silentItems, ih]

theorem silentFields_iff {fields : Descriptors} :
    silentFields fields = true ↔ ∀ field ∈ fields, field.2.silent = true := by
  induction fields with
  | nil => simp [silentFields]
  | cons field rest ih => simp [silentFields, ih]

@[simp]
theorem silent_record (fields : Descriptors) : (record fields).silent = silentFields fields := by
  rw [silent]

@[simp]
theorem silent_list (items : List Outcome) : (list items).silent = silentItems items := by
  rw [silent]

@[simp]
theorem silentFields_cons (key : String) (payload : Outcome) (rest : Descriptors) :
    silentFields ((key, payload) :: rest) = (payload.silent && silentFields rest) := by
  rw [silentFields]

@[simp]
theorem silentFields_nil : silentFields [] = true := by
  rw [silentFields]

@[simp]
theorem silent_value (data : Value) : (value data).silent = true := by
  simp [silent]

@[simp]
theorem silent_card (id : CardId) : (card id).silent = true := by
  simp [silent]

@[simp]
theorem silent_player (index : Nat) : (player index).silent = true := by
  simp [silent]

@[simp]
theorem silent_nothing : nothing.silent = true := by
  simp [nothing]

@[simp]
theorem silent_descriptor (key : String) (payload : Outcome) :
    (descriptor key payload).silent = payload.silent := by
  simp [descriptor]

@[simp]
theorem silent_index (number : Option Int) : (index number).silent = true :=
  silent_value _

@[simp]
theorem silent_int (number : Int) : (int number).silent = true :=
  silent_value _

@[simp]
theorem silent_bool (flag : Bool) : (bool flag).silent = true :=
  silent_value _

@[simp]
theorem silent_text (content : String) : (text content).silent = true :=
  silent_value _

@[simp]
theorem silent_card? (id : Option CardId) : (card? id).silent = true := by
  cases id with
  | none => exact silent_value _
  | some id => exact silent_card id

@[simp]
theorem silent_cards (ids : List CardId) : (cards ids).silent = true := by
  simp [cards, silentItems_iff]

@[simp]
theorem silent_places (places : Places) : (Outcome.places places).silent = true := by
  simp [Outcome.places, silentItems_iff]

@[simp]
theorem silent_values (items : List Value) : (list (items.map value)).silent = true := by
  simp [silentItems_iff]

section Induction

variable {motive : Outcome → Prop} (value : ∀ data, motive (value data))
  (card : ∀ id, motive (card id)) (player : ∀ index, motive (player index))
  (ref : ∀ target, motive (ref target))
  (list : ∀ items, (∀ item ∈ items, motive item) → motive (list items))
  (record : ∀ fields : Descriptors, (∀ field ∈ fields, motive field.2) → motive (record fields))

include value card player ref list record in
/-- What is true of data, cards, players and references, and of lists and records if
it is true of their parts, is true of all that is silent. -/
theorem induction_of_silent : ∀ {outcome : Outcome}, outcome.silent = true → motive outcome
  | .value data, _ => value data
  | .card id, _ => card id
  | .player index, _ => player index
  | .ref target, _ => ref target
  | .list items, silent => list items fun item member =>
      induction_of_silent (silentItems_iff.1 (by simpa using silent) item member)
  | .record fields, silent => record fields fun (key, payload) member =>
      induction_of_silent (silentFields_iff.1 (by simpa using silent) (key, payload) member)
  | .question _ _, silent => by simp [Outcome.silent] at silent
  | .callback _, silent => by simp [Outcome.silent] at silent
termination_by outcome => sizeOf outcome
decreasing_by
  · have smaller := List.sizeOf_lt_of_mem member
    simp only [Outcome.list.sizeOf_spec]
    omega
  · have smaller := List.sizeOf_lt_of_mem member
    simp only [Outcome.record.sizeOf_spec, Prod.mk.sizeOf_spec] at smaller ⊢
    omega

end Induction

mutual

@[simp]
theorem silent_ofValue : ∀ data : Value, (ofValue data).silent = true
  | .list items => by simpa [ofValue] using silent_ofItems items
  | .object fields => by simpa [ofValue] using silent_ofFields fields
  | .null | .bool _ | .int _ | .float _ | .text _ => by simp [ofValue]

theorem silent_ofItems : ∀ items : List Value, silentItems (ofItems items) = true
  | [] => by simp [ofItems, silentItems]
  | item :: rest => by simp [ofItems, silentItems, silent_ofValue item, silent_ofItems rest]

theorem silent_ofFields : ∀ fields : Fields, silentFields (ofFields fields) = true
  | [] => by simp [ofFields]
  | (_, field) :: rest => by simp [ofFields, silent_ofValue field, silent_ofFields rest]

end

end Outcome

/-- The run is harmless on every board and comes to something silent. -/
abbrev Plain (running : Engine Outcome) : Prop :=
  Harmless (fun _ => True) (fun outcome => outcome.silent = true) running

/-- The run is elementary and comes to something silent. -/
abbrev Straight (running : Engine Outcome) : Prop :=
  Elementary (fun outcome => outcome.silent = true) running

namespace Elementary

theorem nothing : Straight (return .nothing) :=
  .pure (by simp)

/-- A message is told, and there is nothing to do. -/
theorem missing (message : String) : Straight (do
    Engine.announce message
    return .nothing) :=
  .telling .nothing

end Elementary

namespace Value

theorem fails_shown (number : Int) :
    NeverRefuses (shown number) := by
  unfold shown
  exact .ite (.ok _) (.error id)

theorem fails_copies (count : Int) (value : Value) :
    NeverRefuses (copies count value) := by
  unfold copies
  split
  · exact .ite (.error id) <| .ite (.error id) <| .ite (.ok _) (.ok _)
  · exact .ite (.error id) <| .ite (.error id) <| .ite (.ok _) (.ok _)
  · exact .error id

theorem fails_scaled (count : Int) (value : Value) :
    NeverRefuses (scaled count value) := by
  unfold scaled
  split
  · refine FailsOnly.bind ?_ fun _ _ => .ok _
    unfold nearest
    exact .ite (.ok _) (.error id)
  · exact fails_copies count _

theorem fails_times (left right : Value) :
    NeverRefuses (left.times right) := by
  unfold times
  split
  · exact (fails_shown _).map _
  · exact fails_scaled _ _
  · exact fails_scaled _ _
  · split
    · exact .ok _
    · exact .error id

theorem fails_atMost (value : Value) (bound : Int) :
    NeverRefuses (value.atMost bound) := by
  unfold atMost
  split
  · split <;> exact .ok _
  · split
    · exact .ok _
    · exact .error id

end Value

theorem elementary_resolveCount (count : Value) (context : Context) :
    Elementary (fun _ => True) (resolveCount count context) := by
  unfold resolveCount
  refine .reading fun board => ?_
  dsimp only
  split
  all_goals first
    | exact .pure trivial
    | exact .throw id
    | exact .warning id (.pure trivial)

namespace Effect

/-- The effect asks nothing, and is harmless on every board. -/
def Plain (effect : Effect) : Prop :=
  ∀ context, CreatureCards.Plain (effect context)

/-- The effect asks nothing, and is elementary. -/
def Straight (effect : Effect) : Prop :=
  ∀ context, CreatureCards.Straight (effect context)

section Families

theorem straight_onRole (role : Value) (missing : String) {act : Board → CardId → Engine Outcome}
    (each : ∀ board creature, CreatureCards.Straight (act board creature)) :
    (onRole role missing act).Straight := by
  intro context
  refine .reading fun board => ?_
  split
  · exact each board _
  · exact .missing missing

theorem straight_onSource (missing : String) {act : Board → CardId → Engine Outcome}
    (each : ∀ board creature, CreatureCards.Straight (act board creature)) :
    (onSource missing act).Straight := by
  intro context
  refine .reading fun board => ?_
  split
  · exact each board _
  · exact .missing missing

theorem straight_onTrapped (missing : String) {act : Context → Board → CardId → Engine Outcome}
    (each : ∀ context board creature, CreatureCards.Straight (act context board creature)) :
    (onTrapped missing act).Straight := by
  intro context
  refine .reading fun board => ?_
  split
  · exact each context board _
  · exact .missing missing

theorem straight_onAttacker (missing : String) {act : Board → CardId → Engine Outcome}
    (each : ∀ board creature, CreatureCards.Straight (act board creature)) :
    (onAttacker missing act).Straight := by
  intro context
  refine .reading fun board => ?_
  split
  · exact each board _
  · exact .missing missing

theorem straight_onFriendlies (missing reached : String) {build : List CardId → Outcome}
    (each : ∀ creatures, (build creatures).silent = true) :
    (onFriendlies missing reached build).Straight := fun _ =>
  .reading fun _ => .ite (fun _ => .missing missing) fun _ => .telling (.pure (each _))

theorem plain_onPool (pool : Board → Context → List CardId) (missing : String)
    {act : Context → List CardId → Engine Outcome}
    (each : ∀ context creatures, CreatureCards.Plain (act context creatures)) :
    (onPool pool missing act).Plain := fun _ =>
  .reading fun _ => .ite (fun _ => (Elementary.missing missing).harmless) fun _ => each _ _

theorem straight_onPool (pool : Board → Context → List CardId) (missing : String)
    {act : Context → List CardId → Engine Outcome}
    (each : ∀ context creatures, CreatureCards.Straight (act context creatures)) :
    (onPool pool missing act).Straight := fun _ =>
  .reading fun _ => .ite (fun _ => .missing missing) fun _ => each _ _

theorem straight_onPoolTold (pool : Board → Context → List CardId) (missing reached : String)
    {build : Context → List CardId → Outcome}
    (each : ∀ context creatures, (build context creatures).silent = true) :
    (onPoolTold pool missing reached build).Straight :=
  straight_onPool pool missing fun context creatures => .telling (.pure (each context creatures))

theorem straight_flatDamage (key : String) (amount : Value) (whom : String) :
    (flatDamage key amount whom).Straight :=
  fun _ => .telling (.pure (by simp))

theorem straight_signal (key message : String) : (signal key message).Straight :=
  fun _ => .telling (.pure (by simp))

theorem straight_returnTrapped (stray : Context → Int) : (returnTrapped stray).Straight :=
  straight_onTrapped _ fun _ _ _ => .telling (.pure (by simp [returnToHand]))

theorem straight_returnTriggeredToHand : returnTriggeredToHand.Straight :=
  straight_returnTrapped _

theorem straight_returnTargetedToHand : returnTargetedToHand.Straight :=
  straight_returnTrapped _

theorem straight_damageAllCreatures (amount : Value) : (damageAllCreatures amount).Straight :=
  straight_flatDamage _ amount _

theorem straight_damageAllEnemyCreatures (amount : Value) :
    (damageAllEnemyCreatures amount).Straight :=
  straight_flatDamage _ amount _

theorem straight_damageBothPlayers (amount : Value) : (damageBothPlayers amount).Straight :=
  straight_flatDamage _ amount _

end Families

section Players

theorem straight_heal (amount : Value) : (heal amount).Straight :=
  fun _ => .telling (.pure (by simp))

theorem straight_draw (count : Value) : (draw count).Straight := fun context =>
  (elementary_resolveCount count context).bind fun _ _ =>
    .ite (fun _ => .missing _) fun _ => .telling (.pure (by simp))

theorem straight_damageRival (amount : Value) : (damageRival amount).Straight :=
  fun _ => .telling (.pure (by simp))

theorem silent_summonPayload (context : Context) (tokens : List Value) :
    (summonPayload context tokens).silent = true := by
  simp only [summonPayload, Outcome.silent_descriptor, Outcome.silent_record,
    Outcome.silentFields_cons, Outcome.silent_index, Outcome.silent_values]
  rfl

theorem straight_summonTokens (tokenIds : Value) : (summonTokens tokenIds).Straight :=
  fun context =>
  .ite (fun _ => .missing _) fun _ => .telling (.pure (silent_summonPayload context _))

theorem straight_addToHand (cardId : Value) : (addToHand cardId).Straight :=
  fun _ => .telling (.pure (by simp))

theorem straight_discardCards (count : Value) : (discardCards count).Straight :=
  fun _ => .telling (.pure (by simp))

theorem straight_revealCards (count : Value) : (revealCards count).Straight :=
  fun _ => .telling (.pure (by simp))

theorem plain_revealHand (durationMs : Value) : (revealHand durationMs).Plain := fun context =>
  (Harmless.settings context).bind fun _ _ => .telling (.pure (by simp [handRevelation]))

theorem plain_drawAndRevealHand (drawCount : Value) : (drawAndRevealHand drawCount).Plain :=
  fun context => (Harmless.settings context).bind fun _ _ =>
    .telling (.pure (by simp [handRevelation]))

theorem straight_tutor (cardType : Value) : (tutor cardType).Straight := fun _ =>
  .reading fun _ => (Elementary.require _).bind fun _ _ =>
    .ite (fun _ => .missing _) fun _ => .pure (by simp)

theorem straight_allowReplay (excludeNegated : Value) : (allowReplay excludeNegated).Straight :=
  fun _ => .telling (.pure (by simp))

theorem straight_negateAndAllowReplay : negateAndAllowReplay.Straight :=
  fun _ => .telling (.pure (by simp))

end Players

section Creatures

theorem straight_damageCreature (targetType amount sourceLabel : Value) :
    (damageCreature targetType amount sourceLabel).Straight :=
  straight_onRole _ _ fun _ _ => .telling (.pure (by simp [Outcome.damageCreature]))

theorem straight_killCreature (targetType : Value) : (killCreature targetType).Straight :=
  straight_onRole _ _ fun _ _ => .telling (.pure (by simp))

theorem straight_transformCard (targetType newCardId : Value) :
    (transformCard targetType newCardId).Straight :=
  straight_onRole _ _ fun _ _ => .telling (.pure (by simp))

theorem straight_removeAbilities (targetType : Value) : (removeAbilities targetType).Straight :=
  straight_onRole _ _ fun _ _ => .telling (.pure (by simp))

theorem straight_copyAbilities (source : Value) : (copyAbilities source).Straight := by
  intro context
  refine .reading fun board => ?_
  split
  · exact .telling (.pure (by simp [copyPayload]))
  · exact .missing _

theorem straight_reviveCreature : reviveCreature.Straight := fun context =>
  straight_onSource _ (fun _ _ => .telling (.pure (by simp))) context

theorem straight_regenSelf : regenSelf.Straight :=
  straight_onSource _ fun _ _ => .telling (.pure (by simp))

theorem straight_trackAttackForRegenHeal (healAmount : Value) :
    (trackAttackForRegenHeal healAmount).Straight := by
  intro context
  unfold trackAttackForRegenHeal
  split
  · exact .nothing
  · exact .telling (.pure (by simp))

theorem straight_grantKeyword (targetType keyword : Value) :
    (grantKeyword targetType keyword).Straight := by
  unfold grantKeyword
  split
  · exact straight_onFriendlies _ _ fun _ => by simp [Outcome.keywordForAll]
  · exact straight_onRole _ _ fun _ _ => .telling (.pure (by simp [Outcome.keywordPayload]))

theorem straight_gainKeyword (keyword : String) (creature : CardId) :
    CreatureCards.Straight (gainKeyword keyword creature) :=
  .reading fun _ => .telling (.pure (by simp [Outcome.addKeyword, Outcome.keywordPayload]))

theorem straight_gainStats (attack health : Value) (creature : CardId) :
    CreatureCards.Straight (gainStats attack health creature) :=
  .reading fun _ => .telling (.pure (by simp [Outcome.buffCreature]))

theorem straight_buffFriendlies (attack health : Value) :
    (buffFriendlies attack health).Straight := by
  unfold buffFriendlies
  exact straight_onFriendlies _ _ fun _ => by simp [Outcome.buffCreatures]

theorem straight_buffStats (targetType attack health : Value) :
    (buffStats targetType attack health).Straight := by
  unfold buffStats
  split
  · exact straight_buffFriendlies attack health
  · exact straight_onRole _ _ fun _ creature => straight_gainStats attack health creature

theorem straight_destroyPicked (context : Context) (target : CardId) :
    CreatureCards.Straight (destroyPicked context target) :=
  .reading fun _ => .telling (.pure (by simp [Outcome.ownedCreatures]))

end Creatures

section Fields

theorem straight_freezeAllCreatures : freezeAllCreatures.Straight :=
  straight_onPoolTold _ _ _ fun _ _ => by simp [Outcome.keywordForAll]

theorem straight_freezeAllEnemies : freezeAllEnemies.Straight :=
  straight_onPoolTold _ _ _ fun _ _ => by simp [Outcome.keywordForAll]

theorem straight_removeFrozenFromFriendlies : removeFrozenFromFriendlies.Straight :=
  straight_onPoolTold _ _ _ fun _ _ => by simp [Outcome.keywordForAll]

theorem straight_killAll (targetType : Value) : (killAll targetType).Straight := by
  intro context
  unfold killAll
  refine .ite (fun _ => .throw id) fun _ => .reading fun board => ?_
  split
  · exact .missing _
  · exact .ite (fun _ => .missing _) fun _ => .telling (.pure (by simp))

theorem straight_grantBarrier : grantBarrier.Straight := by
  refine straight_onPoolTold _ _ _ fun context _ => ?_
  cases context.player <;> simp [Outcome.null]

theorem straight_removeAbilitiesAll : removeAbilitiesAll.Straight :=
  straight_onPoolTold _ _ _ fun _ _ => by simp

theorem silent_damagePayload (creatures : List CardId) (amount : Value) :
    (damagePayload creatures amount).silent = true := by
  simp [damagePayload]

theorem straight_damageOtherCreatures (amount : Value) : (damageOtherCreatures amount).Straight :=
  straight_onPoolTold _ _ _ fun _ _ => by simp [silent_damagePayload]

theorem straight_damageAllEnemiesMultiple (amount applications : Value) :
    (damageAllEnemiesMultiple amount applications).Straight := fun _ =>
  (Elementary.orFail (Value.fails_times amount applications)).bind fun _ _ =>
    .telling (.pure (by simp))

theorem straight_damageEnemiesAfterCombat (damage : Value) :
    (damageEnemiesAfterCombat damage).Straight :=
  straight_onPoolTold _ _ _ fun _ _ => by simp [silent_damagePayload]

theorem straight_damageAllAndFreezeAll (damage : Value) :
    (damageAllAndFreezeAll damage).Straight := by
  intro context
  refine .reading fun board => .telling (.pure ?_)
  split <;> simp [silent_damagePayload, Outcome.keywordForAll]

theorem straight_returnAllEnemies : returnAllEnemies.Straight :=
  straight_onPoolTold _ _ _ fun _ _ => by simp

theorem straight_killEnemyTokens : killEnemyTokens.Straight :=
  straight_onPoolTold _ _ _ fun _ _ => by simp

theorem straight_killEnemyTokensEffect : killEnemyTokensEffect.Straight := fun _ =>
  .reading fun _ => .telling (.ite (fun _ => .nothing) fun _ => .pure (by simp))

theorem straight_killAllEnemyCreatures : killAllEnemyCreatures.Straight :=
  straight_onPoolTold _ _ _ fun _ _ => by simp

theorem straight_regenOtherCreatures : regenOtherCreatures.Straight :=
  straight_onPoolTold _ _ _ fun _ _ => by simp

end Fields

section Traps

theorem straight_removeTriggeredCreatureAbilities : removeTriggeredCreatureAbilities.Straight :=
  straight_onTrapped _ fun _ _ _ => .telling (.pure (by simp))

theorem straight_negateAndKillAttacker : negateAndKillAttacker.Straight := by
  intro context
  refine .reading fun board => ?_
  split
  · exact .telling (.pure (by simp))
  · exact .telling (.pure (by simp))

theorem straight_negateAndDamageAll (creatureDamage playerDamage : Value) :
    (negateAndDamageAll creatureDamage playerDamage).Straight :=
  fun _ => .telling (.pure (by simp))

theorem straight_killAttacker : killAttacker.Straight :=
  straight_onAttacker _ fun _ _ => .telling (.pure (by simp))

theorem straight_dealDamageToAttacker (damage : Value) : (dealDamageToAttacker damage).Straight :=
  straight_onAttacker _ fun _ _ => .telling (.pure (by simp [Outcome.damageCreature]))

theorem straight_applyNeurotoxicToAttacker : applyNeurotoxicToAttacker.Straight :=
  straight_onAttacker _ fun _ _ => .telling (.pure (by simp))

theorem straight_freezeAttacker : freezeAttacker.Straight :=
  straight_onAttacker _ fun _ _ =>
    .telling (.pure (by simp [Outcome.addKeyword, Outcome.keywordPayload]))

end Traps

section Tribes

theorem harmless_cappedDraw {admits : Board → Prop} (context : Context) (count : Nat) :
    Harmless admits (fun _ => True) (cappedDraw context count) :=
  (Harmless.settings context).bind fun _ _ => .pure trivial

theorem straight_web (creature : CardId) : CreatureCards.Straight (web creature) :=
  .reading fun _ => .ite (fun _ => .nothing) fun _ =>
    .telling (.pure (by simp [Outcome.addKeyword, Outcome.keywordPayload]))

theorem straight_webAllEnemies : webAllEnemies.Straight := by
  refine straight_onPool _ _ fun context enemies => .reading fun board => ?_
  refine .ite (fun _ => .nothing) fun _ => ?_
  refine Elementary.bind (Elementary.forM fun creature _ => .announce _ trivial) fun _ _ => ?_
  exact .pure (by simp [Outcome.keywordForAll])

theorem straight_webAttacker : webAttacker.Straight := by
  intro context
  refine .reading fun board => ?_
  split
  · exact straight_web _
  · exact .nothing

theorem straight_webAt (enemies : List CardId) (place : Int) :
    CreatureCards.Straight (match enemies[place.toNat]? with
      | some creature => web creature
      | none => throw .badValue) := by
  split
  · exact straight_web _
  · exact .throw id

theorem straight_webRandomEnemy : webRandomEnemy.Straight := by
  refine straight_onPool _ _ fun context enemies => ?_
  have zero : Elementary (fun _ => True) (pure 0 : Engine Int) := .pure trivial
  exact .ite (fun _ => .drawing fun place => straight_webAt enemies place) fun _ =>
    zero.bind fun place _ => straight_webAt enemies place

theorem straight_damageWebbed (damage : Value) : (damageWebbed damage).Straight :=
  straight_onPoolTold _ _ _ fun _ _ => by simp [silent_damagePayload]

theorem plain_drawPerWebbed : drawPerWebbed.Plain :=
  plain_onPool _ _ fun context _ => (harmless_cappedDraw context _).bind fun _ _ =>
    .telling (.pure (by simp))

theorem straight_healPerWebbed (amount : Value) : (healPerWebbed amount).Straight :=
  straight_onPool _ _ fun _ _ => (Elementary.orFail (Value.fails_times _ amount)).bind fun _ _ =>
    .telling (.pure (by simp))

theorem straight_drawIfEnemyWebbed : drawIfEnemyWebbed.Straight :=
  straight_onPoolTold _ _ _ fun _ _ => by simp

theorem straight_buffAtkPerWebbed (bonus : Value) : (buffAtkPerWebbed bonus).Straight := by
  refine straight_onPool _ _ fun context webbed => ?_
  split
  · exact .nothing
  · exact (Elementary.orFail (Value.fails_times _ bonus)).bind fun _ _ =>
      .telling (.pure (by simp [Outcome.buffCreature]))

theorem straight_summonTokensPerWebbed (tokenId : Value) :
    (summonTokensPerWebbed tokenId).Straight :=
  straight_onPool _ _ fun context _ => .telling (.pure (silent_summonPayload context _))

theorem straight_enterStalking (creature : CardId) :
    CreatureCards.Straight (enterStalking creature) :=
  .reading fun _ => .telling (.pure (by simp))

theorem straight_joinPride (creature : CardId) : CreatureCards.Straight (joinPride creature) :=
  .reading fun _ => .telling (.pure (by simp [Outcome.addKeyword, Outcome.keywordPayload]))

theorem straight_strike (bonus : Int) (target : CardId) :
    CreatureCards.Straight (damageEqualToStalkBonus.strike bonus target) :=
  .reading fun _ => .telling (.pure (by simp [Outcome.damageCreature]))

theorem straight_giveChase (atkBonus : Value) (creature : CardId) :
    CreatureCards.Straight (giveChase atkBonus creature) :=
  .reading fun _ => .telling (.pure (by simp [Outcome.keywordPayload]))

theorem straight_growShell (shellLevel : Value) (creature : CardId) :
    CreatureCards.Straight (growShell shellLevel creature) :=
  .reading fun _ => .telling (.pure (by simp))

theorem straight_learnMolt (creature : CardId) : CreatureCards.Straight (learnMolt creature) :=
  .reading fun _ => .telling (.pure (by simp [Outcome.addKeyword, Outcome.keywordPayload]))

theorem straight_crush (total : Int) (target : CardId) :
    CreatureCards.Straight (damageEqualToTotalShell.crush total target) :=
  .reading fun _ => .telling (.pure (by simp [Outcome.damageCreature]))

theorem straight_enterStalkModeOnPlay : enterStalkModeOnPlay.Straight := by
  intro context
  refine .reading fun board => ?_
  split
  · exact .nothing
  · exact .ite (fun _ => straight_enterStalking _) fun _ => .nothing

theorem plain_scaledDraw (rule : Card → Bool) (noun : String) : (scaledDraw rule noun).Plain :=
  plain_onPool _ _ fun context _ => (harmless_cappedDraw context _).bind fun _ _ =>
    .telling (.pure (by simp))

theorem straight_buffAll (rule : Card → Bool) (noun : String) (bonus : Value) :
    (buffAll rule noun bonus).Straight :=
  straight_onPoolTold _ _ _ fun _ _ => by simp [Outcome.buffCreatures]

theorem straight_healPer (rule : Card → Bool) (noun : String) (amount : Value) :
    (healPer rule noun amount).Straight :=
  straight_onPool _ _ fun _ _ => (Elementary.orFail (Value.fails_times _ amount)).bind fun _ _ =>
    .telling (.pure (by simp))

theorem straight_tokensPer (rule : Card → Bool) (noun : String) (tokenId : Value) :
    (tokensPer rule noun tokenId).Straight :=
  straight_onPool _ _ fun context _ => .telling (.pure (silent_summonPayload context _))

theorem straight_regenerateAllShells : regenerateAllShells.Straight :=
  straight_onPool _ _ fun _ _ => .reading fun _ => .telling <|
    .ite (fun _ => .nothing) fun _ => .pure (by simp)

theorem straight_buffHpPerShell : buffHpPerShell.Straight :=
  straight_onPool _ _ fun _ _ => .telling <| .reading fun _ =>
    .pure (by simp [Outcome.buffCreatures])

end Tribes

end Effect

namespace EffectKind

/-- The rule of the effect type asks nothing, and looks up no settings. -/
def isStraight : EffectKind → Bool
  | .stealCreature | .selectPredatorForEndEffect | .selectCardToDiscard | .selectAndDiscard
  | .selectEnemyToKill | .tutorFromDeck | .selectCreatureForDamage | .selectTargetForDamage
  | .selectEnemyPreyToConsume | .selectCreatureToRestore | .selectEnemyForKeyword
  | .selectEnemyCreatureForDamage | .selectCreatureToCopy | .selectCreatureToTransform
  | .damageRivalAndSelectEnemy | .healAndSelectTargetForDamage | .playSpellsFromHand | .webTarget
  | .enterStalkMode | .grantPride | .damageEqualToStalkBonus | .chasePrey | .grantShell
  | .grantMolt | .damageEqualToTotalShell | .selectEnemyToFreeze
  | .selectCreatureFromDeckWithKeyword | .selectFriendlyCreatureToSacrifice | .selectEnemyToReturn
  | .discardDrawAndKillEnemy | .drawThenDiscard | .forceOpponentDiscard | .tutorAndPlaySpell
  | .playSpellFromHand | .selectEnemyToReturnToOpponentHand | .drawAndEmpowerPredator
  | .eatPreyInsteadOfAttacking | .revealHand | .drawPerWebbed | .drawPerStalking | .drawPerPride
  | .drawPerShell | .drawPerMolt | .drawAndRevealHand => false
  | _ => true

theorem straight_rule (react : Reactor) (argument : Nat → Value) (kind : EffectKind)
    (straight : kind.isStraight = true) : (kind.rule react argument).Straight := by
  cases kind with
  | heal => exact Effect.straight_heal (argument 0)
  | draw => exact Effect.straight_draw (argument 0)
  | damageRival => exact Effect.straight_damageRival (argument 0)
  | damageCreature => exact Effect.straight_damageCreature (argument 0) (argument 1) (argument 2)
  | summonTokens => exact Effect.straight_summonTokens (argument 0)
  | addToHand => exact Effect.straight_addToHand (argument 0)
  | transformCard => exact Effect.straight_transformCard (argument 0) (argument 1)
  | killCreature => exact Effect.straight_killCreature (argument 0)
  | grantKeyword => exact Effect.straight_grantKeyword (argument 0) (argument 1)
  | negateAttack => exact Effect.straight_signal "negate_attack" "Attack is negated."
  | negateDamage => exact Effect.straight_signal "negate_damage" "Damage is negated."
  | negatePlay => exact Effect.straight_signal "negate_play" "Card play is negated."
  | allowReplay => exact Effect.straight_allowReplay (argument 0)
  | killAttacker => exact Effect.straight_killAttacker
  | freezeAllCreatures => exact Effect.straight_freezeAllCreatures
  | discardCards => exact Effect.straight_discardCards (argument 0)
  | revealCards => exact Effect.straight_revealCards (argument 0)
  | tutor => exact Effect.straight_tutor (argument 0)
  | copyAbilities => exact Effect.straight_copyAbilities (argument 0)
  | killAll => exact Effect.straight_killAll (argument 0)
  | grantBarrier => exact Effect.straight_grantBarrier
  | removeAbilities => exact Effect.straight_removeAbilities (argument 0)
  | removeAbilitiesAll => exact Effect.straight_removeAbilitiesAll
  | damageAllCreatures => exact Effect.straight_damageAllCreatures (argument 0)
  | damageAllEnemyCreatures => exact Effect.straight_damageAllEnemyCreatures (argument 0)
  | damageBothPlayers => exact Effect.straight_damageBothPlayers (argument 0)
  | damageOtherCreatures => exact Effect.straight_damageOtherCreatures (argument 0)
  | returnAllEnemies => exact Effect.straight_returnAllEnemies
  | killEnemyTokens => exact Effect.straight_killEnemyTokens
  | killAllEnemyCreatures => exact Effect.straight_killAllEnemyCreatures
  | removeTriggeredCreatureAbilities => exact Effect.straight_removeTriggeredCreatureAbilities
  | negateAndDamageAll => exact Effect.straight_negateAndDamageAll (argument 0) (argument 1)
  | returnTriggeredToHand => exact Effect.straight_returnTriggeredToHand
  | negateAndKillAttacker => exact Effect.straight_negateAndKillAttacker
  | negateCombat => exact Effect.straight_signal "negate_combat" "Combat negated."
  | damageAllEnemiesMultiple =>
      exact Effect.straight_damageAllEnemiesMultiple (argument 0) (argument 1)
  | killEnemyTokensEffect => exact Effect.straight_killEnemyTokensEffect
  | negateAndAllowReplay => exact Effect.straight_negateAndAllowReplay
  | webAllEnemies => exact Effect.straight_webAllEnemies
  | webAttacker => exact Effect.straight_webAttacker
  | webRandomEnemy => exact Effect.straight_webRandomEnemy
  | damageWebbed => exact Effect.straight_damageWebbed (argument 0)
  | healPerWebbed => exact Effect.straight_healPerWebbed (argument 0)
  | drawIfEnemyWebbed => exact Effect.straight_drawIfEnemyWebbed
  | buffAtkPerWebbed => exact Effect.straight_buffAtkPerWebbed (argument 0)
  | summonTokensPerWebbed => exact Effect.straight_summonTokensPerWebbed (argument 0)
  | enterStalkModeOnPlay => exact Effect.straight_enterStalkModeOnPlay
  | buffAllStalking => exact Effect.straight_buffAll Card.stalking "stalking" (argument 0)
  | buffAllPride => exact Effect.straight_buffAll Card.hasPride "Pride" (argument 0)
  | summonTokensPerPride => exact Effect.straight_tokensPer Card.hasPride "Pride" (argument 0)
  | healPerPride => exact Effect.straight_healPer Card.hasPride "Pride" (argument 0)
  | buffAllShell => exact Effect.straight_buffAll Card.hasShell "Shell" (argument 0)
  | healPerShell => exact Effect.straight_healPer Card.hasShell "Shell" (argument 0)
  | regenerateAllShells => exact Effect.straight_regenerateAllShells
  | buffAllMolt => exact Effect.straight_buffAll Card.hasMolt "Molt" (argument 0)
  | summonTokensPerShell => exact Effect.straight_tokensPer Card.hasShell "Shell" (argument 0)
  | buffHpPerShell => exact Effect.straight_buffHpPerShell
  | freezeAllEnemies => exact Effect.straight_freezeAllEnemies
  | removeFrozenFromFriendlies => exact Effect.straight_removeFrozenFromFriendlies
  | returnTargetedToHand => exact Effect.straight_returnTargetedToHand
  | reviveCreature => exact Effect.straight_reviveCreature
  | regenSelf => exact Effect.straight_regenSelf
  | damageAllAndFreezeAll => exact Effect.straight_damageAllAndFreezeAll (argument 0)
  | endTurn => exact Effect.straight_signal "end_turn" "Turn ends."
  | regenOtherCreatures => exact Effect.straight_regenOtherCreatures
  | trackAttackForRegenHeal => exact Effect.straight_trackAttackForRegenHeal (argument 0)
  | dealDamageToAttacker => exact Effect.straight_dealDamageToAttacker (argument 0)
  | applyNeurotoxicToAttacker => exact Effect.straight_applyNeurotoxicToAttacker
  | freezeAttacker => exact Effect.straight_freezeAttacker
  | damageEnemiesAfterCombat => exact Effect.straight_damageEnemiesAfterCombat (argument 0)
  | destroy | addKeyword | buffStats | buff | selectTarget | selectConsume | conditional
  | composite | repeated | selectFromGroup | chooseOption | choice | selectPreyForBuff
  | selectCreatureForBuff => exact fun _ => .nothing
  | _ => cases straight

end EffectKind

end CreatureCards
