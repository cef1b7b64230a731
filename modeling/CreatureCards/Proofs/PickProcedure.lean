import CreatureCards.Proofs.Procedure

/-!
# Procedures of picks

How the effects build their questions that pick creatures and cards for
themselves: which pool stands behind the first question, what may be asked in a
continuation, and which demand is made of the creatures of the rival.
-/

namespace CreatureCards

open Engine

/-- The acting creature eats the target. -/
def Effect.eat (context : Context) (target : CardId) : Engine Outcome := do
  let board ← board
  let creature ← require context.creature
  let name := board.title creature
  let preyName := board.title target
  announce s!"{name} eats {preyName}."
  return .descriptor "eat_creature" (.record
    [("creature", .card creature), ("target", .card target),
     ("player_index", .index context.playerIndex)])

namespace Procedure

variable {react : Reactor} {given : Effect → Prop} {context : Context}

section Families

/-- A procedure for a pool that is not empty. -/
def onPool {pool : Board → Context → List CardId} {missing : String}
    {act : Context → List CardId → Engine Outcome}
    (each : (creatures : List CardId) → Procedure react given (act context creatures)) :
    Procedure react given (Effect.onPool pool missing act context) :=
  .reading fun _ => .branch Procedure.missing (each _)

/-- A pick whose picked creature may react. -/
def pickFrom {pool : Board → Context → (CardId → Bool) → List CardId}
    {asked : Effect.CreaturePick} {build : CardId → Effect}
    (straight : ∀ target, Straight (build target context)) :
    Procedure react given (Effect.pickFrom react pool asked build context) :=
  .reading fun _ => .branch missing <|
    .pickCard (some fun board id => asked.rule (board.card id)) fun target =>
      .branch (.reading fun _ => .telling <|
          .first (straight target).harmless fun _ silent => unlessReacting silent)
        (.first (straight target).harmless fun _ silent => unlessReacting silent)

def pickEnemy {asked : Effect.CreaturePick} {build : CardId → Effect}
    (straight : ∀ target, Straight (build target context)) :
    Procedure react given (Effect.pickEnemy react asked build context) :=
  pickFrom straight

def pickAny {asked : Effect.CreaturePick} {build : CardId → Effect}
    (straight : ∀ target, Straight (build target context)) :
    Procedure react given (Effect.pickAny react asked build context) :=
  pickFrom straight

end Families

section Picks

def selectTarget (pool : Value) {effect : Effect}
    (each : (aimed : Context) → Procedure react given (effect aimed)) :
    Procedure react given (Effect.selectTarget pool effect context) :=
  .reading fun _ => .branch missing <|
    .pickCard (if pool.isText "friendly" then none else some Demand.any) fun _ =>
      .fromDerived fun _ => .orNothing (each _)

def selectConsume (cardType count : Value) {effect : Effect} (isGiven : given effect) :
    Procedure react given (Effect.selectConsume cardType count (.callback effect) context) :=
  .reading fun board => .first (Harmless.require _) fun player _ => .branch missing <|
    .handOver
      [("card_type", .value cardType), ("count", .value count),
       ("valid_cards", .places (player.hand.filter (Effect.cardTypeRule board cardType)))]
      (by simp) isGiven

theorem straight_selectConsume (cardType count note : Value) :
    (Effect.selectConsume cardType count (.value note)).Straight := fun _ =>
  .reading fun _ => (Elementary.require _).bind fun _ _ =>
    .ite (fun _ => .missing _) fun _ => .pure (by simp)

theorem straight_steal (target : CardId) : Straight (Effect.steal context target) :=
  .reading fun _ => .telling (.pure (by simp))

/-- Where a random creature is stolen, nobody is asked. -/
theorem straight_stealRandom {targetType : Value}
    (random : (targetType.isText "random" && context.inGame) = true) :
    Straight (Effect.stealCreature targetType context) := by
  refine .reading fun board => .ite (fun _ => .missing _) fun _ => ?_
  rw [if_pos random]
  refine .drawing fun place => ?_
  split
  · exact straight_steal _
  · exact .throw id

def stealCreature (targetType : Value) :
    Procedure react given (Effect.stealCreature targetType context) :=
  .reading fun _ => .branch missing <|
    .branch (.drawCard (some Demand.any) fun target => .act (straight_steal target).harmless)
      (.pickCard (some Demand.any) fun target => .act (straight_steal target).harmless)

def selectEnemyToKill : Procedure react given (Effect.selectEnemyToKill react context) :=
  pickEnemy fun _ => .pure (by simp)

def selectEnemyToFreeze : Procedure react given (Effect.selectEnemyToFreeze react context) :=
  pickEnemy fun _ => .pure (by simp [Outcome.addKeyword, Outcome.keywordPayload])

def selectEnemyToReturn (title : String) :
    Procedure react given (Effect.selectEnemyToReturn react title context) :=
  pickEnemy fun _ => .pure (by simp [Effect.returnToHand])

def selectEnemyCreatureForDamage (amount label : Value) :
    Procedure react given (Effect.selectEnemyCreatureForDamage react amount label context) :=
  pickEnemy fun _ => .pure (by simp [Outcome.damageCreature])

def selectEnemyPreyToConsume :
    Procedure react given (Effect.selectEnemyPreyToConsume react context) :=
  pickEnemy fun _ => .pure (by simp [Effect.consumeEnemyPrey])

def selectCreatureToRestore :
    Procedure react given (Effect.selectCreatureToRestore react context) :=
  pickAny fun _ => .pure (by simp)

def selectCreatureToCopy : Procedure react given (Effect.selectCreatureToCopy react context) :=
  pickAny fun _ => .pure (by simp)

def selectCreatureToTransform (newCardId : Value) :
    Procedure react given (Effect.selectCreatureToTransform react newCardId context) :=
  pickAny fun _ => .pure (by simp)

def selectEnemyForKeyword (keyword : Value) :
    Procedure react given (Effect.selectEnemyForKeyword react keyword context) :=
  pickEnemy fun _ => .reading fun _ => .telling <|
    .pure (by simp [Outcome.addKeyword, Outcome.keywordPayload])

def returnsToHand (response : Outcome) : Except Failure Bool :=
  if response.isTruthy then response.mentions "return_to_hand" else .ok false

theorem straight_eat (context : Context) (target : CardId) : Straight (Effect.eat context target) :=
  .reading fun _ => (Elementary.require _).bind fun _ _ => .telling (.pure (by simp))

/-- Picked prey is eaten unless it returns to hand. -/
theorem eatPicked_eq (react : Reactor) (context : Context) (target : CardId) :
    (do
      let response ← reactionOf react target context.creature context
      if ← orFail (returnsToHand response) then return response else Effect.eat context target) =
      Effect.eatPicked react context target :=
  congrArg (reactionOf react target context.creature context >>= ·) <| funext fun response => by
    unfold returnsToHand Effect.eat
    by_cases present : response.isTruthy = true
    · simp only [present, if_true]
    · simp only [present]
      rfl

def eatPicked (target : CardId) : Procedure react given (Effect.eatPicked react context target) :=
  .same (eatPicked_eq react context target) <|
    .reacting returnsToHand rfl (.act (straight_eat context target).harmless)

def eatPreyInsteadOfAttacking :
    Procedure react given (Effect.eatPreyInsteadOfAttacking react context) :=
  .reading fun _ => .branch missing (.pickCard (some Demand.prey) eatPicked)

def damageRivalAndSelectEnemy (rivalDamage creatureDamage : Value) :
    Procedure react given
      (Effect.damageRivalAndSelectEnemy react rivalDamage creatureDamage context) :=
  .reading fun _ => .branch (.telling (.act (.pure (by simp)))) <|
    .behind (by simp) <| .pickCard (some Demand.any) fun _ =>
      unlessReacting (by simp [Outcome.damageCreature])

def selectCreatureForDamage (amount label : Value) :
    Procedure react given (Effect.selectCreatureForDamage react amount label context) :=
  .first (elementary_resolveCount amount context).harmless fun _ _ => .branch missing <|
    pickAny fun _ => .pure (by simp [Outcome.damageCreature])

def selectForBuff (preyOnly : Bool) (stats : Stats) :
    Procedure react given (Effect.selectForBuff react preyOnly stats context) :=
  pickAny fun _ => .pure (by simp [Outcome.buffCreature])

def damagePicked (amount label : Value) (ref : TargetRef) :
    Procedure react given (Effect.damagePicked react amount label context ref) :=
  .branch (.telling (.act (.pure (by simp)))) <|
    .first (Harmless.require _) fun _ _ => .reading fun _ => .telling <|
      unlessReacting (by simp [Outcome.damageCreature])

def selectTargetForDamage (amount label : Value) :
    Procedure react given (Effect.selectTargetForDamage react amount label context) :=
  .reading fun _ => .pickRef (some Demand.any) (damagePicked amount label)

def healAndSelectTargetForDamage (healAmount damageAmount : Value) :
    Procedure react given
      (Effect.healAndSelectTargetForDamage react healAmount damageAmount context) :=
  .telling <| .reading fun _ => .behind (by simp) <|
    .pickRef (some Demand.any) (damagePicked damageAmount _)

theorem straight_empower (tokenId : Value) (target : CardId) :
    Straight (Effect.empower tokenId target) :=
  .reading fun _ => .telling (.pure (by simp))

def selectPredatorForEndEffect (tokenId : Value) :
    Procedure react given (Effect.selectPredatorForEndEffect tokenId context) :=
  onPool fun _ => .reading fun _ => .pickCard none fun target =>
    .act (straight_empower tokenId target).harmless

def drawAndEmpowerPredator (drawCount tokenId : Value) :
    Procedure react given (Effect.drawAndEmpowerPredator drawCount tokenId context) :=
  .reading fun _ => .branch (.telling (.act (.pure (by simp)))) <| .telling <|
    .behind (by simp) (selectPredatorForEndEffect tokenId)

def selectFriendlyCreatureToSacrifice :
    Procedure react given (Effect.selectFriendlyCreatureToSacrifice context) :=
  onPool fun _ => .reading fun _ => .pickCard none fun _ => .act (.pure (by simp))

end Picks

section Creatures

def addKeyword (shape : AddKeywordShape) :
    Procedure react given (Effect.addKeyword shape context) :=
  .branch (.act (Effect.straight_onFriendlies _ _
    (fun _ => by simp [Outcome.keywordForAll]) context).harmless) <|
    .branch (.reading fun _ => .branch missing <| .pickCard (some Demand.any) fun target =>
        .act (Effect.straight_gainKeyword _ target).harmless) <|
      .act (.ite (fun _ => by
          split
          · exact (Effect.straight_gainKeyword _ _).harmless
          · exact Elementary.nothing.harmless) fun _ => Elementary.nothing.harmless)

def buffDemand (target : Option String) : Option Demand :=
  if target = some "targetEnemy" then some Demand.any else none

def buff (shape : BuffShape) : Procedure react given (Effect.buff shape context) :=
  .branch (.act (Effect.straight_buffFriendlies _ _ context).harmless) <|
    .branch (.act (by
        split
        · exact (Effect.straight_gainStats _ _ _).harmless
        · exact Elementary.nothing.harmless)) <|
      .reading fun _ => .branch missing <| .pickCard (buffDemand shape.target) fun target =>
        .act (Effect.straight_gainStats _ _ target).harmless

def destroy (shape : DestroyShape) : Procedure react given (Effect.destroy shape context) :=
  .reading fun _ =>
    .branch (.act (.ite (fun _ => (Elementary.missing _).harmless) fun _ =>
        .telling (.pure (by simp [Outcome.ownedCreatures])))) <|
      .branch (.act (.ite (fun _ => (Elementary.missing _).harmless) fun _ =>
          .telling (.pure (by simp [Outcome.ownedCreatures])))) <|
        .branch (.branch missing <| .pickCard (some Demand.any) fun target =>
            .act (Effect.straight_destroyPicked context target).harmless) nothing

end Creatures

section Zones

theorem unrefused_full (places : Places) : NeverRefuses places.full :=
  FailsOnly.mapM fun place _ => by
    cases place with
    | none => exact .error id
    | some id => exact .ok id

theorem unrefused_placeCandidates (board : Board) (viewer : Option Context) (shown : Bool)
    (places : Places) : NeverRefuses (board.placeCandidates viewer shown places) :=
  (unrefused_full places).bind fun _ _ => .ok _

theorem unrefused_sortedCandidates (board : Board) (shown : Bool) (places : Places) :
    NeverRefuses (board.sortedCandidates shown places) :=
  (unrefused_full places).bind fun _ _ => .ok _

theorem unrefused_handSpells (context : Context) (chosen : List CardId) (board : Board) :
    NeverRefuses (Effect.handSpells context chosen board) := by
  unfold Effect.handSpells
  split
  · exact .ok _
  · exact .error id

theorem unrefused_spellCandidates (context : Context) (chosen : List CardId) (board : Board) :
    NeverRefuses (Effect.spellCandidates context chosen board) :=
  (unrefused_handSpells context chosen board).map _

theorem unrefused_roundsUp (count : Value) : NeverRefuses (Effect.roundsUp count) := by
  unfold Effect.roundsUp
  split
  · split
    · exact .ok _
    · exact .ok _
  · split
    · exact .ok _
    · exact .error id

@[simp]
theorem silent_discardPayload (playerIndex : Option Int) (cards : List CardId) :
    (Effect.discardPayload playerIndex cards).silent = true := by
  simp [Effect.discardPayload]

theorem straight_discardOne (playerIndex : Option Int) (card : CardId) :
    Straight (return Effect.discardOne playerIndex card) :=
  .pure (by simp [Effect.discardOne])

theorem straight_discardTold (who : String) (playerIndex : Option Int) (card : CardId) :
    Straight (Effect.discardTold who playerIndex card) :=
  .reading fun _ => .telling (straight_discardOne playerIndex card)

@[simp]
theorem silent_tutored (context : Context) (place : Option CardId) :
    (Effect.tutored context place).silent = true := by
  simp [Effect.tutored]

@[simp]
theorem silent_playedFromHand (context : Context) (card : CardId) :
    (Effect.playedFromHand context card).silent = true := by
  simp [Effect.playedFromHand]

def selectCardToDiscard (count : Value) :
    Procedure react given (Effect.selectCardToDiscard count context) :=
  .reading fun _ => .first (Harmless.require _) fun _ _ => .branch missing <|
    .first (Harmless.orFail (unrefused_placeCandidates _ _ _ _).blameless) fun _ _ =>
      .pickCard none fun card => .act (straight_discardOne _ card).harmless

def selectAndDiscard (count : Value) :
    Procedure react given (Effect.selectAndDiscard count context) :=
  .reading fun _ => .first (Harmless.require _) fun _ _ => .branch missing <|
    .first (Harmless.orFail (unrefused_placeCandidates _ _ _ _).blameless) fun _ _ =>
      .pickCard none fun card => .act (straight_discardTold _ _ card).harmless

def forceOpponentDiscard (count : Value) :
    Procedure react given (Effect.forceOpponentDiscard count context) :=
  .reading fun board =>
    let hand := (Effect.discardRival board context).2.elim [] Player.hand
    (.branch missing <| .first (Harmless.orFail (unrefused_placeCandidates _ _ _ _).blameless)
      fun _ _ =>
      .pickCard none fun card => .act (straight_discardTold _ _ card).harmless :
        Procedure react given (if hand.isEmpty then _ else _))

/-- What is found in the deck; several cards are picked from once they are
sorted, and what is in the pool is settled. -/
def tutorFrom (valid : Places) :
    Procedure react given (match valid with
      | [] => do
        announce "No valid cards in deck."
        return .nothing
      | [only] => return Effect.tutored context only
      | _ =>
        return CreatureCards.pickLater .asCards "Choose a card to add to hand"
          (fun board => board.sortedCandidates false valid)
          (onCard fun card => return Effect.tutored context (some card))) :=
  match valid with
  | [] => missing
  | [_] => .act (.pure (by simp))
  | one :: other :: rest => .pickLater true [] rfl
      (fun board => (unrefused_sortedCandidates board false (one :: other :: rest)).blameless)
        fun _ =>
        .act (.pure (by simp))

def tutorFromDeck (cardType : Value) :
    Procedure react given (Effect.tutorFromDeck cardType context) :=
  .reading fun _ => .first (Harmless.require _) fun _ _ => .branch missing <|
    tutorFrom _

def selectCreatureFromDeckWithKeyword (keyword : Value) :
    Procedure react given (Effect.selectCreatureFromDeckWithKeyword keyword context) :=
  .reading fun _ => .first (Harmless.require _) fun _ _ => .branch missing <|
    .pickCard none fun _ => .act (.pure (by simp))

def playSpell (several : Bool) : (left step : Nat) → (chosen : List CardId) → (spell : CardId) →
    Procedure react given (Effect.playSpell context several left step chosen spell)
  | 0, _, _, _ => .act (.pure (by simp))
  | left + 1, step, chosen, spell => .reading fun board =>
      .first (Harmless.orFail (unrefused_handSpells context (chosen ++ [spell]) board).blameless)
        fun _ _ =>
        .branch (.telling (.act (.pure (by simp)))) <|
          .behind (silent_playedFromHand context spell) <|
            .pickLater false []
              rfl (fun board => (unrefused_spellCandidates context _ board).blameless)
              (playSpell several left (step + 1) (chosen ++ [spell]))

def playSpellsFromHand (count : Value) :
    Procedure react given (Effect.playSpellsFromHand count context) :=
  .reading fun board => .first (Harmless.orFail (unrefused_handSpells context [] board).blameless)
    fun _ _ =>
    .branch missing <| .first (Harmless.orFail (unrefused_roundsUp count).blameless) fun _ _ =>
      .pickCard none fun spell => playSpell _ _ _ _ spell

def playSpellFromHand : Procedure react given (Effect.playSpellFromHand context) :=
  .reading fun board => .first (Harmless.orFail (unrefused_handSpells context [] board).blameless)
    fun _ _ =>
    .branch missing <| .pickCard none fun _ =>
      .reading fun _ => .telling (.act (.pure (by simp)))

def tutorThenPlay (card : CardId) : Procedure react given (Effect.tutorThenPlay context card) :=
  .reading fun board => .first (Harmless.orFail (unrefused_handSpells context [] board).blameless)
    fun _ _ =>
    .branch (.telling (.act (.pure (by simp)))) <|
      .behind (silent_tutored context (some card)) <|
        .pickLater false [] rfl
          (fun later => (unrefused_handSpells context [] later).blameless.bind fun _ _ => .ok _)
          fun _ => .act (.pure (by simp))

def tutorAndPlaySpell : Procedure react given (Effect.tutorAndPlaySpell context) :=
  .reading fun _ => .first (Harmless.require _) fun _ _ => .branch missing <|
    .pickLater false [] rfl (fun board => by
      split
      · exact (unrefused_sortedCandidates board true _).blameless
      · exact .error id) tutorThenPlay

def drawThenDiscard (drawCount discardCount : Value) :
    Procedure react given (Effect.drawThenDiscard drawCount discardCount context) :=
  .telling <| .pickLater false [("draw", .value drawCount)] (by simp) (fun board => by
      split
      · exact (unrefused_placeCandidates board _ true _).blameless
      · exact .error id) fun card => .act (straight_discardOne _ card).harmless

def discardThenKill (card : CardId) :
    Procedure react given (Effect.discardThenKill react context card) :=
  .reading fun _ => .branch (.telling (.act (.pure (by simp)))) <|
    .behind (by simp) <| .pickCard (some Demand.any) fun _ => unlessReacting (by simp)

def discardDrawAndKillEnemy :
    Procedure react given (Effect.discardDrawAndKillEnemy react context) :=
  .reading fun _ => .first (Harmless.require _) fun _ _ => .branch missing <|
    .first (Harmless.orFail (unrefused_placeCandidates _ _ _ _).blameless) fun _ _ =>
      .pickCard none discardThenKill

end Zones

section Tribes

def webTarget : Procedure react given (Effect.webTarget context) :=
  onPool fun _ => .reading fun _ => .pickCard (some Demand.any) fun target =>
    .act (Effect.straight_web target).harmless

def enterStalkMode : Procedure react given (Effect.enterStalkMode context) :=
  onPool fun _ => .reading fun _ => .pickCard none fun target =>
    .act (Effect.straight_enterStalking target).harmless

/-- A pick among friendly creatures, of which nothing more is asked. -/
def pickFriendly {rule : Card → Bool} {missing title : String} {change : CardId → Engine Outcome}
    (straight : ∀ target, Straight (change target)) :
    Procedure react given (Effect.pickFriendly rule missing title change context) :=
  onPool fun _ => .reading fun _ => .pickCard none fun target => .act (straight target).harmless

def grantPride : Procedure react given (Effect.grantPride context) :=
  pickFriendly Effect.straight_joinPride

def chasePrey (atkBonus : Value) : Procedure react given (Effect.chasePrey atkBonus context) :=
  pickFriendly (Effect.straight_giveChase atkBonus)

def grantShell (shellLevel : Value) :
    Procedure react given (Effect.grantShell shellLevel context) :=
  pickFriendly (Effect.straight_growShell shellLevel)

def grantMolt : Procedure react given (Effect.grantMolt context) :=
  pickFriendly Effect.straight_learnMolt

def damageEqualToStalkBonus : Procedure react given (Effect.damageEqualToStalkBonus context) :=
  .reading fun _ => .branch missing <| .branch missing <| .pickCard (some Demand.any) fun target =>
    .act (Effect.straight_strike _ target).harmless

def damageEqualToTotalShell : Procedure react given (Effect.damageEqualToTotalShell context) :=
  .reading fun _ => .branch missing <| .branch missing <|
    .first (Harmless.orFail (Value.fails_shown _).blameless) fun total _ =>
      .pickCard (some Demand.any) fun target => .act (Effect.straight_crush total target).harmless

end Tribes

end Procedure

end CreatureCards
