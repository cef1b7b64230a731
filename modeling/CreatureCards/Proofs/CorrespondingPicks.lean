import CreatureCards.Proofs.CorrespondingEffects

/-!
# Corresponding picks

A pick offers the same when the players are seated anew, and the only candidate is
picked at once on both sides.  What happens to a picked card is the same again, and
so is its reaction as long as the cards react alike.
-/

namespace CreatureCards

open Engine

variable {c : Correspondence}

/-- The cards react alike. -/
def Reactor.Corresponds (c : Correspondence) (react other : Reactor) : Prop :=
  ∀ id, Effect.Corresponds c (react id) (other id)

namespace Correspondence

/-- The pick is shown in the same way, to the same player. -/
def Styles (c : Correspondence) (style other : PickStyle) : Prop :=
  other = { style with selectingPlayer := style.selectingPlayer.map c.seating.index }

/-- The same candidates, or the same failure to find them. -/
abbrev Offers (c : Correspondence) (made other : Except Failure (List Candidate)) : Prop :=
  other = made.map (List.map (Candidate.reseated c.seating))

theorem Offers.matched {made other : Except Failure (List Candidate)}
    (offers : c.Offers made other) :
    Matched (fun candidates others => others = candidates.map (Candidate.reseated c.seating)) made
      other := by
  rw [offers]
  cases made with
  | error failure => exact .failed failure
  | ok candidates => exact .ok rfl

end Correspondence

/-- The same pick, shown to the same player. -/
theorem Outcome.Corresponds.pick {style otherStyle : PickStyle} {title : String}
    {source otherSource : CandidateSource} (styles : c.Styles style otherStyle)
    (sources : c.Sources source otherSource) {answer other : Choice → Engine Outcome}
    (each : ∀ choice, c.Answers (answer choice) (other (choice.reseated c.seating))) :
    Outcome.Corresponds c (.question (.pick (style.pick title source)) answer)
      (.question (.pick (otherStyle.pick title otherSource)) other) := by
  have same : otherStyle.pick title otherSource = { style.pick title source with
      source := otherSource
      selectingPlayer := (style.pick title source).selectingPlayer.map c.seating.index } := by
    rw [styles]
    rfl
  exact .asking (.pick sources same) each fun _ _ => id

namespace Correspondence.Runs

variable {context : Context} {style otherStyle : PickStyle} {title : String}

/-- One of the same candidates is picked. -/
theorem pickOne {candidates others : List Candidate} {answer other : Choice → Engine Outcome}
    (styles : c.Styles style otherStyle)
    (moved : others = candidates.map (Candidate.reseated c.seating))
    (each : ∀ choice, c.Answers (answer choice) (other (choice.reseated c.seating))) :
    c.Answers (CreatureCards.pickOne style title candidates answer)
      (CreatureCards.pickOne otherStyle title others other) := by
  subst moved
  match candidates with
  | [] => exact .nothing
  | [only] => exact (each only.value).orNothing
  | first :: second :: rest =>
      have listed : c.Sources (.listed (first :: second :: rest))
          (.listed ((first :: second :: rest).map (Candidate.reseated c.seating))) := .listed _
      exact .pure (.descriptor (.of (by simp) (.pick styles listed each)))

theorem onCard {answer other : CardId → Engine Outcome}
    (each : ∀ id, c.Answers (answer id) (other id)) (choice : Choice) :
    c.Answers (CreatureCards.onCard answer choice)
      (CreatureCards.onCard other (choice.reseated c.seating)) := by
  cases choice with
  | card id => exact each id
  | ref | number | option => exact .throw _

theorem onRef {answer other : TargetRef → Engine Outcome}
    (each : ∀ ref, c.Answers (answer ref) (other (ref.reseated c.seating))) (choice : Choice) :
    c.Answers (CreatureCards.onRef answer choice)
      (CreatureCards.onRef other (choice.reseated c.seating)) := by
  cases choice with
  | ref reference => exact each reference
  | card | number | option => exact .throw _

/-- One of the same cards is picked. -/
theorem pickCard {board : Board} {players : List Player} {viewer : Option Context} {shown : Bool}
    {cards : List CardId} {answer other : CardId → Engine Outcome}
    (styles : c.Styles style otherStyle) (each : ∀ id, c.Answers (answer id) (other id)) :
    c.Answers
      (CreatureCards.pickOne style title (board.cardCandidates viewer shown cards)
        (CreatureCards.onCard answer))
      (CreatureCards.pickOne otherStyle title
        ({ board with players }.cardCandidates (viewer.map (Context.reseated c.seating))
          shown cards)
        (CreatureCards.onCard other)) :=
  .pickOne styles (board.cardCandidates_reseated c.seating players viewer shown cards) (onCard each)

/-- A card is picked from the places of a pile. -/
theorem pickPlace {board : Board} {players : List Player} {viewer : Option Context} {shown : Bool}
    {places : Places} {answer other : CardId → Engine Outcome} (styles : c.Styles style otherStyle)
    (each : ∀ id, c.Answers (answer id) (other id)) :
    c.Answers
      (do
        let candidates ← Engine.orFail (board.placeCandidates viewer shown places)
        CreatureCards.pickOne style title candidates (CreatureCards.onCard answer))
      (do
        let candidates ← Engine.orFail
          ({ board with players }.placeCandidates (viewer.map (Context.reseated c.seating))
            shown places)
        CreatureCards.pickOne otherStyle title candidates (CreatureCards.onCard other)) := by
  have offers :=
    Offers.matched (board.placeCandidates_reseated c.seating players viewer shown places)
  exact (Runs.orFail offers).bind fun candidates others moved => .pickOne styles moved (onCard each)

/-- Something comes first, and what follows is merged with it. -/
theorem behind {first other : Outcome} (ahead : Outcome.Corresponds c first other)
    {running counterpart : Engine Outcome} (answers : c.Answers running counterpart) :
    c.Answers (do Engine.orFail (Outcome.merge [first, ← running]))
      (do Engine.orFail (Outcome.merge [other, ← counterpart])) :=
  answers.bind fun _ _ alike => .merge (.cons ahead (.cons alike .nil))

section Reactions

variable {react other : Reactor}

theorem reactionOf (reacts : react.Corresponds c other) (target : CardId) (source : Option CardId)
    (acting : c.acts context) :
    c.Answers (CreatureCards.reactionOf react target source context)
      (CreatureCards.reactionOf other target source (context.reseated c.seating)) := by
  refine (derived acting).bind fun derived otherDerived same => ?_
  rw [same.1]
  exact reacts target { derived with target := some (.card target), creature := source }
    (c.passed same.2 _ _ _)

/-- A reaction that answers with something replaces the result. -/
theorem reactionOr (reacts : react.Corresponds c other) {target : CardId}
    {result counterpart : Outcome} (alike : Outcome.Corresponds c result counterpart)
    (acting : c.acts context) :
    c.Answers (CreatureCards.reactionOr react target result context)
      (CreatureCards.reactionOr other target counterpart (context.reseated c.seating)) := by
  refine (reactionOf reacts target none acting).bind fun response answer responds => ?_
  rw [@Likeness.isTruthy_eq c.likeness _ _ responds]
  refine .pure ?_
  split
  · exact responds
  · exact alike

end Reactions

end Correspondence.Runs

namespace Outcome.Corresponds

/-- The candidates are found when the pick is shown. -/
theorem laterPick {title : String} {candidates others : Board → Except Failure (List Candidate)}
    {answer other : CardId → Engine Outcome}
    (offers : ∀ board players, c.seating.Seats board players →
      c.Offers (candidates board) (others { board with players }))
    (each : ∀ id, c.Answers (answer id) (other id)) :
    Outcome.Corresponds c
      (CreatureCards.laterPick .asCards title candidates (CreatureCards.onCard answer))
      (CreatureCards.laterPick .asCards title others (CreatureCards.onCard other)) :=
  pick rfl (.produced fun board players moment => offers board players (c.seats moment))
    (.onCard each)

theorem pickLater {title : String} {candidates others : Board → Except Failure (List Candidate)}
    {answer other : CardId → Engine Outcome}
    (offers : ∀ board players, c.seating.Seats board players →
      c.Offers (candidates board) (others { board with players }))
    (each : ∀ id, c.Answers (answer id) (other id)) :
    Outcome.Corresponds c
      (CreatureCards.pickLater .asCards title candidates (CreatureCards.onCard answer))
      (CreatureCards.pickLater .asCards title others (CreatureCards.onCard other)) :=
  .descriptor (.of (by simp) (laterPick offers each))

end Outcome.Corresponds

namespace Effect

variable {react other : Reactor}

section Picks

/-- The pool is the same when the players are seated anew, whatever rule its creatures
meet. -/
abbrev KeepsRuled (c : Correspondence)
    (pool : Board → Context → (CardId → Bool) → List CardId) : Prop :=
  ∀ rule, c.seating.Keeps fun board context => pool board context rule

theorem keepsRuled_targetableEnemies : KeepsRuled c Board.targetableEnemies :=
  fun rule _ _ seats context => seats.targetableEnemies context rule

theorem keepsRuled_mixedTargets : KeepsRuled c Board.mixedTargets :=
  fun rule _ _ seats context => seats.mixedTargets context rule

/-- What is built for a picked creature corresponds. -/
abbrev Builds (c : Correspondence) (build : CardId → Effect) : Prop :=
  ∀ target, (build target).Corresponds c (build target)

theorem corresponds_pickFrom (reacts : react.Corresponds c other)
    {pool : Board → Context → (CardId → Bool) → List CardId} (keeps : KeepsRuled c pool)
    (asked : CreaturePick) {build : CardId → Effect} (builds : Builds c build) :
    (pickFrom react pool asked build).Corresponds c (pickFrom other pool asked build) := by
  intro context acting
  refine .reading fun board players seats => ?_
  have targets := keeps (fun id => asked.rule (board.card id)) board players seats context
  dsimp only at targets ⊢
  rw [targets]
  refine .ite (fun _ => .missing) fun _ => .pickCard rfl fun target => ?_
  have answered : c.Answers (do reactionOr react target (← build target context) context)
      (do reactionOr other target (← build target (context.reseated c.seating)) (context.reseated
        c.seating)) :=
    (builds target context acting).bind fun _ _ alike => .reactionOr reacts alike acting
  exact .ite (fun _ => .reading fun _ _ _ => .telling answered) fun _ => answered

theorem corresponds_pickEnemy (reacts : react.Corresponds c other) (asked : CreaturePick)
    {build : CardId → Effect} (builds : Builds c build) :
    (pickEnemy react asked build).Corresponds c (pickEnemy other asked build) :=
  corresponds_pickFrom reacts keepsRuled_targetableEnemies asked builds

theorem corresponds_pickAny (reacts : react.Corresponds c other) (asked : CreaturePick)
    {build : CardId → Effect} (builds : Builds c build) :
    (pickAny react asked build).Corresponds c (pickAny other asked build) :=
  corresponds_pickFrom reacts keepsRuled_mixedTargets _ builds

theorem corresponds_selectEnemyToKill (reacts : react.Corresponds c other) :
    (selectEnemyToKill react).Corresponds c (selectEnemyToKill other) :=
  corresponds_pickEnemy reacts _ fun _ _ _ => .impartially (by simp)

theorem corresponds_selectEnemyToFreeze (reacts : react.Corresponds c other) :
    (selectEnemyToFreeze react).Corresponds c (selectEnemyToFreeze other) :=
  corresponds_pickEnemy reacts _ fun _ _ _ =>
    .impartially (by simp [Outcome.addKeyword, Outcome.keywordPayload])

theorem corresponds_selectEnemyToReturn (reacts : react.Corresponds c other) (title : String) :
    (selectEnemyToReturn react title).Corresponds c (selectEnemyToReturn other title) :=
  corresponds_pickEnemy reacts _ fun target context _ =>
    .pure (corresponds_returnToHand [target] context.opponentIndex)

theorem corresponds_selectEnemyForKeyword (reacts : react.Corresponds c other) (keyword : Value) :
    (selectEnemyForKeyword react keyword).Corresponds c (selectEnemyForKeyword other keyword) :=
  corresponds_pickEnemy reacts _ fun _ _ _ => .reading fun _ _ _ =>
    .told (by simp [Outcome.addKeyword, Outcome.keywordPayload])

theorem corresponds_selectEnemyCreatureForDamage (reacts : react.Corresponds c other)
    (amount label : Value) : (selectEnemyCreatureForDamage react amount label).Corresponds c
      (selectEnemyCreatureForDamage other amount label) :=
  corresponds_pickEnemy reacts _ fun _ _ _ => .impartially (by simp [Outcome.damageCreature])

theorem field_consumeEnemyPrey (predator : Option CardId) (prey : CardId) (index : Option Int) :
    c.Field (Outcome.Corresponds c) (consumeEnemyPrey predator prey index)
      (consumeEnemyPrey predator prey (index.map c.seating.index)) :=
  .of (by simp) (.record
    (.cons (.same (by simp)) (.cons (.same (by simp)) (.cons (.index (by simp) _) .nil))))

theorem corresponds_selectEnemyPreyToConsume (reacts : react.Corresponds c other) :
    (selectEnemyPreyToConsume react).Corresponds c (selectEnemyPreyToConsume other) :=
  corresponds_pickEnemy reacts _ fun target context _ =>
    .pure (.record (.cons (field_consumeEnemyPrey context.creature target context.opponentIndex)
      .nil))

theorem corresponds_selectCreatureToRestore (reacts : react.Corresponds c other) :
    (selectCreatureToRestore react).Corresponds c (selectCreatureToRestore other) :=
  corresponds_pickAny reacts _ fun _ _ _ => .impartially (by simp)

theorem corresponds_selectCreatureToCopy (reacts : react.Corresponds c other) :
    (selectCreatureToCopy react).Corresponds c (selectCreatureToCopy other) :=
  corresponds_pickAny reacts _ fun _ context _ => .pure (.descriptor (.of (by simp) (.record
    (.cons (.same (by simp)) (.cons (.index (by simp) context.playerIndex) .nil)))))

theorem corresponds_selectCreatureToTransform (reacts : react.Corresponds c other)
    (newCardId : Value) :
    (selectCreatureToTransform react newCardId).Corresponds c
      (selectCreatureToTransform other newCardId) :=
  corresponds_pickAny reacts _ fun _ _ _ => .impartially (by simp)

theorem corresponds_selectForBuff (reacts : react.Corresponds c other) (preyOnly : Bool)
    (stats : Stats) :
    (selectForBuff react preyOnly stats).Corresponds c (selectForBuff other preyOnly stats) := by
  unfold selectForBuff
  exact corresponds_pickAny reacts _ fun _ _ _ => .impartially (by simp [Outcome.buffCreature])

theorem corresponds_selectCreatureForDamage (reacts : react.Corresponds c other)
    (amount label : Value) :
    (selectCreatureForDamage react amount label).Corresponds c
      (selectCreatureForDamage other amount label) := by
  intro context acting
  refine (runs_resolveCount amount context).bind fun resolved number same => ?_
  rw [same]
  have builds : Builds c fun target _ => return .damageCreature target (.int resolved) label :=
    fun _ _ _ => .impartially (by simp [Outcome.damageCreature])
  exact .ite (fun _ => .missing) fun _ => corresponds_pickAny reacts
    { title := s!"Choose a target for {resolved} {label}",
      missing := s!"No valid targets for {label}." }
    builds context acting

theorem answers_steal (context : Context) (target : CardId) :
    c.Answers (steal context target) (steal (context.reseated c.seating) target) :=
  .reading fun _ _ _ => .telling (.pure (.descriptor (.of (by simp) (.record
    (.cons (.same (by simp)) (.cons (.index (by simp) context.opponentIndex)
      (.cons (.index (by simp) context.playerIndex) .nil)))))))

theorem answers_stealAt (context : Context) (targets : List CardId) (place : Int) :
    c.Answers
      (match targets[place.toNat]? with
        | some target => steal context target
        | none => throw .missingEntry)
      (match targets[place.toNat]? with
        | some target => steal (context.reseated c.seating) target
        | none => throw .missingEntry) := by
  cases targets[place.toNat]? with
  | none => exact .throw _
  | some target => exact answers_steal context target

theorem corresponds_stealCreature (targetType : Value) :
    (stealCreature targetType).Corresponds c (stealCreature targetType) := by
  intro context _
  refine .reading fun board players seats => ?_
  rw [seats.targetableEnemies, context.inGame_reseated]
  refine .ite (fun _ => .missing) fun _ => .ite (fun _ => ?_) fun _ => ?_
  · refine (Correspondence.Runs.draw _).bind fun place other same => ?_
    rw [same]
    exact answers_stealAt context _ place
  · exact .pickCard rfl (answers_steal context)

theorem answers_eatPicked (reacts : react.Corresponds c other) {context : Context}
    (acting : c.acts context) (target : CardId) : c.Answers (eatPicked react context target)
      (eatPicked other (context.reseated c.seating) target) := by
  have eaten : c.Answers
      (do
        let board ← board
        let creature ← require context.creature
        let name := board.title creature
        let preyName := board.title target
        announce s!"{name} eats {preyName}."
        return .descriptor "eat_creature" (.record
          [("creature", .card creature), ("target", .card target),
            ("player_index", .index context.playerIndex)]))
      (do
        let board ← board
        let creature ← require context.creature
        let name := board.title creature
        let preyName := board.title target
        announce s!"{name} eats {preyName}."
        return .descriptor "eat_creature" (.record
          [("creature", .card creature), ("target", .card target),
            ("player_index", .index (context.playerIndex.map c.seating.index))])) :=
    .reading fun _ _ _ => .requireSame fun _ => .telling (.pure (.descriptor (.of (by simp) (.record
      (.cons (.same (by simp)) (.cons (.same (by simp)) (.cons (.index (by simp) _) .nil)))))))
  refine (Correspondence.Runs.reactionOf reacts target context.creature acting).bind
    fun response answer responds => ?_
  rw [@Likeness.isTruthy_eq c.likeness _ _ responds, @Likeness.mentions_eq c.likeness _ _ responds]
  exact .ite (fun _ => .orFailSame fun _ => .ite (fun _ => .pure responds) fun _ => eaten) fun _ =>
    eaten

theorem corresponds_eatPreyInsteadOfAttacking (reacts : react.Corresponds c other) :
    (eatPreyInsteadOfAttacking react).Corresponds c (eatPreyInsteadOfAttacking other) := by
  intro context acting
  refine .reading fun board players seats => ?_
  have prey := seats.targetableEnemies context fun id => (board.card id).isPrey
  dsimp only at prey ⊢
  rw [prey]
  exact .ite (fun _ => .missing) fun _ => .pickCard rfl (answers_eatPicked reacts acting)

theorem corresponds_damageRivalAndSelectEnemy (reacts : react.Corresponds c other)
    (rivalDamage creatureDamage : Value) :
    (damageRivalAndSelectEnemy react rivalDamage creatureDamage).Corresponds c
      (damageRivalAndSelectEnemy other rivalDamage creatureDamage) := by
  intro context acting
  refine .reading fun board players seats => ?_
  rw [seats.targetableEnemies]
  refine .ite (fun _ => .told (by simp)) fun _ => .behind (.of_impartial (by simp)) ?_
  exact .pickCard rfl fun _ =>
    .reactionOr reacts (.of_impartial (by simp [Outcome.damageCreature])) acting

/-- The rival is damaged, or a picked creature on either side. -/
theorem answers_damagePicked (reacts : react.Corresponds c other) (amount label : Value)
    {context : Context} (acting : c.acts context) (ref : TargetRef) :
    c.Answers (damagePicked react amount label context ref)
      (damagePicked other amount label (context.reseated c.seating) (ref.reseated c.seating)) := by
  refine .ite (fun _ => .told (by simp)) fun _ => .requireSame fun creature => .reading fun _ _ _ =>
    .telling ?_
  exact .reactionOr reacts (.of_impartial (by simp [Outcome.damageCreature])) acting

theorem corresponds_selectTargetForDamage (reacts : react.Corresponds c other)
    (amount label : Value) :
    (selectTargetForDamage react amount label).Corresponds c
      (selectTargetForDamage other amount label) :=
  fun context acting => .reading fun _ _ seats =>
    .pickOne rfl (seats.creatureOrRivalCandidates context)
      (Correspondence.Runs.onRef (answers_damagePicked reacts amount label acting))

theorem corresponds_healAndSelectTargetForDamage (reacts : react.Corresponds c other)
    (healAmount damageAmount : Value) :
    (healAndSelectTargetForDamage react healAmount damageAmount).Corresponds c
      (healAndSelectTargetForDamage other healAmount damageAmount) :=
  fun context acting => .telling <| .reading fun _ _ seats => .behind (.of_impartial (by simp)) <|
    .pickOne rfl (seats.creatureOrRivalCandidates context)
      (Correspondence.Runs.onRef (answers_damagePicked reacts damageAmount _ acting))

theorem answers_empower (tokenId : Value) (target : CardId) :
    c.Answers (empower tokenId target) (empower tokenId target) :=
  .reading fun _ _ _ => .told (by simp)

theorem corresponds_selectPredatorForEndEffect (tokenId : Value) :
    (selectPredatorForEndEffect tokenId).Corresponds c (selectPredatorForEndEffect tokenId) :=
  corresponds_onPool (keeps_friendlyWith _) fun _ _ _ => .reading fun _ _ _ =>
    .pickCard rfl (answers_empower tokenId)

theorem corresponds_drawAndEmpowerPredator (drawCount tokenId : Value) :
    (drawAndEmpowerPredator drawCount tokenId).Corresponds c
      (drawAndEmpowerPredator drawCount tokenId) := by
  intro context acting
  refine .reading fun board players seats => ?_
  have predators : friendlyPredators { board with players } (context.reseated c.seating) =
      friendlyPredators board context := seats.friendlyWith context Card.isPredator
  rw [predators]
  refine .ite (fun _ => .told (by simp)) fun _ => .telling (.behind (.of_impartial (by simp)) ?_)
  exact corresponds_selectPredatorForEndEffect tokenId context acting

theorem corresponds_selectFriendlyCreatureToSacrifice :
    selectFriendlyCreatureToSacrifice.Corresponds c selectFriendlyCreatureToSacrifice :=
  corresponds_onPool keeps_friendlyCreatures fun _ _ _ => .reading fun _ _ _ =>
    .pickCard rfl fun _ => .impartially (by simp)

theorem corresponds_addKeyword (shape : AddKeywordShape) :
    (addKeyword shape).Corresponds c (addKeyword shape) := by
  intro context acting
  unfold addKeyword
  refine .ite (fun _ => ?_) fun _ => .ite (fun _ => ?_) fun _ =>
    .ite (fun _ => ?_) fun _ => .nothing
  · exact corresponds_onFriendlies (fun _ => by simp [Outcome.keywordForAll]) context acting
  · refine .reading fun board players seats => ?_
    rw [seats.mixedTargets]
    exact .ite (fun _ => .missing) fun _ => .pickCard rfl (answers_gainKeyword _)
  · rw [context.creature_reseated]
    cases context.creature with
    | none => exact .nothing
    | some creature => exact answers_gainKeyword _ creature

theorem corresponds_buff (shape : BuffShape) : (buff shape).Corresponds c (buff shape) := by
  intro context acting
  unfold buff
  refine .ite (fun _ => corresponds_buffFriendlies _ _ context acting) fun _ =>
    .ite (fun _ => ?_) fun _ => ?_
  · rw [context.creature_reseated]
    cases context.creature with
    | none => exact .nothing
    | some creature => exact answers_gainStats _ _ creature
  · refine .reading fun board players seats => ?_
    rw [seats.buffTargets]
    exact .ite (fun _ => .missing) fun _ => .pickCard rfl (answers_gainStats _ _)

theorem corresponds_ownedCreatures (creatures : List CardId) (owner : Option Int) :
    Outcome.Corresponds c (.ownedCreatures creatures owner)
      (.ownedCreatures creatures (owner.map c.seating.index)) :=
  .record (.cons (.same (by simp)) (.cons (.index (by simp) owner) .nil))

theorem answers_destroyPicked (context : Context) (target : CardId) :
    c.Answers (destroyPicked context target) (destroyPicked (context.reseated c.seating) target) :=
  .reading fun _ _ _ => .telling (.pure (.descriptor (.of (by simp)
    (corresponds_ownedCreatures [target] context.opponentIndex))))

theorem corresponds_destroy (shape : DestroyShape) :
    (destroy shape).Corresponds c (destroy shape) := by
  intro context _
  refine .reading fun board players seats => ?_
  rw [seats.enemyCreatures, seats.friendlyCreatures, seats.targetableEnemies]
  have enemies :=
    corresponds_ownedCreatures (c := c) (board.enemyCreatures context) context.opponentIndex
  have friendlies :=
    corresponds_ownedCreatures (c := c) (board.friendlyCreatures context) context.playerIndex
  refine .ite (fun _ => ?_) fun _ => .ite (fun _ => ?_) fun _ =>
    .ite (fun _ => ?_) fun _ => .nothing
  · exact .ite (fun _ => .missing) fun _ => .telling (.pure (.descriptor (.of (by simp) enemies)))
  · exact .ite (fun _ => .missing) fun _ => .telling (.pure (.record
      (.cons (.of (by simp) friendlies) (.cons (.of (by simp) enemies) .nil))))
  · exact .ite (fun _ => .missing) fun _ => .pickCard rfl (answers_destroyPicked context)

theorem corresponds_webTarget : webTarget.Corresponds c webTarget :=
  corresponds_onPool (keepsRuled_targetableEnemies _) fun _ _ _ => .reading fun _ _ _ =>
    .pickCard rfl answers_web

theorem corresponds_enterStalkMode : enterStalkMode.Corresponds c enterStalkMode :=
  corresponds_onPool (keeps_friendlyWith _) fun _ _ _ => .reading fun _ _ _ =>
    .pickCard rfl answers_enterStalking

theorem corresponds_pickFriendly {rule : Card → Bool} {missing title : String}
    {change : CardId → Engine Outcome}
    (each : ∀ target, c.Answers (change target) (change target)) :
    (pickFriendly rule missing title change).Corresponds c
      (pickFriendly rule missing title change) :=
  corresponds_onPool (keeps_friendlyWith rule) fun _ _ _ => .reading fun _ _ _ => .pickCard rfl each

theorem corresponds_grantPride : grantPride.Corresponds c grantPride :=
  corresponds_pickFriendly fun _ => .reading fun _ _ _ =>
    .told (by simp [Outcome.addKeyword, Outcome.keywordPayload])

theorem corresponds_chasePrey (atkBonus : Value) :
    (chasePrey atkBonus).Corresponds c (chasePrey atkBonus) :=
  corresponds_pickFriendly fun _ => .reading fun _ _ _ => .told (by simp [Outcome.keywordPayload])

theorem corresponds_grantShell (shellLevel : Value) :
    (grantShell shellLevel).Corresponds c (grantShell shellLevel) :=
  corresponds_pickFriendly fun _ => .reading fun _ _ _ => .told (by simp)

theorem corresponds_grantMolt : grantMolt.Corresponds c grantMolt :=
  corresponds_pickFriendly fun _ => .reading fun _ _ _ =>
    .told (by simp [Outcome.addKeyword, Outcome.keywordPayload])

theorem corresponds_damageEqualToStalkBonus :
    damageEqualToStalkBonus.Corresponds c damageEqualToStalkBonus := by
  intro context _
  refine .reading fun board players seats => ?_
  rw [seats.targetableEnemies, context.creature_reseated]
  refine .ite (fun _ => .missing) fun _ => .ite (fun _ => .missing) fun _ =>
    .pickCard rfl fun target => ?_
  exact .reading fun _ _ _ => .told (by simp [Outcome.damageCreature])

theorem corresponds_damageEqualToTotalShell :
    damageEqualToTotalShell.Corresponds c damageEqualToTotalShell := by
  intro context _
  refine .reading fun board players seats => ?_
  rw [seats.targetableEnemies, seats.totalShell]
  refine .ite (fun _ => .missing) fun _ => .ite (fun _ => .missing) fun _ =>
    .orFailSame fun total => ?_
  have moved : healthCandidates { board with players } (context.reseated c.seating)
      (board.targetableEnemies context anyCard) =
        (healthCandidates board context (board.targetableEnemies context anyCard)).map
          (Candidate.reseated c.seating) := by
    unfold healthCandidates
    rw [List.map_map]
    rfl
  exact .pickOne rfl moved (Correspondence.Runs.onCard fun target => .reading fun _ _ _ =>
    .told (by simp [Outcome.damageCreature]))

end Picks

end Effect

end CreatureCards
