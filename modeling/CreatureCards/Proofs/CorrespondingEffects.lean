import CreatureCards.Proofs.Correspondence

/-!
# Corresponding effects

An effect that asks nothing finds the same creatures when the players are seated
anew, tells the same and draws the same, so it corresponds to itself.  Most of its
results name no player at all; the others name players by the indices of the context.
-/

namespace CreatureCards

open Engine

variable {c : Correspondence}

namespace Outcome

mutual

/-- The outcome asks nothing and names no player. -/
def impartial : Outcome → Bool
  | value _ | card _ => true
  | list items => impartialItems items
  | record fields => impartialFields fields
  | player _ | ref _ | question _ _ | callback _ => false

def impartialItems : List Outcome → Bool
  | [] => true
  | item :: rest => item.impartial && impartialItems rest

def impartialFields : Descriptors → Bool
  | [] => true
  | (key, payload) :: rest => !playerKeys.contains key && payload.impartial && impartialFields rest

end

@[simp]
theorem impartial_value (data : Value) : (value data).impartial = true := by
  rw [impartial]

@[simp]
theorem impartial_card (id : CardId) : (card id).impartial = true := by
  rw [impartial]

@[simp]
theorem impartial_record (fields : Descriptors) :
    (record fields).impartial = impartialFields fields := by
  rw [impartial]

@[simp]
theorem impartialFields_nil : impartialFields [] = true := by
  rw [impartialFields]

@[simp]
theorem impartialFields_cons (key : String) (payload : Outcome) (rest : Descriptors) :
    impartialFields ((key, payload) :: rest) =
      (!playerKeys.contains key && payload.impartial && impartialFields rest) := by
  rw [impartialFields]

@[simp]
theorem impartial_nothing : nothing.impartial = true := by
  simp [nothing]

@[simp]
theorem impartial_descriptor (key : String) (payload : Outcome) :
    (descriptor key payload).impartial = (!playerKeys.contains key && payload.impartial) := by
  simp [descriptor]

@[simp]
theorem impartial_int (number : Int) : (int number).impartial = true :=
  impartial_value _

@[simp]
theorem impartial_bool (flag : Bool) : (bool flag).impartial = true :=
  impartial_value _

@[simp]
theorem impartial_text (content : String) : (text content).impartial = true :=
  impartial_value _

@[simp]
theorem impartial_card? (id : Option CardId) : (card? id).impartial = true := by
  cases id with
  | none => exact impartial_value _
  | some id => exact impartial_card id

theorem impartial_map {α : Type} {make : α → Outcome}
    (each : ∀ entry, (make entry).impartial = true) (entries : List α) :
    (list (entries.map make)).impartial = true := by
  rw [impartial]
  induction entries with
  | nil => rw [List.map_nil, impartialItems]
  | cons entry rest ih => rw [List.map_cons, impartialItems, each, ih, Bool.and_self]

@[simp]
theorem impartial_cards (ids : List CardId) : (cards ids).impartial = true :=
  impartial_map impartial_card ids

@[simp]
theorem impartial_places (places : Places) : (Outcome.places places).impartial = true :=
  impartial_map impartial_card? places

namespace Corresponds

theorem record {fields others : Descriptors}
    (each : List.Forall₂ (c.Field (Corresponds c)) fields others) :
    Corresponds c (.record fields) (.record others) :=
  .keyed each fun _ _ => id

theorem descriptor {key : String} {payload other : Outcome}
    (field : c.Field (Corresponds c) (key, payload) (key, other)) :
    Corresponds c (.descriptor key payload) (.descriptor key other) :=
  .record (.cons field .nil)

mutual

/-- What names no player is the same however the players are seated. -/
theorem of_impartial : ∀ {outcome : Outcome}, outcome.impartial = true →
    Corresponds c outcome outcome
  | .value data, _ => .value data
  | .card id, _ => .card id
  | .list items, impartial =>
      .list (of_impartialItems (by simpa [Outcome.impartial] using impartial))
  | .record fields, impartial => .record (of_impartialFields (by simpa using impartial))
  | .player _, impartial | .ref _, impartial
  | .question _ _, impartial | .callback _, impartial => by
      simp [Outcome.impartial] at impartial

theorem of_impartialItems : ∀ {items : List Outcome}, impartialItems items = true →
    List.Forall₂ (Corresponds c) items items
  | [], _ => .nil
  | item :: rest, impartial => by
      simp only [impartialItems, Bool.and_eq_true] at impartial
      exact .cons (of_impartial impartial.1) (of_impartialItems impartial.2)

theorem of_impartialFields : ∀ {fields : Descriptors}, impartialFields fields = true →
    List.Forall₂ (c.Field (Corresponds c)) fields fields
  | [], _ => .nil
  | (key, payload) :: rest, impartial => by
      simp only [impartialFields_cons, Bool.and_eq_true, Bool.not_eq_true'] at impartial
      obtain ⟨⟨isOther, here⟩, later⟩ := impartial
      have isOther : key ∉ playerKeys := by simpa using isOther
      exact .cons (.plain (fun isKey => absurd isKey isOther) (of_impartial here))
        (of_impartialFields later)

end

end Corresponds

end Outcome

namespace Correspondence

/-- The runs come to corresponding outcomes. -/
abbrev Answers (c : Correspondence) (running other : Engine Outcome) : Prop :=
  c.Runs (Outcome.Corresponds c) running other

namespace Field

theorem of {key : String} {payload other : Outcome} (isOther : key ∉ playerKeys)
    (alike : Outcome.Corresponds c payload other) :
    c.Field (Outcome.Corresponds c) (key, payload) (key, other) :=
  .plain (fun isKey => absurd isKey isOther) alike

theorem same {key : String} {payload : Outcome}
    (impartial : Outcome.impartialFields [(key, payload)] = true) :
    c.Field (Outcome.Corresponds c) (key, payload) (key, payload) := by
  cases Outcome.Corresponds.of_impartialFields impartial with
  | cons here _ => exact here

end Field

namespace Runs

theorem impartially {outcome : Outcome} (impartial : outcome.impartial = true) :
    c.Answers (return outcome) (return outcome) :=
  .pure (.of_impartial impartial)

theorem told {message : String} {outcome : Outcome} (impartial : outcome.impartial = true) :
    c.Answers (do
        announce message
        return outcome)
      (do
        announce message
        return outcome) :=
  .telling (.impartially impartial)

/-- There is nothing to do, and the same is told about it. -/
theorem missing {message : String} : c.Answers (do
      announce message
      return .nothing)
    (do
      announce message
      return .nothing) :=
  .told (by simp)

theorem nothing : c.Answers (return .nothing) (return .nothing) :=
  .impartially (by simp)

theorem orNothing {running other : Engine Outcome} (answers : c.Answers running other) :
    c.Answers (do return (← running).orNothing) (do return (← other).orNothing) :=
  answers.bind fun _ _ alike => .pure (@Likeness.orNothing c.likeness _ _ alike)

theorem merge {results others : List Outcome}
    (alike : List.Forall₂ (Outcome.Corresponds c) results others) :
    c.Answers (Engine.orFail (Outcome.merge results)) (Engine.orFail (Outcome.merge others)) :=
  .orFail (@Likeness.merge c.likeness _ _ alike)

end Runs

end Correspondence

/-- The effects come to corresponding outcomes when the second one acts in the context
that is seated anew. -/
def Effect.Corresponds (c : Correspondence) (effect other : Effect) : Prop :=
  ∀ context, c.acts context → c.Answers (effect context) (other (context.reseated c.seating))

/-- Creatures on no field have gone astray, unless the first index keeps its seat. -/
def Correspondence.Strays (c : Correspondence) : Prop :=
  ∀ context, c.acts context → ∀ board players, c.moments board players → ∀ creature,
    board.ownerIndex? context.inGame creature = none → c.seating.index 0 = 0 ∨ c.astray creature

/-- The pool is the same when the players are seated anew. -/
def Seating.Keeps (seating : Seating) (pool : Board → Context → List CardId) : Prop :=
  ∀ board players, seating.Seats board players → ∀ context,
    pool { board with players } (context.reseated seating) = pool board context

namespace Effect

section Families

variable {missing : String}

theorem corresponds_onRole {role : Value} {act : Board → CardId → Engine Outcome}
    (each : ∀ board players, c.seating.Seats board players → ∀ creature,
      c.Answers (act board creature) (act { board with players } creature)) :
    (onRole role missing act).Corresponds c (onRole role missing act) := by
  intro context _
  refine .reading fun board players seats => ?_
  rw [seats.creatureInRole]
  cases board.creatureInRole context role with
  | none => exact .missing
  | some creature => exact each board players seats creature

theorem corresponds_onAttacker {act : Board → CardId → Engine Outcome}
    (each : ∀ board players, c.seating.Seats board players → ∀ creature,
      c.Answers (act board creature) (act { board with players } creature)) :
    (onAttacker missing act).Corresponds c (onAttacker missing act) := by
  intro context _
  refine .reading fun board players seats => ?_
  rw [seats.freshAttacker]
  cases board.freshAttacker context with
  | none => exact .missing
  | some attacker => exact each board players seats attacker

theorem corresponds_onTrapped {act : Context → Board → CardId → Engine Outcome}
    (each : ∀ context, c.acts context → ∀ board players, c.moments board players → ∀ creature,
      c.Answers (act context board creature)
        (act (context.reseated c.seating) { board with players } creature)) :
    (onTrapped missing act).Corresponds c (onTrapped missing act) := by
  intro context acting
  refine .readingNow fun board players moment => ?_
  rw [(c.seats moment).freshTrapCreature]
  cases board.freshTrapCreature context with
  | none => exact .missing
  | some creature => exact each context acting board players moment creature

/-- The acting creature is the same, and so are the other parts of the moment that no
player is named by. -/
theorem corresponds_onSource {act : Board → CardId → Engine Outcome}
    (each : ∀ board players creature,
      c.Answers (act board creature) (act { board with players } creature)) :
    (onSource missing act).Corresponds c (onSource missing act) := by
  intro context _
  refine .reading fun board players _ => ?_
  rw [context.creature_reseated]
  cases context.creature with
  | none => exact .missing
  | some creature => exact each board players creature

theorem corresponds_onFriendlies {reached : String} {build : List CardId → Outcome}
    (impartial : ∀ creatures, (build creatures).impartial = true) :
    (onFriendlies missing reached build).Corresponds c (onFriendlies missing reached build) := by
  intro context _
  refine .reading fun board players seats => ?_
  rw [seats.friendlyCreatures]
  exact .ite (fun _ => .missing) fun _ => .told (impartial _)

theorem corresponds_onPool {pool : Board → Context → List CardId}
    {act : Context → List CardId → Engine Outcome} (keeps : c.seating.Keeps pool)
    (each : ∀ context, c.acts context → ∀ creatures,
      c.Answers (act context creatures) (act (context.reseated c.seating) creatures)) :
    (onPool pool missing act).Corresponds c (onPool pool missing act) := by
  intro context acting
  refine .reading fun board players seats => ?_
  rw [keeps board players seats context]
  exact .ite (fun _ => .missing) fun _ => each context acting _

theorem corresponds_onPoolTold {pool : Board → Context → List CardId} {reached : String}
    {build : Context → List CardId → Outcome} (keeps : c.seating.Keeps pool)
    (each : ∀ context creatures, Outcome.Corresponds c (build context creatures)
      (build (context.reseated c.seating) creatures)) :
    (onPoolTold pool missing reached build).Corresponds c (onPoolTold pool missing reached build) :=
  corresponds_onPool keeps fun context _ creatures => .telling (.pure (each context creatures))

end Families

section Pools

variable {seating : Seating}

theorem keeps_allCreatures : seating.Keeps allCreatures :=
  fun _ _ seats => seats.allCreatures

theorem keeps_otherCreatures : seating.Keeps otherCreatures :=
  fun _ _ seats => seats.otherCreatures

theorem keeps_enemyCreatures : seating.Keeps Board.enemyCreatures :=
  fun _ _ seats => seats.enemyCreatures

theorem keeps_friendlyCreatures : seating.Keeps Board.friendlyCreatures :=
  fun _ _ seats => seats.friendlyCreatures

theorem keeps_friendlyWith (rule : Card → Bool) : seating.Keeps (Board.friendlyWith rule) :=
  fun _ _ seats context => seats.friendlyWith context rule

theorem keeps_webbedEnemies : seating.Keeps Board.webbedEnemies :=
  fun _ _ seats => seats.webbedEnemies

theorem keeps_enemyTokens : seating.Keeps enemyTokens :=
  fun _ _ seats => seats.enemyTokens

end Pools

section Creatures

theorem corresponds_damageCreature (targetType amount sourceLabel : Value) :
    (damageCreature targetType amount sourceLabel).Corresponds c
      (damageCreature targetType amount sourceLabel) :=
  corresponds_onRole fun _ _ _ _ => .told (by simp [Outcome.damageCreature])

theorem corresponds_killCreature (targetType : Value) :
    (killCreature targetType).Corresponds c (killCreature targetType) :=
  corresponds_onRole fun _ _ _ _ => .told (by simp)

theorem corresponds_transformCard (targetType newCardId : Value) :
    (transformCard targetType newCardId).Corresponds c (transformCard targetType newCardId) :=
  corresponds_onRole fun _ _ _ _ => .told (by simp)

theorem corresponds_removeAbilities (targetType : Value) :
    (removeAbilities targetType).Corresponds c (removeAbilities targetType) :=
  corresponds_onRole fun _ _ _ _ => .told (by simp)

theorem impartial_copyPayload (target : Option CardId) (source : CardId) :
    (copyPayload target source).impartial = true := by
  simp [copyPayload]

theorem corresponds_copyAbilities (source : Value) :
    (copyAbilities source).Corresponds c (copyAbilities source) := by
  intro context _
  refine .reading fun board players _ => ?_
  have origin : copyOrigin (context.reseated c.seating) source = copyOrigin context source := by
    unfold copyOrigin
    rw [context.targeted_reseated]
    rfl
  rw [origin, context.creature_reseated]
  cases copyOrigin context source with
  | none => exact .missing
  | some origin =>
      cases context.creature with
      | none => exact .missing
      | some creature => exact .told (by simp [impartial_copyPayload])

theorem corresponds_reviveCreature : reviveCreature.Corresponds c reviveCreature := by
  intro context acting
  refine .reading fun board players _ => ?_
  rw [context.creature_reseated]
  cases context.creature with
  | none => exact .missing
  | some creature =>
      refine .telling (.pure (.descriptor (.of (by simp) (.record ?_))))
      exact .cons (.same (by simp)) (.cons (.index (by simp) _) .nil)

theorem corresponds_regenSelf : regenSelf.Corresponds c regenSelf :=
  corresponds_onSource fun _ _ _ => .told (by simp)

theorem corresponds_trackAttackForRegenHeal (healAmount : Value) :
    (trackAttackForRegenHeal healAmount).Corresponds c (trackAttackForRegenHeal healAmount) := by
  intro context _
  unfold trackAttackForRegenHeal
  rw [context.creature_reseated]
  cases context.creature with
  | none => exact .nothing
  | some creature => exact .told (by simp)

theorem corresponds_grantKeyword (targetType keyword : Value) :
    (grantKeyword targetType keyword).Corresponds c (grantKeyword targetType keyword) := by
  unfold grantKeyword
  split
  · exact corresponds_onFriendlies fun _ => by simp [Outcome.keywordForAll]
  · exact corresponds_onRole fun _ _ _ _ => .told (by simp [Outcome.keywordPayload])

theorem answers_gainKeyword (keyword : String) (creature : CardId) :
    c.Answers (gainKeyword keyword creature) (gainKeyword keyword creature) :=
  .reading fun _ _ _ => .told (by simp [Outcome.addKeyword, Outcome.keywordPayload])

theorem answers_gainStats (attack health : Value) (creature : CardId) :
    c.Answers (gainStats attack health creature) (gainStats attack health creature) :=
  .reading fun _ _ _ => .told (by simp [Outcome.buffCreature])

theorem corresponds_buffFriendlies (attack health : Value) :
    (buffFriendlies attack health).Corresponds c (buffFriendlies attack health) := by
  unfold buffFriendlies
  exact corresponds_onFriendlies fun _ => by simp [Outcome.buffCreatures]

theorem corresponds_buffStats (targetType attack health : Value) :
    (buffStats targetType attack health).Corresponds c (buffStats targetType attack health) := by
  unfold buffStats
  split
  · exact corresponds_buffFriendlies attack health
  · exact corresponds_onRole fun _ _ _ creature => answers_gainStats attack health creature

end Creatures

section Players

theorem corresponds_told {message : String} {outcome : Outcome}
    (impartial : outcome.impartial = true) :
    Effect.Corresponds c
      (fun _ => do
        announce message
        return outcome)
      (fun _ => do
        announce message
        return outcome) :=
  fun _ _ => .told impartial

/-- A named count is the same number. -/
theorem runs_resolveCount (count : Value) (context : Context) :
    c.Runs (fun number other => other = number) (resolveCount count context)
      (resolveCount count (context.reseated c.seating)) := by
  refine .reading fun board players seats => ?_
  have size : Board.creatures { board with players } = board.creatures := rfl
  rw [seats.actor, seats.rival, size]
  split
  all_goals first
    | exact .pure rfl
    | exact .throw _
    | exact (Correspondence.Runs.warned _).bind fun _ _ _ => .pure rfl

theorem corresponds_draw (count : Value) : (draw count).Corresponds c (draw count) := by
  intro context _
  refine (runs_resolveCount count context).bind fun number other same => ?_
  rw [same]
  exact .ite (fun _ => .missing) fun _ => .told (by simp)

theorem corresponds_summonPayload (context : Context) (tokens : List Value) :
    Outcome.Corresponds c (summonPayload context tokens)
      (summonPayload (context.reseated c.seating) tokens) := by
  refine .descriptor (.of (by simp) (.record ?_))
  have listed : (Outcome.list (tokens.map .value)).impartial = true :=
    Outcome.impartial_map Outcome.impartial_value tokens
  exact .cons (.index (by simp) _) (.cons (.same (by simp [playerKeys, listed])) .nil)

theorem corresponds_summonTokens (tokenIds : Value) :
    (summonTokens tokenIds).Corresponds c (summonTokens tokenIds) := fun context _ =>
  .ite (fun _ => .missing) fun _ => .telling (.pure (corresponds_summonPayload context _))

/-- A record that names one player and says the same otherwise. -/
theorem corresponds_indexed {key : String} (index : Option Int) {rest : Descriptors}
    (isOther : key ∉ playerKeys) (impartial : Outcome.impartialFields rest = true) :
    Outcome.Corresponds c (.descriptor key (.record (("player_index", .index index) :: rest)))
      (.descriptor key (.record (("player_index", .index (index.map c.seating.index)) :: rest))) :=
  .descriptor (.of isOther (.record (.cons (.index (by simp) index)
    (Outcome.Corresponds.of_impartialFields impartial))))

theorem corresponds_addToHand (cardId : Value) :
    (addToHand cardId).Corresponds c (addToHand cardId) :=
  fun context _ =>
    .telling (.pure (corresponds_indexed context.playerIndex (by simp) (by simp)))

theorem corresponds_discardCards (count : Value) :
    (discardCards count).Corresponds c (discardCards count) := fun context _ =>
  .telling (.pure (corresponds_indexed context.playerIndex (by simp) (by simp)))

theorem corresponds_revealCards (count : Value) :
    (revealCards count).Corresponds c (revealCards count) := fun context _ =>
  .telling (.pure (corresponds_indexed context.opponentIndex (by simp) (by simp)))

theorem corresponds_revealHand (durationMs : Value) :
    (revealHand durationMs).Corresponds c (revealHand durationMs) := by
  intro context _
  refine Correspondence.Runs.settings.bind fun settings other same => ?_
  rw [same]
  exact .telling (.pure (corresponds_indexed context.opponentIndex (by simp)
    (by simp)))

theorem corresponds_drawAndRevealHand (drawCount : Value) :
    (drawAndRevealHand drawCount).Corresponds c (drawAndRevealHand drawCount) := by
  intro context _
  refine Correspondence.Runs.settings.bind fun settings other same => ?_
  rw [same]
  refine .telling (.pure (.record (.cons (.same (by simp))
    (.cons (.of (by simp) (.record ?_)) .nil))))
  exact .cons (.index (by simp) context.opponentIndex)
    (Outcome.Corresponds.of_impartialFields (by simp))

theorem corresponds_tutor (cardType : Value) : (tutor cardType).Corresponds c (tutor cardType) := by
  intro context _
  refine .reading fun board players seats => ?_
  rw [seats.actor]
  refine .requireSame fun player => .ite (fun _ => .missing) fun _ => ?_
  exact .pure (corresponds_indexed context.playerIndex (by simp) (by simp))

end Players

section Traps

theorem corresponds_removeTriggeredCreatureAbilities :
    removeTriggeredCreatureAbilities.Corresponds c removeTriggeredCreatureAbilities :=
  corresponds_onTrapped fun _ _ _ _ _ _ => .told (by simp)

theorem corresponds_returnToHand (creatures : List CardId) (owner : Option Int) :
    Outcome.Corresponds c (returnToHand creatures owner)
      (returnToHand creatures (owner.map c.seating.index)) :=
  .descriptor (.of (by simp) (.record
    (.cons (.same (by simp)) (.cons (.index (by simp) owner) .nil))))

/-- A trapped creature on some field returns to the player whose field it is; about
one on no field there is more to show. -/
theorem corresponds_returnTrapped {stray : Context → Int}
    (strays : ∀ context, c.acts context → ∀ board players, c.moments board players → ∀ creature,
      board.ownerIndex? context.inGame creature = none →
        Outcome.Corresponds c (returnToHand [creature] (some (stray context)))
          (returnToHand [creature] (some (stray (context.reseated c.seating))))) :
    (returnTrapped stray).Corresponds c (returnTrapped stray) := by
  refine corresponds_onTrapped fun context acting board players moment creature =>
    .telling (.pure ?_)
  have owner := (c.seats moment).ownerIndex? context.inGame creature
  rw [context.inGame_reseated]
  cases found : board.ownerIndex? context.inGame creature with
  | none =>
      rw [found, Option.map_none, Option.map_eq_none_iff] at owner
      rw [owner]
      exact strays context acting board players moment creature found
  | some place =>
      rw [found, Option.map_some, Option.map_eq_some_iff] at owner
      obtain ⟨other, foundOther, same⟩ := owner
      rw [foundOther]
      have moved : some (Int.ofNat other) = (some (Int.ofNat place)).map c.seating.index :=
        congrArg some same
      exact moved ▸ corresponds_returnToHand [creature] (some (Int.ofNat place))

theorem corresponds_returnTriggeredToHand :
    returnTriggeredToHand.Corresponds c returnTriggeredToHand := by
  refine corresponds_returnTrapped fun context acting _ _ _ creature _ => ?_
  have moved : some ((context.playerIndex.map c.seating.index).getD 0) =
      (some (context.playerIndex.getD 0)).map c.seating.index := by
    cases acts : context.playerIndex with
    | some index => rfl
    | none =>
        have first := (c.known acting).resolve_left (by simp [acts])
        exact congrArg some first.symm
  exact moved ▸ corresponds_returnToHand [creature] _

theorem corresponds_returnTargetedToHand (strays : c.Strays) :
    returnTargetedToHand.Corresponds c returnTargetedToHand := by
  refine corresponds_returnTrapped fun context acting board players moment creature unowned => ?_
  rcases strays context acting board players moment creature unowned with first | isAstray
  · have returned := corresponds_returnToHand (c := c) [creature] (some 0)
    rwa [Option.map_some, first] at returned
  · exact .descriptor (.astray isAstray)

theorem corresponds_negateAndKillAttacker :
    negateAndKillAttacker.Corresponds c negateAndKillAttacker := by
  intro context _
  refine .reading fun board players seats => ?_
  rw [seats.freshTrapCreature]
  cases board.freshTrapCreature context with
  | none => exact .told (by simp)
  | some creature => exact .told (by simp)

theorem corresponds_killAttacker : killAttacker.Corresponds c killAttacker :=
  corresponds_onAttacker fun _ _ _ _ => .told (by simp)

theorem corresponds_dealDamageToAttacker (damage : Value) :
    (dealDamageToAttacker damage).Corresponds c (dealDamageToAttacker damage) :=
  corresponds_onAttacker fun _ _ _ _ => .told (by simp [Outcome.damageCreature])

theorem corresponds_applyNeurotoxicToAttacker :
    applyNeurotoxicToAttacker.Corresponds c applyNeurotoxicToAttacker :=
  corresponds_onAttacker fun _ _ _ _ => .told (by simp)

theorem corresponds_freezeAttacker : freezeAttacker.Corresponds c freezeAttacker :=
  corresponds_onAttacker fun _ _ _ _ =>
    .told (by simp [Outcome.addKeyword, Outcome.keywordPayload])

end Traps

section Fields

theorem corresponds_freezeAllCreatures : freezeAllCreatures.Corresponds c freezeAllCreatures :=
  corresponds_onPoolTold keeps_allCreatures fun _ _ =>
    .of_impartial (by simp [Outcome.keywordForAll])

theorem corresponds_freezeAllEnemies : freezeAllEnemies.Corresponds c freezeAllEnemies :=
  corresponds_onPoolTold keeps_enemyCreatures fun _ _ =>
    .of_impartial (by simp [Outcome.keywordForAll])

theorem corresponds_removeFrozenFromFriendlies :
    removeFrozenFromFriendlies.Corresponds c removeFrozenFromFriendlies :=
  corresponds_onPoolTold keeps_friendlyCreatures fun _ _ =>
    .of_impartial (by simp [Outcome.keywordForAll])

theorem corresponds_killAll (targetType : Value) :
    (killAll targetType).Corresponds c (killAll targetType) := by
  intro context _
  unfold killAll
  refine .ite (fun _ => .throw _) fun _ => .reading fun board players seats => ?_
  cases targetType.text?.bind massacreRule? with
  | none => exact .missing
  | some rule =>
      dsimp only
      rw [seats.massacred]
      exact .ite (fun _ => .missing) fun _ => .told (by simp)

/-- The player who gets a barrier is the same one at another place. -/
theorem corresponds_grantBarrier : grantBarrier.Corresponds c grantBarrier := by
  refine corresponds_onPoolTold keeps_friendlyCreatures fun context _ => ?_
  refine .descriptor (.of (by simp) (.record (.cons (.of (by simp) ?_) .nil)))
  unfold Context.reseated
  cases context.player with
  | none => exact .value .null
  | some place => exact .player place

theorem corresponds_removeAbilitiesAll : removeAbilitiesAll.Corresponds c removeAbilitiesAll :=
  corresponds_onPoolTold keeps_enemyCreatures fun _ _ => .of_impartial (by simp)

theorem impartial_damagePayload (creatures : List CardId) (amount : Value) :
    (damagePayload creatures amount).impartial = true := by
  simp [damagePayload]

theorem corresponds_damageOtherCreatures (amount : Value) :
    (damageOtherCreatures amount).Corresponds c (damageOtherCreatures amount) :=
  corresponds_onPoolTold keeps_otherCreatures fun _ _ =>
    .of_impartial (by simp [impartial_damagePayload])

theorem corresponds_damageAllEnemiesMultiple (amount applications : Value) :
    (damageAllEnemiesMultiple amount applications).Corresponds c
      (damageAllEnemiesMultiple amount applications) :=
  fun _ _ => .orFailSame fun _ => .told (by simp)

theorem corresponds_damageEnemiesAfterCombat (damage : Value) :
    (damageEnemiesAfterCombat damage).Corresponds c (damageEnemiesAfterCombat damage) :=
  corresponds_onPoolTold keeps_enemyCreatures fun _ _ =>
    .of_impartial (by simp [impartial_damagePayload])

theorem corresponds_damageAllAndFreezeAll (damage : Value) :
    (damageAllAndFreezeAll damage).Corresponds c (damageAllAndFreezeAll damage) := by
  intro context _
  refine .reading fun board players seats => ?_
  rw [seats.otherCreatures]
  refine .told ?_
  split
  · simp
  · simp [impartial_damagePayload, Outcome.keywordForAll]

theorem corresponds_returnAllEnemies : returnAllEnemies.Corresponds c returnAllEnemies :=
  corresponds_onPoolTold keeps_enemyCreatures fun context creatures =>
    corresponds_returnToHand creatures context.opponentIndex

theorem corresponds_killEnemyTokens : killEnemyTokens.Corresponds c killEnemyTokens :=
  corresponds_onPoolTold keeps_enemyTokens fun _ _ => .of_impartial (by simp)

theorem corresponds_killEnemyTokensEffect :
    killEnemyTokensEffect.Corresponds c killEnemyTokensEffect := by
  intro context _
  refine .reading fun board players seats => ?_
  rw [seats.enemyTokens]
  exact .telling (.ite (fun _ => .nothing) fun _ => .impartially (by simp))

theorem corresponds_killAllEnemyCreatures :
    killAllEnemyCreatures.Corresponds c killAllEnemyCreatures :=
  corresponds_onPoolTold keeps_enemyCreatures fun context _ =>
    .descriptor (.index (by simp) context.opponentIndex)

theorem corresponds_regenOtherCreatures : regenOtherCreatures.Corresponds c regenOtherCreatures :=
  corresponds_onPoolTold (fun _ _ seats context => seats.otherFriendlies context context.creature)
    fun _ _ => .of_impartial (by simp)

end Fields

section Tribes

theorem answers_web (creature : CardId) : c.Answers (web creature) (web creature) :=
  .reading fun _ _ _ => .ite (fun _ => .nothing) fun _ =>
    .told (by simp [Outcome.addKeyword, Outcome.keywordPayload])

theorem corresponds_webAllEnemies : webAllEnemies.Corresponds c webAllEnemies :=
  corresponds_onPool keeps_enemyCreatures fun _ _ _ => .reading fun _ _ _ =>
    .ite (fun _ => .nothing) fun _ =>
    (Correspondence.Runs.forM (List.forall₂_same.2 fun _ _ => .announced _)).bind fun _ _ _ =>
      .impartially (by simp [Outcome.keywordForAll])

theorem corresponds_webAttacker : webAttacker.Corresponds c webAttacker := by
  intro context _
  refine .reading fun board players seats => ?_
  rw [seats.freshAttacker]
  cases board.freshAttacker context with
  | none => exact .nothing
  | some attacker => exact answers_web attacker

theorem answers_webAt (enemies : List CardId) (place : Int) :
    c.Answers
      (match enemies[place.toNat]? with
        | some creature => web creature
        | none => throw .badValue)
      (match enemies[place.toNat]? with
        | some creature => web creature
        | none => throw .badValue) := by
  cases enemies[place.toNat]? with
  | none => exact .throw _
  | some creature => exact answers_web creature

theorem corresponds_webRandomEnemy : webRandomEnemy.Corresponds c webRandomEnemy := by
  refine corresponds_onPool keeps_enemyCreatures fun context _ enemies => ?_
  rw [context.inGame_reseated]
  refine .ite (fun _ => ?_) fun _ => answers_webAt enemies 0
  refine (Correspondence.Runs.draw _).bind fun place other same => ?_
  rw [same]
  exact answers_webAt enemies place

theorem corresponds_damageWebbed (damage : Value) :
    (damageWebbed damage).Corresponds c (damageWebbed damage) :=
  corresponds_onPoolTold keeps_webbedEnemies fun _ _ =>
    .of_impartial (by simp [impartial_damagePayload])

theorem runs_cappedDraw (context : Context) (count : Nat) :
    c.Runs (fun drawn other => other = drawn) (cappedDraw context count)
      (cappedDraw (context.reseated c.seating) count) :=
  Correspondence.Runs.settings.bind fun _ _ same => .pure (by rw [same])

/-- A capped number of cards is drawn for a pool. -/
theorem answers_drawCapped (context : Context) (count : Nat) (message : Int → String) :
    c.Answers
      (do
        let drawn ← cappedDraw context count
        announce (message drawn)
        return .descriptor "draw" (.int drawn))
      (do
        let drawn ← cappedDraw (context.reseated c.seating) count
        announce (message drawn)
        return .descriptor "draw" (.int drawn)) := by
  refine (runs_cappedDraw context count).bind fun drawn other same => ?_
  rw [same]
  exact .told (by simp)

theorem corresponds_drawPerWebbed : drawPerWebbed.Corresponds c drawPerWebbed :=
  corresponds_onPool keeps_webbedEnemies fun context _ _ => answers_drawCapped context _ _

theorem corresponds_healPerWebbed (amount : Value) :
    (healPerWebbed amount).Corresponds c (healPerWebbed amount) :=
  corresponds_onPool keeps_webbedEnemies fun _ _ _ => .orFailSame fun _ => .told (by simp)

theorem corresponds_drawIfEnemyWebbed : drawIfEnemyWebbed.Corresponds c drawIfEnemyWebbed :=
  corresponds_onPoolTold keeps_webbedEnemies fun _ _ => .of_impartial (by simp)

theorem corresponds_buffAtkPerWebbed (bonus : Value) :
    (buffAtkPerWebbed bonus).Corresponds c (buffAtkPerWebbed bonus) := by
  refine corresponds_onPool keeps_webbedEnemies fun context _ webbed => ?_
  rw [context.creature_reseated]
  cases context.creature with
  | none => exact .nothing
  | some creature => exact .orFailSame fun _ => .told (by simp [Outcome.buffCreature])

theorem corresponds_summonTokensPerWebbed (tokenId : Value) :
    (summonTokensPerWebbed tokenId).Corresponds c (summonTokensPerWebbed tokenId) :=
  corresponds_onPool keeps_webbedEnemies fun context _ _ =>
    .telling (.pure (corresponds_summonPayload context _))

theorem answers_enterStalking (creature : CardId) :
    c.Answers (enterStalking creature) (enterStalking creature) :=
  .reading fun _ _ _ => .told (by simp)

theorem corresponds_enterStalkModeOnPlay :
    enterStalkModeOnPlay.Corresponds c enterStalkModeOnPlay := by
  intro context _
  refine .reading fun board players _ => ?_
  rw [context.creature_reseated]
  cases context.creature with
  | none => exact .nothing
  | some creature => exact .ite (fun _ => answers_enterStalking creature) fun _ => .nothing

theorem corresponds_scaledDraw (rule : Card → Bool) (noun : String) :
    (scaledDraw rule noun).Corresponds c (scaledDraw rule noun) :=
  corresponds_onPool (keeps_friendlyWith rule) fun context _ _ => answers_drawCapped context _ _

theorem corresponds_buffAll (rule : Card → Bool) (noun : String) (bonus : Value) :
    (buffAll rule noun bonus).Corresponds c (buffAll rule noun bonus) :=
  corresponds_onPoolTold (keeps_friendlyWith rule) fun _ _ =>
    .of_impartial (by simp [Outcome.buffCreatures])

theorem corresponds_healPer (rule : Card → Bool) (noun : String) (amount : Value) :
    (healPer rule noun amount).Corresponds c (healPer rule noun amount) :=
  corresponds_onPool (keeps_friendlyWith rule) fun _ _ _ => .orFailSame fun _ =>
    .told (by simp)

theorem corresponds_tokensPer (rule : Card → Bool) (noun : String) (tokenId : Value) :
    (tokensPer rule noun tokenId).Corresponds c (tokensPer rule noun tokenId) :=
  corresponds_onPool (keeps_friendlyWith rule) fun context _ _ =>
    .telling (.pure (corresponds_summonPayload context _))

theorem corresponds_regenerateAllShells : regenerateAllShells.Corresponds c regenerateAllShells :=
  corresponds_onPool (keeps_friendlyWith _) fun _ _ _ => .reading fun _ _ _ =>
    .telling (.ite (fun _ => .nothing) fun _ => .impartially (by simp))

theorem corresponds_buffHpPerShell : buffHpPerShell.Corresponds c buffHpPerShell := by
  refine corresponds_onPool (keeps_friendlyWith _) fun context _ shelled => .telling ?_
  refine .reading fun board players seats => ?_
  rw [seats.friendlyCreatures]
  exact .impartially (by simp [Outcome.buffCreatures])

end Tribes

end Effect

end CreatureCards
