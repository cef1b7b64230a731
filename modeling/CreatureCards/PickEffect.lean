import CreatureCards.OutcomeMerge
import CreatureCards.TrapEffect
import CreatureCards.TribeEffect

/-!
# Effects on picked creatures

A player picks a creature of the rival, or any creature, or a friendly one, and
something happens to it.  A picked creature may react, and what it answers with
replaces the result.
-/

namespace CreatureCards

open Engine

namespace Effect

/-- A picked creature is what a nested definition is aimed at. -/
def selectTarget (pool : Value) (effect : Effect) : Effect := fun context => do
  let board ← board
  let targets :=
    if pool.isText "friendly" then board.friendlyCreatures context
    else if pool.isText "enemy" then board.targetableEnemies context anyCard
    else if pool.isText "any" then board.mixedTargets context anyCard
    else []
  if targets.isEmpty then
    announce "No valid targets."
    return .nothing
  pickOne {} "Choose a target" (board.cardCandidates (some context) false targets)
    (onCard fun target => do
      let derived ← context.derived
      return (← effect { derived with target := some (.card target) }).orNothing)

/-- The keeper of the game is asked to consume cards from hand; what follows for
each of them is handed over. -/
def selectConsume (cardType count : Value) (follow : Outcome) : Effect := fun context => do
  let board ← board
  let player ← require (context.actor board)
  let valid := player.hand.filter (cardTypeRule board cardType)
  if valid.isEmpty then
    announce "No valid cards to consume."
    return .nothing
  return .descriptor "request_consume" (.record
    [("card_type", .value cardType), ("count", .value count), ("valid_cards", .places valid),
     ("on_consume", follow)])

def steal (context : Context) (target : CardId) : Engine Outcome := do
  let name := (← board).title target
  announce s!"Steals {name}."
  return .descriptor "steal_creature" (.record
    [("creature", .card target), ("from_index", .index context.opponentIndex),
     ("to_index", .index context.playerIndex)])

def stealCreature (targetType : Value) : Effect := fun context => do
  let board ← board
  let targets := board.targetableEnemies context anyCard
  if targets.isEmpty then
    announce "No creatures to steal."
    return .nothing
  if targetType.isText "random" && context.inGame then
    let place ← Engine.draw targets.length
    match targets[place.toNat]? with
    | some target => steal context target
    | none => throw .missingEntry
  else
    pickOne {} "Choose a creature to steal" (board.cardCandidates (some context) false targets)
      (onCard (steal context))

/-- What is asked when a creature is picked. -/
structure CreaturePick where
  title : String
  /-- The message when there is nothing to pick. -/
  missing : String
  /-- The rule that candidates meet. -/
  rule : Card → Bool := fun _ => true
  /-- The pick is announced. -/
  announced : Bool := false
  shown : Bool := false

/-- A pick from a pool; what is built for the picked creature stands unless the
creature reacts. -/
def pickFrom (react : Reactor) (pool : Board → Context → (CardId → Bool) → List CardId)
    (asked : CreaturePick) (build : CardId → Effect) : Effect := fun context => do
  let board ← board
  let targets := pool board context fun id => asked.rule (board.card id)
  if targets.isEmpty then
    announce asked.missing
    return .nothing
  pickOne { renderCards := asked.shown } asked.title
    (board.cardCandidates (some context) asked.shown targets)
    (onCard fun target => do
      if asked.announced then
        let name := (← Engine.board).title target
        announce s!"Targets {name}."
      let result ← build target context
      reactionOr react target result context)

def pickEnemy (react : Reactor) (asked : CreaturePick) (build : CardId → Effect) : Effect :=
  pickFrom react Board.targetableEnemies asked build

/-- An announced pick among the creatures of both sides. -/
def pickAny (react : Reactor) (asked : CreaturePick) (build : CardId → Effect) : Effect :=
  pickFrom react Board.mixedTargets { asked with announced := true } build

def selectEnemyToKill (react : Reactor) : Effect :=
  pickEnemy react
    { title := "Choose a Rival's creature to kill", missing := "No Rival's creatures to kill."
      announced := true }
    fun target _ => return .descriptor "kill_targets" (.cards [target])

def selectEnemyToFreeze (react : Reactor) : Effect :=
  pickEnemy react
    { title := "Choose a Rival's creature to freeze"
      missing := "No Rival's creatures to freeze." }
    fun target _ => return .addKeyword target (keywordValue .frozen)

def selectEnemyToReturn (react : Reactor) (title : String) : Effect :=
  pickEnemy react { title, missing := "No Rival's creatures to return." }
    fun target context => return returnToHand [target] context.opponentIndex

def selectEnemyForKeyword (react : Reactor) (keyword : Value) : Effect :=
  pickEnemy react
    { title := s!"Choose a Rival's creature to gain {keyword}"
      missing := "No Rival's creatures to target." }
    fun target _ => do
      let name := (← board).title target
      announce s!"{name} gains {keyword}."
      return .addKeyword target keyword

def selectEnemyCreatureForDamage (react : Reactor) (amount label : Value) : Effect :=
  pickEnemy react
    { title := s!"Choose a Rival's creature for {amount} {label}"
      missing := "No Rival's creatures to target.", announced := true }
    fun target _ => return .damageCreature target amount label

def consumeEnemyPrey (predator : Option CardId) (prey : CardId) (opponentIndex : Option Int) :
    String × Outcome :=
  ("consume_enemy_prey", .record
    [("predator", .card? predator), ("prey", .card prey),
     ("opponent_index", .index opponentIndex)])

def selectEnemyPreyToConsume (react : Reactor) : Effect :=
  pickEnemy react
    { title := "Choose a Rival's prey to consume", missing := "No Rival's prey to consume."
      rule := Card.isPrey, announced := true, shown := true }
    fun target context =>
      return .record [consumeEnemyPrey context.creature target context.opponentIndex]

/-- The acting creature eats the prey, unless the prey returns to hand. -/
def eatPicked (react : Reactor) (context : Context) (target : CardId) : Engine Outcome := do
  let response ← reactionOf react target context.creature context
  if response.isTruthy then
    if ← orFail (response.mentions "return_to_hand") then return response
  let board ← board
  let creature ← require context.creature
  let name := board.title creature
  let preyName := board.title target
  announce s!"{name} eats {preyName}."
  return .descriptor "eat_creature" (.record
    [("creature", .card creature), ("target", .card target),
     ("player_index", .index context.playerIndex)])

/-- Instead of attacking, the acting creature eats picked prey of the rival. -/
def eatPreyInsteadOfAttacking (react : Reactor) : Effect := fun context => do
  let board ← board
  let prey := board.targetableEnemies context fun id => (board.card id).isPrey
  if prey.isEmpty then
    announce "No prey to eat."
    return .nothing
  pickOne {} "Choose a Rival's prey to eat" (board.cardCandidates (some context) false prey)
    (onCard (eatPicked react context))

def damageRivalAndSelectEnemy (react : Reactor) (rivalDamage creatureDamage : Value) : Effect :=
  fun context => do
    let board ← board
    let enemies := board.targetableEnemies context anyCard
    let rival := Outcome.descriptor "damage_opponent" (.value rivalDamage)
    if enemies.isEmpty then
      announce s!"Deals {rivalDamage} damage to rival, but no Rival's creatures to target."
      return rival
    let creature ← pickOne {} s!"Choose a Rival's creature for {creatureDamage} damage"
      (board.cardCandidates (some context) false enemies)
      (onCard fun target =>
        reactionOr react target (.damageCreature target creatureDamage (.text "damage")) context)
    orFail (Outcome.merge [rival, creature])

/-- Any picked creature is damaged by a number that may be named. -/
def selectCreatureForDamage (react : Reactor) (amount label : Value) : Effect :=
  fun context => do
    let resolved ← resolveCount amount context
    if resolved ≤ 0 then
      announce s!"No damage to deal (0 {label})."
      return .nothing
    pickAny react
      { title := s!"Choose a target for {resolved} {label}"
        missing := s!"No valid targets for {label}." }
      (fun target _ => return .damageCreature target (.int resolved) label) context

def selectCreatureToRestore (react : Reactor) : Effect :=
  pickAny react
    { title := "Choose a creature to regenerate", missing := "No creatures to restore."
      shown := true }
    fun target _ => return .descriptor "restore_creature" (.card target)

def selectCreatureToCopy (react : Reactor) : Effect :=
  pickAny react
    { title := "Choose a creature to copy", missing := "No creatures to copy.", shown := true }
    fun target context => return .descriptor "copy_creature" (.record
      [("target", .card target), ("player_index", .index context.playerIndex)])

def selectCreatureToTransform (react : Reactor) (newCardId : Value) : Effect :=
  pickAny react
    { title := "Choose a creature to transform", missing := "No creatures to transform." }
    fun target _ => return .descriptor "transform_card" (.record
      [("card", .card target), ("new_card_data", .value newCardId)])

/-- Any picked creature, or any picked prey, gains attack and health. -/
def selectForBuff (react : Reactor) (preyOnly : Bool) (stats : Stats) : Effect :=
  let attack := Value.int stats.attack
  let health := Value.int stats.health
  let bonus := bonusText attack health
  let asked : CreaturePick :=
    if preyOnly then
      { title := s!"Choose a prey to gain {bonus}", missing := "No prey creatures to target."
        rule := Card.isPrey }
    else { title := s!"Choose a creature to gain {bonus}", missing := "No creatures to target." }
  pickAny react asked fun target _ => return .buffCreature target attack health

/-- How the rival is labelled among candidates. -/
def rivalLabel (board : Board) (context : Context) : String :=
  let name := ((context.rival board).map Player.name).getD ""
  let shown := if name == "" then "Rival" else name
  s!"Rival ({shown})"

/-- Candidates for every creature that may be selected and for the rival; only
creatures with Lure where the rival has some. -/
def creatureOrRivalCandidates (board : Board) (context : Context) : List Candidate :=
  let enemies := board.targetableEnemies context anyCard
  let theirs := enemies.map (board.creatureCandidate context.opponentIndex)
  if board.hasLureAmong enemies then theirs
  else
    (board.targetableFriendlies context anyCard).map
        (board.creatureCandidate context.playerIndex) ++
      theirs ++ [playerCandidate (rivalLabel board context) context.opponentIndex]

def damagePicked (react : Reactor) (amount label : Value) (context : Context)
    (ref : TargetRef) : Engine Outcome := do
  if ref.kind = .player then
    announce s!"Deals {amount} {label} to rival."
    return .descriptor "damage_opponent" (.value amount)
  else
    let creature ← require ref.creature
    let name := (← board).title creature
    announce s!"Targets {name}."
    reactionOr react creature (.damageCreature creature amount label) context

def selectTargetForDamage (react : Reactor) (amount label : Value) : Effect := fun context => do
  pickOne {} s!"Choose a target for {amount} {label}"
    (creatureOrRivalCandidates (← board) context)
    (onRef (damagePicked react amount label context))

def healAndSelectTargetForDamage (react : Reactor) (healAmount damageAmount : Value) : Effect :=
  fun context => do
    announce s!"Heals {healAmount} HP."
    let damage ← pickOne {} s!"Choose a target for {damageAmount} damage"
      (creatureOrRivalCandidates (← board) context)
      (onRef (damagePicked react damageAmount (.text "damage") context))
    orFail (Outcome.merge [.descriptor "heal" (.value healAmount), damage])

/-- A friendly predator gains an effect at the end of the turn. -/
def empower (tokenId : Value) (target : CardId) : Engine Outcome := do
  let name := (← board).title target
  announce s!"{name} gains: End of turn, play token."
  return .descriptor "empower_with_end_effect" (.record
    [("creature", .card target), ("token_id", .value tokenId)])

def friendlyPredators (board : Board) (context : Context) : List CardId :=
  board.friendlyWith Card.isPredator context

def selectPredatorForEndEffect (tokenId : Value) : Effect :=
  onPool friendlyPredators "No predators on field to empower." fun _ predators => do
    pickOne .asCards "Choose a predator to empower"
      ((← board).cardCandidates none true predators) (onCard (empower tokenId))

def drawAndEmpowerPredator (drawCount tokenId : Value) : Effect := fun context => do
  let drawn := Outcome.descriptor "draw" (.value drawCount)
  if (friendlyPredators (← board) context).isEmpty then
    announce s!"Drawing {drawCount}. No predators to empower."
    return drawn
  announce s!"Drawing {drawCount}."
  let empowered ← selectPredatorForEndEffect tokenId context
  orFail (Outcome.merge [drawn, empowered])

def selectFriendlyCreatureToSacrifice : Effect :=
  onPool Board.friendlyCreatures "No creatures to sacrifice." fun _ creatures => do
    pickOne .asCards "Choose a creature to sacrifice"
      ((← board).cardCandidates none true creatures)
      (onCard fun target => return .descriptor "kill_creature" (.card target))

end Effect

end CreatureCards
