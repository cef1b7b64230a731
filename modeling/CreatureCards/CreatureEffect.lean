import CreatureCards.CombatRole
import CreatureCards.EffectShape
import CreatureCards.Question

/-!
# Effects on single creatures

Damage, removal and changes of one creature, found by its role in the context or
picked by the acting player, and the variants of them that reach a whole side.
-/

namespace CreatureCards

open Engine

def bonusText (attack health : Value) : String :=
  s!"+{attack}/+{health}"

def capitalised (keyword : String) : String :=
  upperCase (String.ofList (keyword.toList.take 1)) ++ String.ofList (keyword.toList.drop 1)

namespace Outcome

def buffCreature (creature : CardId) (attack health : Value) : Outcome :=
  descriptor "buff_creature" (record
    [("creature", card creature), ("attack", value attack), ("health", value health)])

def buffCreatures (creatures : List CardId) (attack health : Value) : Outcome :=
  descriptor "buff_creatures" (record
    [("creatures", cards creatures), ("attack", value attack), ("health", value health)])

def damageCreature (creature : CardId) (amount sourceLabel : Value) : Outcome :=
  descriptor "damage_creature" (record
    [("creature", card creature), ("amount", value amount), ("source_label", value sourceLabel)])

def keywordPayload (creature : CardId) (keyword : Value) : Outcome :=
  record [("creature", card creature), ("keyword", value keyword)]

def addKeyword (creature : CardId) (keyword : Value) : Outcome :=
  descriptor "add_keyword" (keywordPayload creature keyword)

def keywordForAll (creatures : List CardId) (keyword : Value) : Outcome :=
  record [("creatures", cards creatures), ("keyword", value keyword)]

/-- The payload of creatures that leave a player's field. -/
def ownedCreatures (creatures : List CardId) (ownerIndex : Option Int) : Outcome :=
  record [("creatures", cards creatures), ("owner_index", index ownerIndex)]

end Outcome

namespace Effect

/-- An effect on the creature in a role, or a message if there is none. -/
def onRole (role : Value) (missing : String) (act : Board → CardId → Engine Outcome) : Effect :=
  fun context => do
    let board ← board
    match board.creatureInRole context role with
    | some creature => act board creature
    | none =>
      announce missing
      return .nothing

def damageCreature (targetType amount sourceLabel : Value) : Effect :=
  onRole targetType s!"No valid target for {sourceLabel}." fun board creature => do
    let name := board.title creature
    announce s!"Deals {amount} {sourceLabel} damage to {name}."
    return .damageCreature creature amount sourceLabel

def killCreature (targetType : Value) : Effect :=
  onRole targetType "No creature to destroy." fun board creature => do
    let name := board.title creature
    announce s!"{name} is destroyed."
    return .descriptor "kill_creature" (.card creature)

def transformCard (targetType newCardId : Value) : Effect :=
  onRole targetType "No creature to transform." fun board creature => do
    let name := board.title creature
    announce s!"{name} transforms."
    return .descriptor "transform_card" (.record
      [("card", .card creature), ("new_card_data", .value newCardId)])

def removeAbilities (targetType : Value) : Effect :=
  onRole targetType "No creature to strip abilities from." fun board creature => do
    let name := board.title creature
    announce s!"{name} loses all abilities."
    return .descriptor "remove_abilities" (.card creature)

/-- The card that abilities are copied from. -/
def copyOrigin (context : Context) (source : Value) : Option CardId :=
  if source.isText "consumed" then context.consumedCard
  else if source.isText "target" then context.target.bind Target.subject
  else none

def copyPayload (target : Option CardId) (source : CardId) : Outcome :=
  .record [("target", .card? target), ("source", .card source)]

def copyAbilities (source : Value) : Effect := fun context => do
  let board ← board
  match copyOrigin context source, context.creature with
  | some origin, some creature =>
    let name := board.title creature
    let originName := board.title origin
    announce s!"{name} copies abilities from {originName}."
    return .descriptor "copy_abilities" (copyPayload (some creature) origin)
  | _, _ =>
    announce "No valid card to copy abilities from."
    return .nothing

/-- An effect on the acting creature, or a message if there is none. -/
def onSource (missing : String) (act : Board → CardId → Engine Outcome) : Effect :=
  fun context => do
    let board ← board
    match context.creature with
    | some creature => act board creature
    | none =>
      announce missing
      return .nothing

def reviveCreature : Effect := fun context =>
  onSource "No creature to revive." (fun board creature => do
    let name := board.title creature
    announce s!"{name} revives."
    return .descriptor "revive_creature" (.record
      [("creature", .card creature), ("player_index", .index context.playerIndex)])) context

def regenSelf : Effect :=
  onSource "No creature to regenerate." fun board creature => do
    let name := board.title creature
    announce s!"{name} regenerates."
    return .descriptor "regen_creature" (.card creature)

/-- The acting creature will regenerate and heal once it was attacked. -/
def trackAttackForRegenHeal (healAmount : Value) : Effect := fun context => do
  match context.creature with
  | none => return .nothing
  | some creature =>
    announce s!"If attacked in combat, will regen and heal {healAmount} during Main 2."
    return .descriptor "track_attack_for_regen_heal" (.record
      [("creature", .card creature), ("heal_amount", .value healAmount)])

/-- Every friendly creature is reached, or a message says that there is none. -/
def onFriendlies (missing reached : String) (build : List CardId → Outcome) : Effect :=
  fun context => do
    let creatures := (← board).friendlyCreatures context
    if creatures.isEmpty then
      announce missing
      return .nothing
    announce reached
    return build creatures

def grantKeyword (targetType keyword : Value) : Effect :=
  if targetType.isText "all-friendly" then
    onFriendlies s!"No creatures to grant {keyword}." s!"All friendly creatures gain {keyword}."
      fun creatures => .descriptor "grant_keyword_to_all" (.keywordForAll creatures keyword)
  else
    onRole targetType s!"No creature to grant {keyword}." fun board creature => do
      let name := board.title creature
      announce s!"{name} gains {keyword}."
      return .descriptor "grant_keyword" (.keywordPayload creature keyword)

def gainKeyword (keyword : String) (creature : CardId) : Engine Outcome := do
  let name := (← board).title creature
  announce s!"{name} gains {keyword}."
  return .addKeyword creature (.text keyword)

def addKeyword (shape : AddKeywordShape) : Effect := fun context => do
  let keyword := capitalised shape.keyword
  let missing := s!"No creatures to grant {keyword}."
  if shape.target = some "friendlyCreatures" then
    onFriendlies missing s!"All friendly creatures gain {keyword}."
      (fun creatures =>
        .descriptor "grant_keyword_to_all" (.keywordForAll creatures (.text keyword))) context
  else if shape.target = some "targetCreature" then
    let board ← board
    let targets := board.mixedTargets context anyCard
    if targets.isEmpty then
      announce missing
      return .nothing
    pickOne .asCards s!"Choose creature to gain {keyword}"
      (board.cardCandidates (some context) true targets) (onCard (gainKeyword keyword))
  else if shape.target = some "self" then
    match context.creature with
    | some creature => gainKeyword keyword creature
    | none => return .nothing
  else return .nothing

def gainStats (attack health : Value) (creature : CardId) : Engine Outcome := do
  let name := (← board).title creature
  let bonus := bonusText attack health
  announce s!"{name} gains {bonus}."
  return .buffCreature creature attack health

def buffFriendlies (attack health : Value) : Effect :=
  let bonus := bonusText attack health
  onFriendlies "No creatures to buff." s!"All friendly creatures gain {bonus}."
    fun creatures => .buffCreatures creatures attack health

def buffStats (targetType attack health : Value) : Effect :=
  if targetType.isText "all-friendly" then buffFriendlies attack health
  else onRole targetType "No creature to buff." fun _ => gainStats attack health

/-- Title and candidates of a buff for which a creature is picked. -/
def buffTargets (board : Board) (context : Context) (target : Option String) :
    String × List CardId :=
  match target with
  | some "targetPredator" =>
    ("Choose a Predator to buff",
      (board.friendlyCreatures context).filter fun id => (board.card id).isPredator)
  | some "targetCreature" => ("Choose a creature to buff", board.friendlyCreatures context)
  | some "targetEnemy" =>
    ("Choose a Rival's creature to buff", board.targetableEnemies context anyCard)
  | _ => ("Choose a creature to buff", [])

/-- The acting creature, a picked one or every friendly one gains attack and
health. -/
def buff (shape : BuffShape) : Effect := fun context => do
  let attack := Value.int shape.stats.attack
  let health := Value.int shape.stats.health
  if shape.target = some "friendlyCreatures" then buffFriendlies attack health context
  else if shape.target = some "self" then
    match context.creature with
    | some creature => gainStats attack health creature
    | none => return .nothing
  else
    let board ← board
    let (title, targets) := buffTargets board context shape.target
    if targets.isEmpty then
      announce "No valid targets for buff."
      return .nothing
    pickOne {} title (board.cardCandidates (some context) false targets)
      (onCard (gainStats attack health))

def destroyPicked (context : Context) (target : CardId) : Engine Outcome := do
  let name := (← board).title target
  announce s!"{name} is destroyed."
  return .descriptor "destroy_creatures" (.ownedCreatures [target] context.opponentIndex)

/-- Creatures are removed without losing health: a picked one of the rival, all
of the rival's, or all. -/
def destroy (shape : DestroyShape) : Effect := fun context => do
  let board ← board
  let enemies := board.enemyCreatures context
  let friendlies := board.friendlyCreatures context
  if shape.target = "enemyCreatures" then
    if enemies.isEmpty then
      announce "No Rival's creatures to destroy."
      return .nothing
    announce "All Rival's creatures are destroyed."
    return .descriptor "destroy_creatures" (.ownedCreatures enemies context.opponentIndex)
  else if shape.target = "allCreatures" then
    if friendlies.isEmpty && enemies.isEmpty then
      announce "No creatures to destroy."
      return .nothing
    announce "All creatures are destroyed."
    return .record
      [("destroy_creatures", .ownedCreatures friendlies context.playerIndex),
       ("destroy_creatures_opponent", .ownedCreatures enemies context.opponentIndex)]
  else if shape.target = "targetEnemy" then
    let targets := board.targetableEnemies context anyCard
    if targets.isEmpty then
      announce "No Rival's creatures to target."
      return .nothing
    pickOne {} "Choose a Rival's creature to destroy"
      (board.cardCandidates (some context) false targets) (onCard (destroyPicked context))
  else return .nothing

end Effect

end CreatureCards
