import CreatureCards.CreatureEffect
import CreatureCards.ValueArithmetic

/-!
# Effects on the field

Effects that reach every creature meeting a rule instead of asking for a pick.
Where nothing meets the rule they only say so, except that damage to a whole
side is passed on without a look at who is there.
-/

namespace CreatureCards

open Engine

namespace Effect

/-- An effect on a pool of creatures, or a message if the pool is empty. -/
def onPool (pool : Board → Context → List CardId) (missing : String)
    (act : Context → List CardId → Engine Outcome) : Effect := fun context => do
  let creatures := pool (← board) context
  if creatures.isEmpty then
    announce missing
    return .nothing
  act context creatures

/-- An effect that announces itself and answers with one descriptor of a pool. -/
def onPoolTold (pool : Board → Context → List CardId) (missing reached : String)
    (build : Context → List CardId → Outcome) : Effect :=
  onPool pool missing fun context creatures => do
    announce reached
    return build context creatures

/-- All creatures, the friendly ones first. -/
def allCreatures (board : Board) (context : Context) : List CardId :=
  board.friendlyCreatures context ++ board.enemyCreatures context

def otherCreatures (board : Board) (context : Context) : List CardId :=
  board.otherFriendlies context context.creature ++ board.enemyCreatures context

def keywordValue (keyword : Keyword) : Value := .text keyword.name

def freezeAllCreatures : Effect :=
  onPoolTold allCreatures "No creatures to freeze." "All creatures gain Frozen." fun _ creatures =>
    .descriptor "grant_keyword_to_all" (.keywordForAll creatures (keywordValue .frozen))

def freezeAllEnemies : Effect :=
  onPoolTold Board.enemyCreatures "No Rival's creatures to freeze."
    "All Rival's creatures gain Frozen." fun _ creatures =>
      .descriptor "grant_keyword_to_all" (.keywordForAll creatures (keywordValue .frozen))

def removeFrozenFromFriendlies : Effect :=
  onPoolTold Board.friendlyCreatures "No creatures to thaw."
    "All friendly creatures lose Frozen." fun _ creatures =>
      .descriptor "remove_keyword_from_all" (.keywordForAll creatures (keywordValue .frozen))

/-- Whom a named massacre kills. -/
structure MassacreRule where
  matches? : Card → Bool
  includesFriendly : Bool
  message : String

def massacreRule? : String → Option MassacreRule
  | "all-prey" => some ⟨Card.isPrey, true, "All prey creatures are destroyed."⟩
  | "all-predators" => some ⟨Card.isPredator, true, "All predator creatures are destroyed."⟩
  | "all-enemy" => some ⟨fun _ => true, false, "All Rival's creatures are destroyed."⟩
  | "all" => some ⟨fun _ => true, true, "All creatures are destroyed."⟩
  | _ => none

/-- The creatures that a massacre kills; invisible ones of the rival are spared. -/
def massacred (board : Board) (context : Context) (rule : MassacreRule) : List CardId :=
  let friendly := if rule.includesFriendly then
      (board.friendlyCreatures context).filter fun id => rule.matches? (board.card id)
    else []
  friendly ++ (board.enemyCreatures context).filter fun id =>
    rule.matches? (board.card id) && !(board.card id).isInvisible

def killAll (targetType : Value) : Effect := fun context => do
  if targetType.isContainer then throw .wrongKind
  let board ← board
  match targetType.text?.bind massacreRule? with
  | none =>
    announce "No creatures to destroy."
    return .nothing
  | some rule =>
    let targets := massacred board context rule
    if targets.isEmpty then
      announce "No creatures to destroy."
      return .nothing
    announce rule.message
    return .descriptor "kill_all_creatures" (.cards targets)

def grantBarrier : Effect :=
  onPoolTold Board.friendlyCreatures "No creatures to grant Barrier."
    "All friendly creatures gain Barrier." fun context _ =>
      .descriptor "grant_barrier" (.record [("player", context.player.elim .null .player)])

def removeAbilitiesAll : Effect :=
  onPoolTold Board.enemyCreatures "No Rival's creatures to strip abilities."
    "All Rival's creatures lose their abilities." fun _ creatures =>
      .descriptor "remove_abilities_all" (.cards creatures)

/-- Damage that is passed on without a look at who is there. -/
def flatDamage (key : String) (amount : Value) (whom : String) : Effect := fun _ => do
  announce s!"Deals {amount} damage to {whom}."
  return .descriptor key (.value amount)

def damageAllCreatures (amount : Value) : Effect :=
  flatDamage "damage_all_creatures" amount "all creatures"

def damageAllEnemyCreatures (amount : Value) : Effect :=
  flatDamage "damage_enemy_creatures" amount "Rival's creatures"

def damageBothPlayers (amount : Value) : Effect :=
  flatDamage "damage_both_players" amount "both players"

def damagePayload (creatures : List CardId) (amount : Value) : Outcome :=
  .record [("creatures", .cards creatures), ("amount", .value amount),
    ("source_label", .text "damage")]

def damageOtherCreatures (amount : Value) : Effect :=
  onPoolTold otherCreatures "No other creatures to damage."
    s!"Deals {amount} damage to other creatures." fun _ creatures =>
      .descriptor "damage_creatures" (damagePayload creatures amount)

def damageAllEnemiesMultiple (amount applications : Value) : Effect := fun _ => do
  let total ← orFail (amount.times applications)
  announce s!"Deals {total} total damage to Rival's creatures."
  return .descriptor "damage_enemy_creatures" (.value total)

def damageEnemiesAfterCombat (damage : Value) : Effect :=
  onPoolTold Board.enemyCreatures "No Rival's creatures to damage."
    s!"Deals {damage} damage to all Rival's creatures." fun _ creatures =>
      .descriptor "damage_creatures" (damagePayload creatures damage)

/-- Both players and every other creature are damaged, and those creatures are
frozen. -/
def damageAllAndFreezeAll (damage : Value) : Effect := fun context => do
  let others := otherCreatures (← board) context
  announce s!"Deals {damage} damage to players & other animals. All gain Frozen."
  let creatures := if others.isEmpty then [] else
    [("damage_creatures", damagePayload others damage),
     ("grant_keyword_to_all", .keywordForAll others (keywordValue .frozen))]
  return .record (("damage_both_players", .value damage) :: creatures)

def returnAllEnemies : Effect :=
  onPoolTold Board.enemyCreatures "No Rival's creatures to return."
    "All Rival's creatures returned to hand." fun context creatures =>
      .descriptor "return_to_hand" (.record
        [("creatures", .cards creatures), ("player_index", .index context.opponentIndex)])

def enemyTokens (board : Board) (context : Context) : List CardId :=
  (board.enemyCreatures context).filter fun id => (board.card id).isToken

def killEnemyTokens : Effect :=
  onPoolTold enemyTokens "No Rival's tokens to kill." "All Rival's tokens are destroyed."
    fun _ tokens => .descriptor "kill_targets" (.cards tokens)

/-- The rival's tokens are killed by a spell, which is announced in any case. -/
def killEnemyTokensEffect : Effect := fun context => do
  let tokens := enemyTokens (← board) context
  announce "Destroying Rival's tokens."
  if tokens.isEmpty then return .nothing
  return .descriptor "kill_targets" (.cards tokens)

def killAllEnemyCreatures : Effect :=
  onPoolTold Board.enemyCreatures "No Rival's creatures to destroy."
    "All Rival's creatures are destroyed." fun context _ =>
      .descriptor "kill_enemy_creatures" (.index context.opponentIndex)

def regenOtherCreatures : Effect :=
  onPoolTold (fun board context => board.otherFriendlies context context.creature)
    "No other creatures to regenerate." "Regenerates other creatures." fun _ creatures =>
      .descriptor "regen_creatures" (.cards creatures)

end Effect

end CreatureCards
