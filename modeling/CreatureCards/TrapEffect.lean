import CreatureCards.CreatureEffect

/-!
# Traps and defence

Effects on the creature that sprang a trap and on the attacker.  They act on the
object that stands for the captured creature now.
-/

namespace CreatureCards

open Engine

namespace Effect

/-- An effect on the creature a trap refers to, or a message if there is none. -/
def onTrapped (missing : String) (act : Context → Board → CardId → Engine Outcome) : Effect :=
  fun context => do
    let board ← board
    match board.freshTrapCreature context with
    | some creature => act context board creature
    | none =>
      announce missing
      return .nothing

def removeTriggeredCreatureAbilities : Effect :=
  onTrapped "No creature to strip abilities from." fun _ board creature => do
    let name := board.title creature
    announce s!"{name} loses its abilities."
    return .descriptor "remove_abilities" (.card creature)

def returnToHand (creatures : List CardId) (playerIndex : Option Int) : Outcome :=
  .descriptor "return_to_hand" (.record
    [("creatures", .cards creatures), ("player_index", .index playerIndex)])

/-- The trapped creature returns to the hand of the player whose field holds it,
or of the given player if no field does. -/
def returnTrapped (stray : Context → Int) : Effect :=
  onTrapped "No creature to return." fun context board creature => do
    let owner := (board.ownerIndex? context.inGame creature).elim (stray context) Int.ofNat
    let name := board.title creature
    announce s!"{name} returns to hand."
    return returnToHand [creature] (some owner)

/-- The creature that sprang the trap returns to hand, to the acting player's if
it is on no field. -/
def returnTriggeredToHand : Effect :=
  returnTrapped fun context => context.playerIndex.getD 0

/-- The creature that was aimed at returns to hand, to the first player's if it
is on no field. -/
def returnTargetedToHand : Effect :=
  returnTrapped fun _ => 0

/-- The attack is negated, and the attacker is killed if there still is one. -/
def negateAndKillAttacker : Effect := fun context => do
  let board ← board
  match board.freshTrapCreature context with
  | some creature =>
    let name := board.title creature
    announce s!"Attack negated. {name} is destroyed."
    return .record [("negate_attack", .bool true), ("kill_targets", .cards [creature])]
  | none =>
    announce "No attacker to kill."
    return .descriptor "negate_attack" (.bool true)

def negateAndDamageAll (creatureDamage playerDamage : Value) : Effect := fun _ => do
  let first := s!"Attack negated. {creatureDamage} damage to all creatures, "
  announce (first ++ s!"{playerDamage} damage to both players.")
  return .record
    [("negate_attack", .bool true), ("damage_all_creatures", .value creatureDamage),
     ("damage_both_players", .value playerDamage)]

/-- An effect on the attacker, or a message if there is none. -/
def onAttacker (missing : String) (act : Board → CardId → Engine Outcome) : Effect :=
  fun context => do
    let board ← board
    match board.freshAttacker context with
    | some attacker => act board attacker
    | none =>
      announce missing
      return .nothing

def killAttacker : Effect :=
  onAttacker "No attacker to kill." fun board attacker => do
    let name := board.title attacker
    announce s!"{name} is destroyed."
    return .descriptor "kill_targets" (.cards [attacker])

def dealDamageToAttacker (damage : Value) : Effect :=
  onAttacker "No attacker to damage." fun _ attacker => do
    announce s!"Deals {damage} damage to attacker."
    return .damageCreature attacker damage (.text "damage")

def applyNeurotoxicToAttacker : Effect :=
  onAttacker "No attacker to poison." fun _ attacker => do
    announce "Attacker is affected by neurotoxic."
    return .descriptor "apply_neurotoxic" (.card attacker)

def freezeAttacker : Effect :=
  onAttacker "No attacker to freeze." fun _ attacker => do
    announce "Attacker gains Frozen."
    return .addKeyword attacker (.text Keyword.frozen.name)

end Effect

end CreatureCards
