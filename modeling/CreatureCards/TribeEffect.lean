import CreatureCards.FieldEffect
import CreatureCards.PlayerEffect

/-!
# Tribal effects

Webs of arachnids, stalking and prides of felines, shells and molting of
crustaceans.  Markers are never written onto cards here; they are asked for.
Effects that draw a card for each of certain creatures are capped by the
settings.
-/

namespace CreatureCards

open Engine

def Board.friendlyWith (rule : Card → Bool) (board : Board) (context : Context) : List CardId :=
  (board.friendlyCreatures context).filter fun id => rule (board.card id)

def Board.webbedEnemies (board : Board) (context : Context) : List CardId :=
  (board.enemyCreatures context).filter fun id => (board.card id).isWebbed

namespace Effect

/-- How many cards an effect draws for a number of creatures. -/
def cappedDraw (context : Context) (count : Nat) : Engine Int := do
  return min (count : Int) (← context.settings).maxScaledDraw

/-- A creature that is not in a web yet is trapped in one. -/
def web (creature : CardId) : Engine Outcome := do
  let board ← board
  if (board.card creature).isWebbed then return .nothing
  let name := board.title creature
  announce s!"{name} is trapped in a web!"
  return .addKeyword creature (keywordValue .webbed)

/-- Every creature of the rival that is not in a web yet is trapped in one. -/
def webAllEnemies : Effect :=
  onPool Board.enemyCreatures "No Rival's creatures to web." fun _ enemies => do
    let board ← board
    let fresh := enemies.filter fun id => !(board.card id).isWebbed
    if fresh.isEmpty then return .nothing
    fresh.forM fun creature => do
      let name := board.title creature
      announce s!"{name} is trapped in a web!"
    return .descriptor "grant_keyword_to_all" (.keywordForAll fresh (keywordValue .webbed))

def webAttacker : Effect := fun context => do
  match (← board).freshAttacker context with
  | some attacker => web attacker
  | none => return .nothing

def webTarget : Effect :=
  onPool (fun board context => board.targetableEnemies context anyCard)
    "No Rival's creatures to web." fun context enemies => do
      pickOne {} "Choose a creature to trap in web"
        ((← board).cardCandidates (some context) false enemies) (onCard web)

def webRandomEnemy : Effect :=
  onPool Board.enemyCreatures "No Rival's creatures to web." fun context enemies => do
    let place ← if context.inGame then Engine.draw enemies.length else pure 0
    match enemies[place.toNat]? with
    | some creature => web creature
    | none => throw .badValue

def damageWebbed (damage : Value) : Effect :=
  onPoolTold Board.webbedEnemies "No Webbed creatures to damage."
    s!"Deals {damage} damage to all Webbed creatures." fun _ creatures =>
      .descriptor "damage_creatures" (damagePayload creatures damage)

def drawPerWebbed : Effect :=
  onPool Board.webbedEnemies "No Webbed creatures - no cards drawn." fun context webbed => do
    let drawn ← cappedDraw context webbed.length
    announce s!"Drawing {drawn} card(s) for Webbed enemies."
    return .descriptor "draw" (.int drawn)

def healPerWebbed (healPerWebbed : Value) : Effect :=
  onPool Board.webbedEnemies "No Webbed creatures - no healing." fun _ webbed => do
    let count := webbed.length
    let total ← orFail (Value.times (.int count) healPerWebbed)
    announce s!"Healing {total} HP for {count} Webbed enemy creature(s)."
    return .descriptor "heal" (.value total)

def drawIfEnemyWebbed : Effect :=
  onPoolTold Board.webbedEnemies "No Webbed enemies - no card drawn."
    "Enemy creature is Webbed - drawing a card!" fun _ _ => .descriptor "draw" (.int 1)

def buffAtkPerWebbed (bonus : Value) : Effect :=
  onPool Board.webbedEnemies "No Webbed enemies - no ATK bonus." fun context webbed => do
    match context.creature with
    | none => return .nothing
    | some creature =>
      let count := webbed.length
      let total ← orFail (Value.times (.int count) bonus)
      announce s!"Gains +{total} ATK from {count} Webbed enemy creature(s)!"
      return .buffCreature creature total (.int 0)

def summonTokensPerWebbed (tokenId : Value) : Effect :=
  onPool Board.webbedEnemies "No Webbed enemies - no tokens summoned." fun context webbed => do
    let count := webbed.length
    announce s!"Summons {count} token(s) from {count} Webbed enemy creature(s)!"
    return summonPayload context (List.replicate count tokenId)

def enterStalking (creature : CardId) : Engine Outcome := do
  let name := (← board).title creature
  announce s!"{name} enters stalking mode! (Gains Hidden, builds +1 ATK/turn)"
  return .descriptor "enter_stalking" (.card creature)

/-- A picked creature that can stalk and does not yet enters stalking mode. -/
def enterStalkMode : Effect :=
  onPool (Board.friendlyWith fun card => card.hasStalk && !card.stalking)
    "No creatures with Stalk available to enter stalking mode." fun context stalkers => do
      pickOne {} "Choose a creature to enter stalking mode"
        ((← board).cardCandidates (some context) false stalkers) (onCard enterStalking)

/-- The acting creature enters stalking mode if it can and does not yet. -/
def enterStalkModeOnPlay : Effect := fun context => do
  let board ← board
  match context.creature with
  | none => return .nothing
  | some creature =>
    if (board.card creature).hasStalk && !(board.card creature).stalking then
      enterStalking creature
    else return .nothing

/-- A card is drawn for each friendly creature that meets a rule. -/
def scaledDraw (rule : Card → Bool) (noun : String) : Effect :=
  onPool (Board.friendlyWith rule) s!"No {noun} creatures - no cards drawn."
    fun context creatures => do
      let drawn ← cappedDraw context creatures.length
      announce s!"Drawing {drawn} card(s) for {noun} creatures."
      return .descriptor "draw" (.int drawn)

def buffAll (rule : Card → Bool) (noun : String) (bonus : Value) : Effect :=
  onPoolTold (Board.friendlyWith rule) s!"No {noun} creatures to buff."
    s!"All {noun} creatures gain +{bonus} ATK!" fun _ creatures =>
      .buffCreatures creatures bonus (.int 0)

def healPer (rule : Card → Bool) (noun : String) (amount : Value) : Effect :=
  onPool (Board.friendlyWith rule) s!"No {noun} creatures - no healing." fun _ creatures => do
    let count := creatures.length
    let total ← orFail (Value.times (.int count) amount)
    announce s!"Heals {total} HP for {count} {noun} creature(s)!"
    return .descriptor "heal" (.value total)

def tokensPer (rule : Card → Bool) (noun : String) (tokenId : Value) : Effect :=
  onPool (Board.friendlyWith rule) s!"No {noun} creatures - no tokens summoned."
    fun context creatures => do
      let count := creatures.length
      announce s!"Summons {count} token(s) for {count} {noun} creature(s)!"
      return summonPayload context (List.replicate count tokenId)

/-- A picked friendly creature that meets a rule is changed. -/
def pickFriendly (rule : Card → Bool) (missing title : String)
    (change : CardId → Engine Outcome) : Effect :=
  onPool (Board.friendlyWith rule) missing fun context creatures => do
    pickOne {} title ((← board).cardCandidates (some context) false creatures) (onCard change)

def joinPride (creature : CardId) : Engine Outcome := do
  let name := (← board).title creature
  announce s!"{name} joins the Pride!"
  return .addKeyword creature (keywordValue .pride)

def grantPride : Effect :=
  pickFriendly (fun card => !card.hasPride && !card.isInvisible)
    "No creatures available to join the pride." "Choose a creature to join the Pride" joinPride

/-- A picked creature of the rival is struck for the stalk bonus that the acting
creature has built up. -/
def damageEqualToStalkBonus : Effect := fun context => do
  let board ← board
  let bonus := context.creature.elim 0 fun creature => (board.card creature).stalkBonus
  if bonus = 0 then
    announce "No stalk bonus accumulated - no damage dealt."
    return .nothing
  let enemies := board.targetableEnemies context anyCard
  if enemies.isEmpty then
    announce "No enemy creatures to strike."
    return .nothing
  pickOne {} s!"Deal {bonus} damage to target (from stalk bonus)"
    (board.cardCandidates (some context) false enemies) (onCard (strike bonus))
where
  /-- The strike at a picked creature. -/
  strike (bonus : Int) (target : CardId) : Engine Outcome := do
    let name := (← Engine.board).title target
    announce s!"Precision strike! Deals {bonus} damage to {name}!"
    return .damageCreature target (.int bonus) (.text "strike")

def giveChase (atkBonus : Value) (creature : CardId) : Engine Outcome := do
  let name := (← board).title creature
  announce s!"{name} gives chase! Gains +{atkBonus} ATK and Haste!"
  return .record
    [("buff_creature", .record
        [("creature", .card creature), ("attack", .value atkBonus), ("health", .int 0)]),
     ("add_keyword", .keywordPayload creature (keywordValue .haste))]

def chasePrey (atkBonus : Value) : Effect :=
  pickFriendly (fun card => !card.isInvisible) "No friendly creatures to empower."
    "Choose a creature to give the chase" (giveChase atkBonus)

def regenerateAllShells : Effect :=
  onPool (Board.friendlyWith Card.hasShell) "No Shell creatures to regenerate."
    fun _ shelled => do
      let board ← board
      let depleted := shelled.filter fun id =>
        (board.card id).currentShell < (board.card id).shellLevel
      let count := depleted.length
      announce s!"Regenerated shell on {count} creature(s)!"
      if depleted.isEmpty then return .nothing
      return .descriptor "regenerate_shells" (.cards depleted)

def growShell (shellLevel : Value) (creature : CardId) : Engine Outcome := do
  let name := (← board).title creature
  announce s!"{name} grows a protective shell! (Shell {shellLevel})"
  return .descriptor "grant_shell" (.record
    [("creature", .card creature), ("shell_level", .value shellLevel)])

def grantShell (shellLevel : Value) : Effect :=
  pickFriendly (fun card => !card.hasShell && !card.isInvisible)
    "No creatures available to grant Shell." "Choose a creature to grant Shell"
    (growShell shellLevel)

def learnMolt (creature : CardId) : Engine Outcome := do
  let name := (← board).title creature
  announce s!"{name} can now molt to survive death!"
  return .addKeyword creature (keywordValue .molt)

def grantMolt : Effect :=
  pickFriendly (fun card => !card.hasMolt && !card.isInvisible)
    "No creatures available to grant Molt." "Choose a creature to grant Molt" learnMolt

def totalShell (board : Board) (context : Context) : Int :=
  (board.friendlyWith Card.hasShell context).foldl
    (fun total id => total + (board.card id).shellLevel) 0

def healthCandidates (board : Board) (context : Context) (cards : List CardId) :
    List Candidate :=
  cards.map fun id =>
    let name := board.title id
    let health := Value.ofInt? (board.card id).currentHealth
    { label := some s!"{name} ({health} HP)"
      value := .card id
      recentlyDrawn := board.highlighted (some context) id }

/-- A picked creature of the rival is damaged by the sum of the friendly shell
levels. -/
def damageEqualToTotalShell : Effect := fun context => do
  let board ← board
  let total := totalShell board context
  if total = 0 then
    announce "No shell level accumulated - no damage dealt."
    return .nothing
  let enemies := board.targetableEnemies context anyCard
  if enemies.isEmpty then
    announce "No enemy creatures to damage."
    return .nothing
  let total ← orFail (Value.shown total)
  pickOne {} s!"Deal {total} damage (total Shell) to an enemy"
    (healthCandidates board context enemies) (onCard (crush total))
where
  /-- The damage to a picked creature. -/
  crush (total : Int) (target : CardId) : Engine Outcome := do
    let name := (← Engine.board).title target
    announce s!"Deals {total} damage (total Shell level) to {name}!"
    return .damageCreature target (.int total) (.text "damage")

def buffHpPerShell : Effect :=
  onPool (Board.friendlyWith Card.hasShell) "No Shell creatures - no HP buff."
    fun context shelled => do
      let count := shelled.length
      announce s!"All creatures gain +{count} HP!"
      return .buffCreatures ((← board).friendlyCreatures context) (.int 0) (.int count)

end Effect

end CreatureCards
