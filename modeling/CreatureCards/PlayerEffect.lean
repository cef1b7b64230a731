import CreatureCards.Question

/-!
# Effects on players

Healing, drawing, damage to the rival, tokens, discards and revelations, and
the flags that negate what is going on.  What the definition gives as an amount
is announced and passed on as it stands.
-/

namespace CreatureCards

open Engine

namespace Effect

def heal (amount : Value) : Effect := fun _ => do
  announce s!"Heals {amount} HP."
  return .descriptor "heal" (.value amount)

/-- The acting player draws a number of cards, which may be named. -/
def draw (count : Value) : Effect := fun context => do
  let resolved ← resolveCount count context
  if resolved ≤ 0 then
    announce "No cards to draw."
    return .nothing
  let verb := if resolved > 1 then "Draws" else "Draw"
  let cards := plural (.int resolved) "card"
  announce s!"{verb} {cards}."
  return .descriptor "draw" (.int resolved)

def damageRival (amount : Value) : Effect := fun _ => do
  announce s!"Deals {amount} damage to rival."
  return .descriptor "damage_opponent" (.value amount)

/-- Tokens that a parameter lists; anything but a list is a single token. -/
def tokensOf : Value → List Value
  | .list items => items
  | single => [single]

def summonPayload (context : Context) (tokens : List Value) : Outcome :=
  .descriptor "summon_tokens" (.record
    [("player_index", .index context.playerIndex), ("tokens", .list (tokens.map .value))])

def summonTokens (tokenIds : Value) : Effect := fun context => do
  let tokens := tokensOf tokenIds
  if tokens.isEmpty then
    announce "No tokens to summon."
    return .nothing
  let number := plural (.int tokens.length) "token"
  announce s!"Summons {number}."
  return summonPayload context tokens

def addToHand (cardId : Value) : Effect := fun context => do
  announce "Adds a card to hand."
  return .descriptor "add_to_hand" (.record
    [("player_index", .index context.playerIndex), ("card", .value cardId)])

def discardCards (count : Value) : Effect := fun context => do
  let cards := plural count "card"
  announce s!"Discards {cards}."
  return .descriptor "discard_random" (.record
    [("player_index", .index context.playerIndex), ("count", .value count)])

def revealCards (count : Value) : Effect := fun context => do
  let cards := plural count "card"
  announce s!"Reveals {cards} from rival's hand."
  return .descriptor "reveal_cards" (.record
    [("player_index", .index context.opponentIndex), ("count", .value count)])

/-- The rival's hand stays visible for a while. -/
def handRevelation (context : Context) (duration : Value) : Outcome :=
  .record [("player_index", .index context.opponentIndex), ("duration_ms", .value duration)]

def revealHand (durationMs : Value) : Effect := fun context => do
  let settings ← context.settings
  let duration := match durationMs with
    | .null => .int settings.revealHandDuration
    | given => given
  announce "Rival's hand is revealed."
  return .descriptor "reveal_hand" (handRevelation context duration)

def drawAndRevealHand (drawCount : Value) : Effect := fun context => do
  let settings ← context.settings
  announce s!"Drawing {drawCount}. Rival's hand is revealed."
  return .record
    [("draw", .value drawCount),
     ("reveal_hand", handRevelation context (.int settings.revealHandDuration))]

/-- The rule for places that a named card type stands for; other names stand for
any place, even an empty one. -/
def cardTypeRule (board : Board) (cardType : Value) (place : Option CardId) : Bool :=
  if cardType.isText "prey" then place.any fun id => (board.card id).isPrey
  else if cardType.isText "predator" then place.any fun id => (board.card id).isPredator
  else if cardType.isText "spell" then place.any fun id => (board.card id).isSpell
  else true

/-- The keeper of the game is asked to run a search of the deck. -/
def tutor (cardType : Value) : Effect := fun context => do
  let board ← board
  let player ← require (context.actor board)
  let valid := player.deck.filter (cardTypeRule board cardType)
  if valid.isEmpty then
    announce "No valid cards in deck."
    return .nothing
  return .descriptor "request_tutor" (.record
    [("player_index", .index context.playerIndex), ("valid_cards", .places valid),
     ("card_type", .value cardType)])

/-- Something happens that takes no parameters. -/
def signal (key message : String) : Effect := fun _ => do
  announce message
  return .descriptor key (.bool true)

def allowReplay (excludeNegated : Value) : Effect := fun _ => do
  announce "Rival may play a different card."
  return .record [("allow_replay", .bool true), ("exclude_negated", .value excludeNegated)]

def negateAndAllowReplay : Effect := fun _ => do
  announce "Play negated. Rival may play a different card."
  return .record [("negate_play", .bool true), ("allow_replay", .bool true)]

end Effect

end CreatureCards
