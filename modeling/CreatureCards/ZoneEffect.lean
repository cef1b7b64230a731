import CreatureCards.CreatureEffect
import CreatureCards.OutcomeMerge
import CreatureCards.PlayerEffect

/-!
# Effects on hands and decks

Discards, searches of the deck and spells played from hand.  What a player may
discard or play often depends on what happens first, a draw for instance; such
picks find their candidates when they are shown.  Candidates from the deck are
shown sorted, so that a search does not tell the order of the deck.
-/

namespace CreatureCards

open Engine

namespace Effect

def discardPayload (playerIndex : Option Int) (cards : List CardId) : Outcome :=
  .record [("player_index", .index playerIndex), ("cards", .cards cards)]

/-- A card is discarded by the player it was asked of. -/
def discardOne (playerIndex : Option Int) (card : CardId) : Outcome :=
  .descriptor "discard_cards" (discardPayload playerIndex [card])

def discardTitle (count : Value) : String :=
  let cards := plural count "card"
  s!"Choose {cards} to discard"

def selectCardToDiscard (count : Value) : Effect := fun context => do
  let board ← board
  let player ← require (context.actor board)
  if player.hand.isEmpty then
    announce "No cards in hand to discard."
    return .nothing
  let candidates ← orFail (board.placeCandidates (some context) false player.hand)
  pickOne .asCards (discardTitle count) candidates
    (onCard fun card => return discardOne context.playerIndex card)

def discardTold (who : String) (playerIndex : Option Int) (card : CardId) : Engine Outcome := do
  let name := (← board).title card
  announce s!"{who} {name}."
  return discardOne playerIndex card

/-- The acting player discards a picked card, not the one being played. -/
def selectAndDiscard (count : Value) : Effect := fun context => do
  let board ← board
  let player ← require (context.actor board)
  let discardable := player.hand.filter (· != context.playedCard)
  if discardable.isEmpty then
    announce "No cards available to discard."
    return .nothing
  let candidates ← orFail (board.placeCandidates (some context) true discardable)
  pickOne .asCards (discardTitle count) candidates
    (onCard (discardTold "Discards" context.playerIndex))

/-- The rival of a discard: in a trap the player opposite the defender. -/
def discardRival (board : Board) (context : Context) : Option Int × Option Player :=
  match context.defenderIndex with
  | some defender =>
    let index := (defender + 1).emod 2
    (some index, if context.inGame then board.player? index else none)
  | none => (context.opponentIndex, context.rival board)

/-- The rival discards a card of their own choice. -/
def forceOpponentDiscard (count : Value) : Effect := fun context => do
  let board ← board
  let (index, rival) := discardRival board context
  let hand := rival.elim [] Player.hand
  if hand.isEmpty then
    announce "Rival has no cards to discard."
    return .nothing
  let candidates ← orFail (board.placeCandidates (some context) true hand)
  pickOne { renderCards := true, isOpponentSelection := true, selectingPlayer := index }
    (discardTitle count) candidates
    (onCard (discardTold "Rival discards" index))

/-- What a place of the deck holds comes into the acting player's hand. -/
def tutored (context : Context) (place : Option CardId) : Outcome :=
  .descriptor "add_to_hand" (.record
    [("player_index", .index context.playerIndex), ("card", .card? place),
     ("from_deck", .bool true)])

def tutorFromDeck (cardType : Value) : Effect := fun context => do
  let board ← board
  let player ← require (context.actor board)
  if player.deck.isEmpty then
    announce "Deck is empty."
    return .nothing
  let valid := player.deck.filter (cardTypeRule board cardType)
  match valid with
  | [] =>
    announce "No valid cards in deck."
    return .nothing
  | [only] => return tutored context only
  | _ =>
    return pickLater .asCards "Choose a card to add to hand"
      (fun board => board.sortedCandidates false valid)
      (onCard fun card => return tutored context (some card))

/-- The acting player plays a creature from the deck, which enters with a
keyword. -/
def selectCreatureFromDeckWithKeyword (keyword : Value) : Effect := fun context => do
  let board ← board
  let player ← require (context.actor board)
  let creatures := board.creaturesAmong player.deck
  if creatures.isEmpty then
    announce "No creatures in deck."
    return .nothing
  pickOne .asCards s!"Choose a creature to play (gains {keyword})"
    (board.cardCandidates none true (board.sorted creatures))
    (onCard fun card => return .descriptor "play_from_deck" (.record
      [("player_index", .index context.playerIndex), ("card", .card card),
       ("grant_keyword", .value keyword)]))

/-- Spells in the acting player's hand that were not chosen yet. -/
def handSpells (context : Context) (chosen : List CardId) (board : Board) :
    Except Failure (List CardId) :=
  match context.actor board with
  | some player =>
    .ok (player.hand.cards.filter fun id => (board.card id).isSpell && !chosen.contains id)
  | none => .error .missingPart

def spellCandidates (context : Context) (chosen : List CardId) (board : Board) :
    Except Failure (List Candidate) :=
  (handSpells context chosen board).map (board.cardCandidates none true)

def playedFromHand (context : Context) (card : CardId) : Outcome :=
  .descriptor "play_from_hand" (.record
    [("player_index", .index context.playerIndex), ("card", .card card)])

def spellTitle (several : Bool) (step : Nat) : String :=
  if several then
    let ordinal := (["first", "second", "third", "fourth", "fifth"][step]?).getD "next"
    s!"Choose {ordinal} spell to play"
  else "Choose spell to play"

/-- A spell is played, and up to `left` further ones after it. -/
def playSpell (context : Context) (several : Bool) :
    (left step : Nat) → List CardId → CardId → Engine Outcome
  | 0, _, _, spell => return playedFromHand context spell
  | left + 1, step, chosen, spell => do
    let played := playedFromHand context spell
    let picked := chosen ++ [spell]
    let others ← orFail (handSpells context picked (← board))
    if others.isEmpty then
      announce (if step = 0 then "Only one spell available." else "No more spells to play.")
      return played
    let further := pickLater .asCards (spellTitle several (step + 1))
      (spellCandidates context picked)
      (onCard (playSpell context several left (step + 1) picked))
    orFail (Outcome.merge [played, further])

/-- More rounds than any hand has spells for. -/
def endlessRounds : Nat := Nat.pow 10 18

/-- How often something is done: the least whole number that an authored number
does not exceed.  A number that no number of rounds comes up to has no end. -/
def roundsUp (count : Value) : Except Failure Nat := do
  match count with
  | .float number =>
    match Binary.ofBits? number.toBits with
    | some fraction =>
      let whole := fraction.truncated
      return if fraction.atMost whole then whole.toNat else (whole + 1).toNat
    | none => return if number < 0 then 0 else endlessRounds
  | other =>
    match other.whole? with
    | some number => return number.toNat
    | none => throw .wrongKind

/-- The acting player plays up to a number of spells from hand, one after the
other. -/
def playSpellsFromHand (count : Value) : Effect := fun context => do
  let board ← board
  let spells ← orFail (handSpells context [] board)
  if spells.isEmpty then
    announce "No spells to play."
    return .nothing
  let rounds ← orFail (roundsUp count)
  let several := count.exceedsOne
  pickOne .asCards (spellTitle several 0) (board.cardCandidates none true spells)
    (onCard (playSpell context several (rounds - 1) 0 []))

def playSpellFromHand : Effect := fun context => do
  let board ← board
  let spells ← orFail (handSpells context [] board)
  if spells.isEmpty then
    announce "No spells in hand to play."
    return .nothing
  pickOne .asCards "Choose a spell to play" (board.cardCandidates none true spells)
    (onCard fun spell => do
      let name := (← Engine.board).title spell
      announce s!"Playing {name} from hand."
      return playedFromHand context spell)

/-- A card of the deck was picked; a spell may be played once it is in hand. -/
def tutorThenPlay (context : Context) (card : CardId) : Engine Outcome := do
  let board ← board
  let spells ← orFail (handSpells context [] board)
  if spells.isEmpty && !(board.card card).isSpell then
    announce "No spells to play."
    return tutored context (some card)
  let further := pickLater .asCards "Choose a spell to play"
    (fun board => do
      let spells ← handSpells context [] board
      return board.cardCandidates none true (board.sorted spells))
    (onCard fun spell => return playedFromHand context spell)
  orFail (Outcome.merge [tutored context (some card), further])

/-- The acting player takes any card from the deck and then plays a spell. -/
def tutorAndPlaySpell : Effect := fun context => do
  let player ← require (context.actor (← board))
  if player.deck.isEmpty then
    announce "Deck is empty."
    return .nothing
  return pickLater .asCards "Choose a card from deck to add to hand"
    (fun board => match context.actor board with
      | some player => board.sortedCandidates true player.deck
      | none => .error .missingPart)
    (onCard (tutorThenPlay context))

/-- The acting player draws and then discards; the pick is made from the hand
after the draw. -/
def drawThenDiscard (drawCount discardCount : Value) : Effect := fun context => do
  announce s!"Draws {drawCount}, then discards {discardCount}."
  let discard := laterPick .asCards (discardTitle discardCount)
    (fun board => match context.actor board with
      | some player => board.placeCandidates (some context) true player.hand
      | none => .error .missingPart)
    (onCard fun card => return discardOne context.playerIndex card)
  return .record [("draw", .value drawCount), ("select_target", discard)]

def killPicked (react : Reactor) (context : Context) (target : CardId) : Engine Outcome :=
  reactionOr react target (.descriptor "kill_creature" (.card target)) context

/-- A card was picked for the discard; a card is drawn and a creature of the
rival killed. -/
def discardThenKill (react : Reactor) (context : Context) (card : CardId) : Engine Outcome := do
  let board ← board
  let done := Outcome.record
    [("discard_cards", discardPayload context.playerIndex [card]), ("draw", .int 1)]
  let enemies := board.targetableEnemies context anyCard
  if enemies.isEmpty then
    announce "No Rival's creatures to kill."
    return done
  let kill ← pickOne {} "Choose a Rival's creature to kill"
    (board.cardCandidates (some context) false enemies) (onCard (killPicked react context))
  orFail (Outcome.merge [done, kill])

/-- The acting player discards a card, draws one and kills a creature of the
rival. -/
def discardDrawAndKillEnemy (react : Reactor) : Effect := fun context => do
  let board ← board
  let player ← require (context.actor board)
  if player.hand.isEmpty then
    announce "No cards to discard."
    return .nothing
  let candidates ← orFail (board.placeCandidates (some context) true player.hand)
  pickOne .asCards "Choose a card to discard" candidates (onCard (discardThenKill react context))

end Effect

end CreatureCards
