import CreatureCards.Card

/-!
# The board

The board is what every effect reads: the card objects, the players with their
zones, and the cards drawn this turn.  Zones hold identities of card objects,
so one object may stand in several places and two objects may stand for copies
of one card.  A place may be empty, in a pile as on the field.  Effects never write
to it; whoever keeps the game applies the results.
-/

namespace CreatureCards

/-- Places of a zone, in order; an empty place holds nothing. -/
abbrev Places := List (Option CardId)

def Places.cards (places : Places) : List CardId :=
  places.filterMap id

theorem Places.mem_cards {places : Places} {id : CardId} :
    id ∈ places.cards ↔ some id ∈ places := by
  simp [Places.cards]

/-- A player and the zones of that player. -/
structure Player where
  name : String := ""
  health : Int := 10
  /-- The slots of the field. -/
  field : Places := [none, none, none]
  hand : Places := []
  deck : Places := []
  carrion : Places := []
  deriving Inhabited, Repr

/-- The state of a game that effects read. -/
structure Board where
  card : CardId → Card
  players : List Player
  /-- Instances drawn this turn, shown highlighted in selections. -/
  recentlyDrawn : List String := []

namespace Player

def fieldCards (player : Player) : List CardId :=
  player.field.cards

def hasOpenSlot (player : Player) : Bool :=
  player.field.any Option.isNone

end Player

namespace Board

def creaturesAmong (board : Board) (slots : Places) : List CardId :=
  slots.cards.filter fun id => (board.card id).isCreature

def creatures (board : Board) (player : Player) : List CardId :=
  board.creaturesAmong player.field

def player? (board : Board) (index : Int) : Option Player :=
  if index < 0 then none else board.players[index.toNat]?

/-- The first object on the player's field that stands for the instance. -/
def findOnField (board : Board) (player : Player) (instanceId : String) : Option CardId :=
  player.fieldCards.find? fun id => (board.card id).instanceId == instanceId

/-- The card was drawn this turn. -/
def wasRecentlyDrawn (board : Board) (id : CardId) : Bool :=
  board.recentlyDrawn.contains (board.card id).instanceId

/-- Cards ordered by kind and name, which hides the order they were drawn or
stacked in. -/
def sorted (board : Board) (cards : List CardId) : List CardId :=
  cards.mergeSort fun left right => (board.card left).sortsBefore (board.card right)

def countCreatures (board : Board) (slots : Places) (rule : Card → Bool) : Nat :=
  ((board.creaturesAmong slots).filter fun id => rule (board.card id)).length

end Board

end CreatureCards
