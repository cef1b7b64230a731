import CreatureCards.Board
import CreatureCards.Failure

/-!
# Moving cards

Whoever keeps the game moves cards between the zones of players.  A card is
taken out of wherever it stands and then put into a zone: a slot of the field
takes it in place of what it holds, and a pile takes it at its end.  Players and
slots are counted from the front, or from the back with negative numbers.
-/

namespace CreatureCards

/-- Where a card is put. -/
inductive Zone where
  | field (slot : Int)
  | hand
  | deck
  | carrion
  deriving DecidableEq, Repr

def Zone.ofName? (name : String) (slot : Int) : Option Zone :=
  match name with
  | "field" => some (.field slot)
  | "hand" => some .hand
  | "deck" => some .deck
  | "carrion" => some .carrion
  | _ => none

/-- The place among so many that a number counts to. -/
def placeAmong (length : Nat) (number : Int) : Except Failure Nat :=
  let place := if number < 0 then number + length else number
  if 0 ≤ place && place < length then .ok place.toNat else .error .missingEntry

namespace Player

/-- The player with the card taken out of every zone; its slots of the field
stay behind empty. -/
def without (player : Player) (id : CardId) : Player :=
  { player with
    field := player.field.map fun slot => if slot = some id then none else slot
    hand := player.hand.filter (· != some id)
    deck := player.deck.filter (· != some id)
    carrion := player.carrion.filter (· != some id) }

/-- The player with a card, or with an empty place, put into a zone. -/
def receiving (player : Player) (card : Option CardId) : Zone → Except Failure Player
  | .field slot => do
    let place ← placeAmong player.field.length slot
    return { player with field := player.field.set place card }
  | .hand => return { player with hand := player.hand ++ [card] }
  | .deck => return { player with deck := player.deck ++ [card] }
  | .carrion => return { player with carrion := player.carrion ++ [card] }

end Player

/-- The players after a card, or an empty place, was put into a zone of one of
them. -/
def putInto (players : List Player) (card : Option CardId) (owner : Int) (zone : Zone) :
    Except Failure (List Player) := do
  let place ← placeAmong players.length owner
  match players[place]? with
  | some player => return players.set place (← player.receiving card zone)
  | none => throw .missingEntry

end CreatureCards
