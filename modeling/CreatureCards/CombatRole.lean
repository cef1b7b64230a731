import CreatureCards.Targeting

/-!
# Roles in combat

The keeper of the game may replace objects on the field between the moment in
which a trigger captures a creature and the moment in which its effect runs.
An effect on a captured creature therefore acts on the object that stands for
the same instance on the rival's field, or else on the acting player's field,
and on the captured object itself only when neither field holds one.
-/

namespace CreatureCards

/-- The creature a trap refers to: the target, else the attacker, else the
acting creature. -/
def Context.trapCreature (context : Context) : Option CardId :=
  context.target.bind Target.subject <|> context.attacker <|> context.creature

namespace Board

/-- The object on the owner's field that stands for the same instance as the
captured one, or the captured one. -/
def currentOnField (board : Board) (inGame : Bool) (captured : CardId)
    (ownerIndex : Option Int) : CardId :=
  let owner := if inGame then ownerIndex.bind board.player? else none
  let current := owner.bind fun player =>
    board.findOnField player (board.card captured).instanceId
  current.getD captured

/-- The object that now stands for the captured one: first on the rival's
field, then on the acting player's. -/
def refreshed (board : Board) (context : Context) (captured : CardId) : CardId :=
  let current := board.currentOnField context.inGame captured context.opponentIndex
  if current = captured && context.playerIndex.isSome then
    board.currentOnField context.inGame captured context.playerIndex
  else current

def freshTrapCreature (board : Board) (context : Context) : Option CardId :=
  context.trapCreature.map (board.refreshed context)

def freshAttacker (board : Board) (context : Context) : Option CardId :=
  context.attacker.map (board.refreshed context)

/-- The index of the first player whose field holds the creature's instance. -/
def ownerIndex? (board : Board) (inGame : Bool) (creature : CardId) : Option Nat :=
  if inGame then
    board.players.findIdx? fun player =>
      (board.findOnField player (board.card creature).instanceId).isSome
  else none

def creatureInRole (board : Board) (context : Context) (role : Value) : Option CardId :=
  if role.isText "self" then context.creature
  else if role.isText "target" then context.target.bind Target.subject
  else if role.isText "attacker" then board.freshAttacker context
  else none

end Board

end CreatureCards
