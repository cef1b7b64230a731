import CreatureCards.Board
import CreatureCards.RandomSource
import CreatureCards.Settings
import CreatureCards.Warning

/-!
# Contexts and sessions

A context says on whose behalf an effect acts: the two sides, the creature
whose ability it is, and the participants of the moment.  A session is what
changes while effects run: the player-facing log, the warnings, the source of
random numbers, and the settings that contexts without a resolver have taken
over.
-/

namespace CreatureCards

/-- Kinds of game objects a player may pick. -/
inductive TargetKind where
  | creature
  | player
  | hand
  | carrion
  /-- A kind that no rule mentions. -/
  | other (name : String)
  deriving DecidableEq, Repr

namespace TargetKind

def name : TargetKind → String
  | creature => "creature"
  | player => "player"
  | hand => "hand"
  | carrion => "carrion"
  | other name => name

def ofName : String → TargetKind
  | "creature" => creature
  | "player" => player
  | "hand" => hand
  | "carrion" => carrion
  | name => other name

end TargetKind

/-- A tagged reference to a game object that a player may pick. -/
structure TargetRef where
  kind : TargetKind
  creature : Option CardId := none
  card : Option CardId := none
  ownerIndex : Option Int := none
  playerIndex : Option Int := none
  deriving DecidableEq, Repr

/-- The card referred to, whichever place holds it. -/
def TargetRef.subject (ref : TargetRef) : Option CardId :=
  ref.creature <|> ref.card

/-- What an ability is aimed at. -/
inductive Target where
  | card (id : CardId)
  | ref (ref : TargetRef)
  deriving DecidableEq, Repr

def Target.subject : Target → Option CardId
  | card id => some id
  | ref reference => reference.subject

/-- The resolver that a context carries. -/
inductive ResolverSeat where
  /-- A resolver with these settings. -/
  | taken (settings : Settings)
  /-- None. -/
  | vacant
  /-- None at first; the session remembers which one was taken over. -/
  | shared (seat : Nat)
  deriving DecidableEq, Repr

/-- On whose behalf and in which situation an effect acts. -/
structure Context where
  /-- The acting player's place among the players of the board. -/
  player : Option Nat := none
  opponent : Option Nat := none
  playerIndex : Option Int := none
  opponentIndex : Option Int := none
  /-- The state of the game can be consulted. -/
  inGame : Bool := true
  /-- The creature whose ability acts. -/
  creature : Option CardId := none
  target : Option Target := none
  attacker : Option CardId := none
  defenderIndex : Option Int := none
  playedCard : Option CardId := none
  consumedCard : Option CardId := none
  resolver : ResolverSeat := .vacant
  deriving DecidableEq, Repr

/-- What changes while effects run. -/
structure Session where
  /-- Player-facing messages, in order. -/
  log : List String := []
  warnings : List Warning := []
  random : RandomSource
  /-- Settings taken over by contexts that share a seat, latest first. -/
  seats : List (Nat × Settings) := []

namespace Session

def announce (session : Session) (message : String) : Session :=
  { session with log := session.log ++ [message] }

def warn (session : Session) (warning : Warning) : Session :=
  { session with warnings := session.warnings ++ [warning] }

end Session

end CreatureCards
