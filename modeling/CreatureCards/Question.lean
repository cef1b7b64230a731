import CreatureCards.ResolverSeat
import CreatureCards.Targeting
import CreatureCards.ValueArithmetic

/-!
# Asking a player

Questions are asked only where there is something to choose.  A pick without
candidates comes to nothing, and a pick with one candidate is answered at once
as if the player had picked it.  Candidates that depend on what happens first
are found when the pick is shown.

A card that an ability selects may react.  If its reaction answers with
something, that replaces the result of the ability.
-/

namespace CreatureCards

/-- How cards react to being selected in a context. -/
abbrev Reactor := CardId → Context → Engine Outcome

/-- How a pick is shown. -/
structure PickStyle where
  renderCards : Bool := false
  isOpponentSelection : Bool := false
  selectingPlayer : Option Int := none

def PickStyle.asCards : PickStyle := { renderCards := true }

def PickStyle.pick (style : PickStyle) (title : String) (source : CandidateSource) : Pick :=
  { title, source, renderCards := style.renderCards
    isOpponentSelection := style.isOpponentSelection
    selectingPlayer := style.selectingPlayer }

def pickOne (style : PickStyle) (title : String) (candidates : List Candidate)
    (answer : Choice → Engine Outcome) : Engine Outcome :=
  match candidates with
  | [] => return .nothing
  | [only] => return (← answer only.value).orNothing
  | _ => return .asking (style.pick title (.listed candidates)) answer

/-- A pick among the candidates that are found when it is shown. -/
def laterPick (style : PickStyle) (title : String)
    (candidates : Board → Except Failure (List Candidate))
    (answer : Choice → Engine Outcome) : Outcome :=
  .question (.pick (style.pick title (.produced candidates))) answer

/-- Lets a player pick one of the candidates that are found when the pick is
shown. -/
def pickLater (style : PickStyle) (title : String)
    (candidates : Board → Except Failure (List Candidate))
    (answer : Choice → Engine Outcome) : Outcome :=
  .descriptor "select_target" (laterPick style title candidates answer)

def onCard {α : Type} (answer : CardId → Engine α) : Choice → Engine α
  | .card id => answer id
  | _ => throw .missingPart

def onRef {α : Type} (answer : TargetRef → Engine α) : Choice → Engine α
  | .ref ref => answer ref
  | _ => throw .missingPart

/-- The cards in places none of which may be empty. -/
def Places.full (places : Places) : Except Failure (List CardId) :=
  places.mapM fun place => place.elim (.error .missingPart) .ok

namespace Board

def title (board : Board) (id : CardId) : String :=
  (board.card id).title

/-- The card was drawn this turn, as far as a viewing context can tell. -/
def highlighted (board : Board) (viewer : Option Context) (id : CardId) : Bool :=
  viewer.any fun context => context.inGame && board.wasRecentlyDrawn id

/-- Candidates that stand for cards.  They show the card or just its name, and
a viewing context tells which of them were drawn this turn. -/
def cardCandidates (board : Board) (viewer : Option Context) (shown : Bool)
    (cards : List CardId) : List Candidate :=
  cards.map fun id =>
    { label := (board.card id).name
      value := .card id
      card := if shown then some id else none
      recentlyDrawn := board.highlighted viewer id }

/-- Candidates that stand for the cards in places of a pile.  An empty place has
no name to be shown under. -/
def placeCandidates (board : Board) (viewer : Option Context) (shown : Bool)
    (places : Places) : Except Failure (List Candidate) := do
  return board.cardCandidates viewer shown (← places.full)

def sortedCandidates (board : Board) (shown : Bool) (places : Places) :
    Except Failure (List Candidate) := do
  return board.cardCandidates none shown (board.sorted (← places.full))

def creatureCandidate (board : Board) (ownerIndex : Option Int) (id : CardId) : Candidate :=
  { label := (board.card id).name
    value := .ref { kind := .creature, creature := some id, ownerIndex }
    card := some id }

def pileCandidate (board : Board) (kind : TargetKind) (ownerIndex : Option Int) (id : CardId) :
    Candidate :=
  { label := (board.card id).name
    value := .ref { kind, card := some id, ownerIndex }
    card := some id }

end Board

def playerCandidate (label : String) (playerIndex : Option Int) : Candidate :=
  { label := some label, value := .ref { kind := .player, playerIndex } }

/-- What a card answers to being selected by the source. -/
def reactionOf (react : Reactor) (target : CardId) (source : Option CardId) : Effect :=
  fun context => do
    let derived ← context.derived
    react target { derived with target := some (.card target), creature := source }

/-- The reaction of the target if it answers with something, the result
otherwise. -/
def reactionOr (react : Reactor) (target : CardId) (result : Outcome) : Effect :=
  fun context => do
    let response ← reactionOf react target none context
    return if response.isTruthy then response else result

/-- A number of things: the noun has an ending unless the number is one. -/
def plural (count : Value) (noun : String) : String :=
  s!"{count} {noun}" ++ if count.isOne then "" else "s"

/-- The number that an authored count stands for: a number, a flag, or the size
of a named part of the board.  Names that stand for nothing count as zero. -/
def resolveCount (count : Value) : Context → Engine Int := fun context => do
  let board ← Engine.board
  let size (part : Option Player) (measure : Player → Nat) : Int := part.elim 0 fun player =>
    measure player
  match count with
  | .int number => return number
  | .bool flag => return if flag then 1 else 0
  | .null => return 0
  | .list _ | .object _ => throw .wrongKind
  | .text "fieldCount" =>
    return size (context.actor board) fun player => (board.creatures player).length
  | .text "enemyFieldCount" =>
    return size (context.rival board) fun player => (board.creatures player).length
  | .text "handCount" => return size (context.actor board) fun player => player.hand.length
  | .text "deckCount" => return size (context.actor board) fun player => player.deck.length
  | .text "carrionCount" =>
    return size (context.actor board) fun player => player.carrion.length
  | other => do
    Engine.warn (.unknownCount other)
    return 0

end CreatureCards
