import CreatureCards.Question

/-!
# Target groups

Named groups of candidates: creatures of either side or of both, players, and
cards in the acting player's hand or in the carrion piles.  Creatures of the
rival follow the rules of targeting.  In a group that offers them beside
anything else, a creature of the rival with Lure leaves only such creatures.
-/

namespace CreatureCards

/-- A named group of candidates. -/
inductive TargetGroup where
  | friendlyCreatures
  | enemyCreatures
  | allCreatures
  | friendlyEntities
  | enemyEntities
  | allEntities
  | rival
  | self
  | enemyPrey
  | friendlyPrey
  | allPrey
  | friendlyPredators
  | carrionPredators
  | handPrey
  | otherCreatures
  | carrion
  | friendlyCarrion
  deriving DecidableEq, Repr

namespace TargetGroup

def name : TargetGroup → String
  | friendlyCreatures => "friendly-creatures"
  | enemyCreatures => "enemy-creatures"
  | allCreatures => "all-creatures"
  | friendlyEntities => "friendly-entities"
  | enemyEntities => "enemy-entities"
  | allEntities => "all-entities"
  | rival => "rival"
  | self => "self"
  | enemyPrey => "enemy-prey"
  | friendlyPrey => "friendly-prey"
  | allPrey => "all-prey"
  | friendlyPredators => "friendly-predators"
  | carrionPredators => "carrion-predators"
  | handPrey => "hand-prey"
  | otherCreatures => "other-creatures"
  | carrion => "carrion"
  | friendlyCarrion => "friendly-carrion"

def all : List TargetGroup :=
  [.friendlyCreatures, .enemyCreatures, .allCreatures, .friendlyEntities, .enemyEntities,
    .allEntities, .rival, .self, .enemyPrey, .friendlyPrey, .allPrey, .friendlyPredators,
    .carrionPredators, .handPrey, .otherCreatures, .carrion, .friendlyCarrion]

def ofValue? (value : Value) : Option TargetGroup :=
  all.find? fun group => value.isText group.name

end TargetGroup

namespace Board

def friendlyCandidates (board : Board) (context : Context) (rule : CardId → Bool) :
    List Candidate :=
  ((board.friendlyCreatures context).filter rule).map
    (board.creatureCandidate context.playerIndex)

/-- Candidates for creatures of the rival that meet a rule and may be selected. -/
def enemyCandidates (board : Board) (context : Context) (rule : CardId → Bool) :
    List Candidate :=
  (board.targetableEnemies context rule).map (board.creatureCandidate context.opponentIndex)

/-- Candidates for creatures of the rival behind others; creatures with Lure
leave no others. -/
def mixedCandidates (board : Board) (context : Context) (rule : CardId → Bool)
    (others : List Candidate) : List Candidate :=
  let enemies := board.enemyCandidates context rule
  if board.hasLureAmong (board.targetableEnemies context rule) then enemies
  else others ++ enemies

def selfCandidate (board : Board) (context : Context) : Candidate :=
  let name := ((context.actor board).map Player.name).getD ""
  playerCandidate (if name == "" then "Self" else name) context.playerIndex

def rivalCandidate (board : Board) (context : Context) : Candidate :=
  let name := ((context.rival board).map Player.name).getD ""
  playerCandidate (if name == "" then "Rival" else name) context.opponentIndex

def pileCandidates (board : Board) (kind : TargetKind) (ownerIndex : Option Int)
    (pile : Places) (rule : Card → Bool) : List Candidate :=
  (pile.cards.filter fun id => rule (board.card id)).map (board.pileCandidate kind ownerIndex)

def groupCandidates (board : Board) (context : Context) (group : TargetGroup) :
    Except Failure (List Candidate) :=
  let isPrey (id : CardId) : Bool := (board.card id).isPrey
  let isPredator (id : CardId) : Bool := (board.card id).isPredator
  let isOther (id : CardId) : Bool := some id != context.creature
  let own (kind : TargetKind) (pile : Player → Places) (rule : Card → Bool) :
      Except Failure (List Candidate) :=
    match context.actor board with
    | some player => .ok (board.pileCandidates kind context.playerIndex (pile player) rule)
    | none => .error .missingPart
  match group with
  | .friendlyCreatures => .ok (board.friendlyCandidates context anyCard)
  | .enemyCreatures => .ok (board.enemyCandidates context anyCard)
  | .allCreatures =>
    .ok (board.mixedCandidates context anyCard (board.friendlyCandidates context anyCard))
  | .friendlyEntities =>
    .ok (board.selfCandidate context :: board.friendlyCandidates context anyCard)
  | .enemyEntities =>
    .ok (board.mixedCandidates context anyCard [board.rivalCandidate context])
  | .allEntities =>
    .ok (board.mixedCandidates context anyCard
      (board.selfCandidate context :: board.rivalCandidate context ::
        board.friendlyCandidates context anyCard))
  | .rival => .ok [board.rivalCandidate context]
  | .self => .ok [board.selfCandidate context]
  | .enemyPrey => .ok (board.enemyCandidates context isPrey)
  | .friendlyPrey => .ok (board.friendlyCandidates context isPrey)
  | .allPrey =>
    .ok (board.mixedCandidates context isPrey (board.friendlyCandidates context isPrey))
  | .friendlyPredators => .ok (board.friendlyCandidates context isPredator)
  | .otherCreatures =>
    .ok (board.mixedCandidates context isOther (board.friendlyCandidates context isOther))
  | .handPrey => own .hand Player.hand Card.isPrey
  | .carrionPredators => own .carrion Player.carrion Card.isPredator
  | .friendlyCarrion => own .carrion Player.carrion fun _ => true
  | .carrion => do
    let mine ← own .carrion Player.carrion fun _ => true
    let theirs := (context.rival board).elim [] fun rival =>
      board.pileCandidates .carrion context.opponentIndex rival.carrion fun _ => true
    return mine ++ theirs

end Board

/-- Candidates of the group that an authored value names; none for a name that
stands for no group. -/
def groupTargets (group : Value) : Context → Engine (List Candidate) := fun context => do
  match TargetGroup.ofValue? group with
  | some known => Engine.orFail ((← Engine.board).groupCandidates context known)
  | none => do
    Engine.warn (.unknownGroup group)
    return []

end CreatureCards
