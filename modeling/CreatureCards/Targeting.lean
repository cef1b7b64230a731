import CreatureCards.Outcome

/-!
# Targeting

Whom an ability may select.  A creature with Lure can always be selected, even
when it is invisible; an invisible one otherwise only by a caster with Acuity;
everything else can be selected.  When creatures of the rival that an ability
may select include some with Lure, the ability must select one of those.
-/

namespace CreatureCards

namespace Context

def actor (context : Context) (board : Board) : Option Player :=
  context.player.bind fun place => board.players[place]?

def rival (context : Context) (board : Board) : Option Player :=
  context.opponent.bind fun place => board.players[place]?

end Context

/-- The members of a pool that meet the rule, or the whole pool if none does. -/
def preferred {α : Type} (rule : α → Bool) (pool : List α) : List α :=
  let members := pool.filter rule
  if members.isEmpty then pool else members

namespace Board

/-- An ability of the caster may select the target. -/
def canTarget (board : Board) (target caster : Option CardId) : Bool :=
  match target with
  | none => false
  | some id =>
    if (board.card id).hasLure then true
    else if (board.card id).isInvisible then caster.any fun source => (board.card source).hasAcuity
    else true

/-- The members of a pool with Lure, or the whole pool if there are none. -/
def lured (board : Board) (pool : List CardId) : List CardId :=
  preferred (fun id => (board.card id).hasLure) pool

/-- The places that hold a card with Lure, or all places if there are none. -/
def luredPlaces (board : Board) (places : Places) : Places :=
  preferred (fun place => place.any fun id => (board.card id).hasLure) places

def hasLureAmong (board : Board) (pool : List CardId) : Bool :=
  pool.any fun id => (board.card id).hasLure

def friendlyCreatures (board : Board) (context : Context) : List CardId :=
  (context.actor board).elim [] board.creatures

def otherFriendlies (board : Board) (context : Context) (excluded : Option CardId) :
    List CardId :=
  (board.friendlyCreatures context).filter fun id => some id != excluded

def enemyCreatures (board : Board) (context : Context) : List CardId :=
  (context.rival board).elim [] board.creatures

/-- The rival's creatures that meet the rule and that the acting creature may
select, before Lure is considered. -/
def visibleEnemies (board : Board) (context : Context) (rule : CardId → Bool) : List CardId :=
  (board.enemyCreatures context).filter fun id =>
    rule id && board.canTarget (some id) context.creature

def targetableEnemies (board : Board) (context : Context) (rule : CardId → Bool) :
    List CardId :=
  board.lured (board.visibleEnemies context rule)

def targetableFriendlies (board : Board) (context : Context) (rule : CardId → Bool) :
    List CardId :=
  (board.friendlyCreatures context).filter fun id =>
    rule id && board.canTarget (some id) context.creature

/-- Creatures of both sides that the acting creature may select; those of the
rival with Lure alone if there are any. -/
def mixedTargets (board : Board) (context : Context) (rule : CardId → Bool) : List CardId :=
  let enemies := board.targetableEnemies context rule
  if board.hasLureAmong enemies then enemies
  else board.targetableFriendlies context rule ++ enemies

end Board

def anyCard (_ : CardId) : Bool := true

end CreatureCards
