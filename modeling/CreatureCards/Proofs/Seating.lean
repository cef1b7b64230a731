import CreatureCards.EffectRule
import CreatureCards.GroupPick
import CreatureCards.Condition
import Mathlib.Logic.Function.Basic

/-!
# Seating the players anew

Players are known by their places at the board and by the indices in contexts and
references.  When they are seated anew, places and indices move along.  Whoever is
asked for by a place or an index is the same player then, so every pool of creatures
and every object that stands for a captured one is the same, and candidates differ
in the indices that they carry.
-/

namespace CreatureCards

/-- Where each place and each index goes when the players are seated anew. -/
structure Seating where
  place : Nat → Nat
  index : Int → Int
  injective : Function.Injective index
  /-- Players that sat opposite each other still do. -/
  opposite : ∀ defender, (index defender + 1).emod 2 = index ((defender + 1).emod 2)

section Reseated

variable (seating : Seating)

def TargetRef.reseated (ref : TargetRef) : TargetRef :=
  { ref with
    ownerIndex := ref.ownerIndex.map seating.index
    playerIndex := ref.playerIndex.map seating.index }

def Target.reseated : Target → Target
  | card id => card id
  | ref reference => ref (reference.reseated seating)

def Context.reseated (context : Context) : Context :=
  { context with
    player := context.player.map seating.place
    opponent := context.opponent.map seating.place
    playerIndex := context.playerIndex.map seating.index
    opponentIndex := context.opponentIndex.map seating.index
    defenderIndex := context.defenderIndex.map seating.index
    target := context.target.map (Target.reseated seating) }

def Choice.reseated : Choice → Choice
  | ref reference => ref (reference.reseated seating)
  | other => other

def Candidate.reseated (candidate : Candidate) : Candidate :=
  { candidate with value := candidate.value.reseated seating }

/-- The players sit where the seating says: whoever is asked for by a place or an
index is the same player, and the first field that holds a creature is the same. -/
structure Seating.Seats (board : Board) (players : List Player) : Prop where
  player : ∀ place, players[seating.place place]? = board.players[place]?
  known : ∀ index, { board with players }.player? (seating.index index) = board.player? index
  owner : ∀ creature, ({ board with players }.ownerIndex? true creature).map Int.ofNat =
    (board.ownerIndex? true creature).map fun (place : Nat) => seating.index place

end Reseated

variable {seating : Seating}

theorem Target.subject_reseated (target : Target) :
    (target.reseated seating).subject = target.subject := by
  cases target <;> rfl

namespace Context

variable (context : Context)

/-- The acting creature stays the same, like everything that names no player. -/
theorem creature_reseated : (context.reseated seating).creature = context.creature :=
  rfl

theorem inGame_reseated : (context.reseated seating).inGame = context.inGame :=
  rfl

theorem targeted_reseated :
    (context.reseated seating).target.bind Target.subject = context.target.bind Target.subject := by
  unfold reseated
  cases context.target with
  | none => rfl
  | some target => exact target.subject_reseated

theorem trapCreature_reseated : (context.reseated seating).trapCreature = context.trapCreature := by
  unfold trapCreature
  rw [targeted_reseated]
  rfl

end Context

/-- A reference names someone else's card after the seating exactly if it did before. -/
theorem Seating.map_index_ne (seating : Seating) (index other : Option Int) :
    (index.map seating.index != other.map seating.index) = (index != other) := by
  have same : index.map seating.index = other.map seating.index ↔ index = other :=
    (Option.map_injective seating.injective).eq_iff
  by_cases equal : index = other
  · simp [equal]
  · rw [bne_iff_ne.2 equal, bne_iff_ne.2 (mt same.1 equal)]

section Candidates

variable (seating : Seating) (board : Board) (players : List Player) (owner : Option Int)

theorem Board.cardCandidates_reseated (viewer : Option Context) (shown : Bool)
    (cards : List CardId) :
    { board with players }.cardCandidates (viewer.map (Context.reseated seating)) shown cards =
      (board.cardCandidates viewer shown cards).map (Candidate.reseated seating) := by
  unfold Board.cardCandidates
  rw [List.map_map]
  cases viewer <;> rfl

theorem Board.placeCandidates_reseated (viewer : Option Context) (shown : Bool) (places : Places) :
    { board with players }.placeCandidates (viewer.map (Context.reseated seating)) shown places =
      (board.placeCandidates viewer shown places).map (List.map (Candidate.reseated seating)) := by
  have shownAs := board.cardCandidates_reseated seating players viewer shown
  unfold Board.placeCandidates
  cases places.full with
  | error failure => rfl
  | ok cards => exact congrArg Except.ok (shownAs cards)

theorem Board.sortedCandidates_reseated (shown : Bool) (places : Places) :
    { board with players }.sortedCandidates shown places =
      (board.sortedCandidates shown places).map (List.map (Candidate.reseated seating)) := by
  have shownAs := board.cardCandidates_reseated seating players none shown
  unfold Board.sortedCandidates
  cases places.full with
  | error failure => rfl
  | ok cards => exact congrArg Except.ok (shownAs _)

/-- Candidates carry the index of their owner and look the same otherwise. -/
theorem Board.creatureCandidates_reseated (creatures : List CardId) :
    creatures.map ({ board with players }.creatureCandidate (owner.map seating.index)) =
      (creatures.map (board.creatureCandidate owner)).map (Candidate.reseated seating) := by
  rw [List.map_map]
  rfl

theorem Board.pileCandidates_reseated (kind : TargetKind) (pile : Places) (rule : Card → Bool) :
    { board with players }.pileCandidates kind (owner.map seating.index) pile rule =
      (board.pileCandidates kind owner pile rule).map (Candidate.reseated seating) := by
  unfold Board.pileCandidates
  rw [List.map_map]
  rfl

end Candidates

namespace Seating.Seats

variable {board : Board} {players : List Player} (seats : seating.Seats board players)
  (context : Context)

include seats

theorem actor : (context.reseated seating).actor { board with players } = context.actor board := by
  unfold Context.actor Context.reseated
  cases context.player with
  | none => rfl
  | some place => exact seats.player place

theorem rival : (context.reseated seating).rival { board with players } = context.rival board := by
  unfold Context.rival Context.reseated
  cases context.opponent with
  | none => rfl
  | some place => exact seats.player place

theorem friendlyCreatures : { board with players }.friendlyCreatures (context.reseated seating) =
    board.friendlyCreatures context := by
  unfold Board.friendlyCreatures
  rw [seats.actor]
  rfl

theorem enemyCreatures : { board with players }.enemyCreatures (context.reseated seating) =
    board.enemyCreatures context := by
  unfold Board.enemyCreatures
  rw [seats.rival]
  rfl

theorem otherFriendlies (excluded : Option CardId) :
    { board with players }.otherFriendlies (context.reseated seating) excluded =
      board.otherFriendlies context excluded := by
  unfold Board.otherFriendlies
  rw [seats.friendlyCreatures]

theorem targetableEnemies (rule : CardId → Bool) :
    { board with players }.targetableEnemies (context.reseated seating) rule =
      board.targetableEnemies context rule := by
  unfold Board.targetableEnemies Board.visibleEnemies
  rw [seats.enemyCreatures]
  rfl

theorem targetableFriendlies (rule : CardId → Bool) :
    { board with players }.targetableFriendlies (context.reseated seating) rule =
      board.targetableFriendlies context rule := by
  unfold Board.targetableFriendlies
  rw [seats.friendlyCreatures]
  rfl

theorem mixedTargets (rule : CardId → Bool) :
    { board with players }.mixedTargets (context.reseated seating) rule =
      board.mixedTargets context rule := by
  unfold Board.mixedTargets
  rw [seats.targetableEnemies, seats.targetableFriendlies]
  rfl

section Combat

theorem currentOnField (inGame : Bool) (captured : CardId) (owner : Option Int) :
    { board with players }.currentOnField inGame captured (owner.map seating.index) =
      board.currentOnField inGame captured owner := by
  have known : (owner.map seating.index).bind ({ board with players } : Board).player? =
      owner.bind board.player? := by
    cases owner with
    | none => rfl
    | some index => exact seats.known index
  unfold Board.currentOnField
  rw [known]
  rfl

theorem refreshed (captured : CardId) :
    { board with players }.refreshed (context.reseated seating) captured =
      board.refreshed context captured := by
  have current (owner : Option Int) := seats.currentOnField context.inGame captured owner
  have isSome : (context.playerIndex.map seating.index).isSome = context.playerIndex.isSome :=
    Option.isSome_map
  unfold Board.refreshed Context.reseated
  dsimp only
  rw [current, current, isSome]

theorem freshTrapCreature : { board with players }.freshTrapCreature (context.reseated seating) =
    board.freshTrapCreature context := by
  unfold Board.freshTrapCreature
  rw [context.trapCreature_reseated]
  exact congrArg (context.trapCreature.map ·)
    (funext fun captured => seats.refreshed context captured)

theorem freshAttacker : { board with players }.freshAttacker (context.reseated seating) =
    board.freshAttacker context :=
  congrArg (context.attacker.map ·) (funext fun captured => seats.refreshed context captured)

theorem creatureInRole (role : Value) :
    { board with players }.creatureInRole (context.reseated seating) role =
      board.creatureInRole context role := by
  unfold Board.creatureInRole
  rw [context.targeted_reseated, seats.freshAttacker]
  rfl

theorem ownerIndex? (inGame : Bool) (creature : CardId) :
    ({ board with players }.ownerIndex? inGame creature).map Int.ofNat =
      (board.ownerIndex? inGame creature).map fun (place : Nat) => seating.index place := by
  cases inGame with
  | true => exact seats.owner creature
  | false => rfl

end Combat

section Pools

theorem webbedEnemies : { board with players }.webbedEnemies (context.reseated seating) =
    board.webbedEnemies context := by
  unfold Board.webbedEnemies
  rw [seats.enemyCreatures]

theorem friendlyWith (rule : Card → Bool) :
    Board.friendlyWith rule { board with players } (context.reseated seating) =
      Board.friendlyWith rule board context := by
  unfold Board.friendlyWith
  rw [seats.friendlyCreatures]

theorem allCreatures : Effect.allCreatures { board with players } (context.reseated seating) =
    Effect.allCreatures board context := by
  unfold Effect.allCreatures
  rw [seats.friendlyCreatures, seats.enemyCreatures]

theorem otherCreatures : Effect.otherCreatures { board with players } (context.reseated seating) =
    Effect.otherCreatures board context := by
  have others := seats.otherFriendlies context context.creature
  unfold Effect.otherCreatures
  rw [seats.enemyCreatures]
  exact congrArg (· ++ board.enemyCreatures context) others

theorem massacred (rule : Effect.MassacreRule) :
    Effect.massacred { board with players } (context.reseated seating) rule =
      Effect.massacred board context rule := by
  unfold Effect.massacred
  rw [seats.friendlyCreatures, seats.enemyCreatures]

theorem enemyTokens : Effect.enemyTokens { board with players } (context.reseated seating) =
    Effect.enemyTokens board context := by
  unfold Effect.enemyTokens
  rw [seats.enemyCreatures]

theorem totalShell : Effect.totalShell { board with players } (context.reseated seating) =
    Effect.totalShell board context := by
  unfold Effect.totalShell
  rw [seats.friendlyWith]

theorem buffTargets (target : Option String) :
    Effect.buffTargets { board with players } (context.reseated seating) target =
      Effect.buffTargets board context target := by
  unfold Effect.buffTargets
  rw [seats.friendlyCreatures, seats.targetableEnemies]

theorem handSpells (chosen : List CardId) :
    Effect.handSpells (context.reseated seating) chosen { board with players } =
      Effect.handSpells context chosen board := by
  unfold Effect.handSpells
  rw [seats.actor]

theorem spellCandidates (chosen : List CardId) :
    Effect.spellCandidates (context.reseated seating) chosen { board with players } =
      (Effect.spellCandidates context chosen board).map
        (List.map (Candidate.reseated seating)) := by
  have shownAs := board.cardCandidates_reseated seating players none true
  unfold Effect.spellCandidates
  rw [seats.handSpells]
  cases Effect.handSpells context chosen board with
  | error failure => rfl
  | ok spells => exact congrArg Except.ok (shownAs spells)

theorem holds (condition : Condition) :
    condition.holds (context.reseated seating) { board with players } =
      condition.holds context board := by
  unfold Condition.holds
  rw [seats.actor, seats.friendlyCreatures, seats.enemyCreatures]

/-- In a trap, the rival of a discard still sits opposite the defender. -/
theorem discardRival : Effect.discardRival { board with players } (context.reseated seating) =
    ((Effect.discardRival board context).1.map seating.index,
      (Effect.discardRival board context).2) := by
  have rival := seats.rival context
  unfold Effect.discardRival
  cases trapped : context.defenderIndex with
  | none =>
      have untrapped : (context.reseated seating).defenderIndex = none := by
        rw [Context.reseated, trapped]
        rfl
      rw [untrapped]
      exact congrArg (Prod.mk _) rival
  | some defender =>
      have stillTrapped :
          (context.reseated seating).defenderIndex = some (seating.index defender) := by
        rw [Context.reseated, trapped]
        rfl
      rw [stillTrapped]
      dsimp only
      rw [seating.opposite, seats.known]
      rfl

end Pools

section Candidates

variable (rule : CardId → Bool)

theorem friendlyCandidates :
    { board with players }.friendlyCandidates (context.reseated seating) rule =
    (board.friendlyCandidates context rule).map (Candidate.reseated seating) := by
  unfold Board.friendlyCandidates
  rw [seats.friendlyCreatures]
  exact board.creatureCandidates_reseated seating players context.playerIndex _

theorem enemyCandidates : { board with players }.enemyCandidates (context.reseated seating) rule =
    (board.enemyCandidates context rule).map (Candidate.reseated seating) := by
  unfold Board.enemyCandidates
  rw [seats.targetableEnemies]
  exact board.creatureCandidates_reseated seating players context.opponentIndex _

theorem mixedCandidates (others : List Candidate) :
    { board with players }.mixedCandidates (context.reseated seating) rule
        (others.map (Candidate.reseated seating)) =
      (board.mixedCandidates context rule others).map (Candidate.reseated seating) := by
  unfold Board.mixedCandidates
  rw [seats.targetableEnemies, seats.enemyCandidates]
  have lured :
      ({ board with players } : Board).hasLureAmong (board.targetableEnemies context rule) =
      board.hasLureAmong (board.targetableEnemies context rule) := rfl
  rw [lured]
  split
  · rfl
  · rw [List.map_append]

theorem selfCandidate : { board with players }.selfCandidate (context.reseated seating) =
    (board.selfCandidate context).reseated seating := by
  unfold Board.selfCandidate
  rw [seats.actor]
  rfl

theorem rivalCandidate : { board with players }.rivalCandidate (context.reseated seating) =
    (board.rivalCandidate context).reseated seating := by
  unfold Board.rivalCandidate
  rw [seats.rival]
  rfl

theorem rivalLabel : Effect.rivalLabel { board with players } (context.reseated seating) =
    Effect.rivalLabel board context := by
  unfold Effect.rivalLabel
  rw [seats.rival]

theorem creatureOrRivalCandidates :
    Effect.creatureOrRivalCandidates { board with players } (context.reseated seating) =
      (Effect.creatureOrRivalCandidates board context).map (Candidate.reseated seating) := by
  unfold Effect.creatureOrRivalCandidates
  rw [seats.targetableEnemies, seats.targetableFriendlies, seats.rivalLabel]
  have lured :
      ({ board with players } : Board).hasLureAmong (board.targetableEnemies context anyCard) =
      board.hasLureAmong (board.targetableEnemies context anyCard) := rfl
  have theirs := board.creatureCandidates_reseated seating players context.opponentIndex
    (board.targetableEnemies context anyCard)
  have own := board.creatureCandidates_reseated seating players context.playerIndex
    (board.targetableFriendlies context anyCard)
  dsimp only
  rw [lured]
  split
  · exact theirs
  · rw [List.map_append, List.map_append, ← theirs, ← own]
    rfl

/-- Every target group offers the same, with the indices moved along. -/
theorem groupCandidates (group : TargetGroup) :
    { board with players }.groupCandidates (context.reseated seating) group =
      (board.groupCandidates context group).map (List.map (Candidate.reseated seating)) := by
  have friendly (rule : CardId → Bool) := seats.friendlyCandidates context rule
  have enemy (rule : CardId → Bool) := seats.enemyCandidates context rule
  have mixed (rule : CardId → Bool) {others counterparts : List Candidate}
      (same : counterparts = others.map (Candidate.reseated seating)) :
      { board with players }.mixedCandidates (context.reseated seating) rule counterparts =
        (board.mixedCandidates context rule others).map (Candidate.reseated seating) := by
    rw [same, seats.mixedCandidates]
  have self := seats.selfCandidate context
  have rival := seats.rivalCandidate context
  have pile := board.pileCandidates_reseated seating players
  unfold Board.groupCandidates
  cases group with
  | friendlyCreatures | friendlyPrey | friendlyPredators => exact congrArg Except.ok (friendly _)
  | enemyCreatures | enemyPrey => exact congrArg Except.ok (enemy _)
  | allCreatures | allPrey | otherCreatures => exact congrArg Except.ok (mixed _ (friendly _))
  | friendlyEntities => exact congrArg Except.ok (congrArg₂ List.cons self (friendly _))
  | enemyEntities => exact congrArg Except.ok (mixed _ (congrArg (List.cons · []) rival))
  | allEntities =>
      exact congrArg Except.ok
        (mixed _ (congrArg₂ List.cons self (congrArg₂ List.cons rival (friendly _))))
  | rival => exact congrArg (fun candidate => Except.ok [candidate]) rival
  | self => exact congrArg (fun candidate => Except.ok [candidate]) self
  | carrionPredators | handPrey | friendlyCarrion =>
      dsimp only
      rw [seats.actor]
      cases context.actor board with
      | none => rfl
      | some player => exact congrArg Except.ok (pile context.playerIndex _ _ _)
  | carrion =>
      dsimp only
      rw [seats.actor, seats.rival]
      cases context.actor board with
      | none => rfl
      | some player =>
          have mine := pile context.playerIndex .carrion player.carrion fun _ => true
          have theirs (rival : Player) :=
            pile context.opponentIndex .carrion rival.carrion fun _ => true
          refine congrArg Except.ok ?_
          rw [List.map_append]
          cases context.rival board with
          | none => exact congrArg₂ List.append mine rfl
          | some rival => exact congrArg₂ List.append mine (theirs rival)

end Candidates

end Seating.Seats

end CreatureCards
