import CreatureCards.GroupPick
import CreatureCards.ZoneEffect

/-!
# The law of targeting

What a pool owes to the creatures of the rival.  Those that it holds can be
selected by the acting creature; if one of them has Lure, it holds nothing but
creatures of the rival with Lure; and if it holds creatures of the rival at all,
it leaves out none with Lure that meets its own demand.  Pools of other cards
and of players obey the law because no card object stands in two regions.
-/

namespace CreatureCards

/-- Where the cards of a player stand. -/
inductive Region where
  | field
  | hand
  | deck
  | carrion
  deriving DecidableEq, Repr

def Player.region (player : Player) : Region → Places
  | .field => player.field
  | .hand => player.hand
  | .deck => player.deck
  | .carrion => player.carrion

/-- Who a player is to a context. -/
inductive Seat where
  | acting
  | rival
  /-- A player on neither side, by the place among the players. -/
  | beside (place : Nat)
  deriving DecidableEq, Repr

def Context.seated (context : Context) (board : Board) : Seat → Option Player
  | .acting => context.actor board
  | .rival => context.rival board
  | .beside place =>
    if context.player = some place ∨ context.opponent = some place then none
    else board.players[place]?

namespace Board

/-- The card object stands in the region of the player on the seat. -/
def Holds (board : Board) (context : Context) (seat : Seat) (region : Region)
    (id : CardId) : Prop :=
  ∃ player, context.seated board seat = some player ∧ some id ∈ player.region region

/-- No card object stands in two regions. -/
def Separated (board : Board) (context : Context) : Prop :=
  ∀ ⦃id seat other region another⦄, board.Holds context seat region id →
    board.Holds context other another id → seat = other ∧ region = another

/-- The card object is a creature on the rival's field that has Lure. -/
def IsLure (board : Board) (context : Context) (id : CardId) : Prop :=
  id ∈ board.enemyCreatures context ∧ (board.card id).hasLure = true

end Board

/-- The card object that a choice is or refers to. -/
def Choice.subject : Choice → Option CardId
  | card id => some id
  | ref reference => reference.subject
  | number _ | option _ => none

def Candidate.subject (candidate : Candidate) : Option CardId :=
  candidate.value.subject

/-- The pool obeys the rules of targeting.  Its members are given by the card
objects that they are or refer to, and the demand, if there is one, says which
creatures of the rival it offers. -/
structure Lawful (board : Board) (context : Context) (demand : Option (CardId → Bool))
    (pool : List (Option CardId)) : Prop where
  /-- Every creature of the rival among the members can be selected. -/
  selectable : ∀ id, some id ∈ pool → id ∈ board.enemyCreatures context →
    board.canTarget (some id) context.creature = true
  /-- A creature of the rival with Lure leaves only such creatures. -/
  lured : ∀ id, some id ∈ pool → board.IsLure context id →
    ∀ member ∈ pool, ∃ other, member = some other ∧ board.IsLure context other
  /-- No creature of the rival with Lure that meets the demand is left out. -/
  complete : ∀ rule, demand = some rule → ∀ id, board.IsLure context id → rule id = true →
    some id ∈ pool
  /-- Every creature of the rival among the members meets the demand. -/
  demanded : ∀ id, some id ∈ pool → id ∈ board.enemyCreatures context →
    ∃ rule, demand = some rule ∧ rule id = true

/-- What a question asks of the creatures of the rival that it offers. -/
abbrev Demand := Board → CardId → Bool

namespace Demand

/-- Any creature of the rival may be offered. -/
def any : Demand := fun _ => anyCard

/-- Prey of the rival may be offered. -/
def prey : Demand := fun board id => (board.card id).isPrey

/-- What a target group asks of the creatures of the rival that it offers, if it
offers any. -/
def ofGroup (context : Context) : TargetGroup → Option Demand
  | .enemyCreatures | .allCreatures | .enemyEntities | .allEntities => some any
  | .enemyPrey | .allPrey => some prey
  | .otherCreatures => some fun _ id => some id != context.creature
  | .friendlyCreatures | .friendlyEntities | .rival | .self | .friendlyPrey | .friendlyPredators
  | .carrionPredators | .handPrey | .carrion | .friendlyCarrion => none

end Demand

variable {board : Board} {context : Context}

namespace Board

theorem holds_of_mem_enemyCreatures {id : CardId} (member : id ∈ board.enemyCreatures context) :
    board.Holds context .rival .field id := by
  unfold enemyCreatures at member
  cases seated : context.rival board with
  | none => simp [seated] at member
  | some player =>
      rw [seated, Option.elim_some] at member
      exact ⟨player, seated, Places.mem_cards.1 (List.mem_filter.1 member).1⟩

theorem holds_acting {player : Player} (seated : context.actor board = some player)
    {region : Region}
    {id : CardId} (stands : some id ∈ player.region region) :
    board.Holds context .acting region id :=
  ⟨player, seated, stands⟩

theorem holds_of_mem_friendlyCreatures {id : CardId}
    (member : id ∈ board.friendlyCreatures context) : board.Holds context .acting .field id := by
  unfold friendlyCreatures at member
  cases seated : context.actor board with
  | none => simp [seated] at member
  | some player =>
      rw [seated, Option.elim_some] at member
      exact ⟨player, seated, Places.mem_cards.1 (List.mem_filter.1 member).1⟩

namespace Separated

/-- What stands elsewhere is no creature of the rival. -/
theorem not_enemy (separated : board.Separated context) {id : CardId} {seat : Seat}
    {region : Region} (holds : board.Holds context seat region id)
    (elsewhere : ¬ (seat = .rival ∧ region = .field)) :
    id ∉ board.enemyCreatures context :=
  fun enemy => elsewhere (separated holds (holds_of_mem_enemyCreatures enemy))

theorem friendly_not_enemy (separated : board.Separated context) {id : CardId}
    (member : id ∈ board.friendlyCreatures context) : id ∉ board.enemyCreatures context :=
  separated.not_enemy (holds_of_mem_friendlyCreatures member) (by simp)

end Separated

theorem mem_targetableEnemies {rule : CardId → Bool} {id : CardId}
    (member : id ∈ board.targetableEnemies context rule) :
    id ∈ board.enemyCreatures context ∧ rule id = true ∧
      board.canTarget (some id) context.creature = true := by
  have visible : id ∈ board.visibleEnemies context rule := by
    unfold targetableEnemies lured preferred at member
    dsimp only at member
    split at member
    · exact member
    · exact (List.mem_filter.1 member).1
  simpa [visibleEnemies] using visible

/-- A creature with Lure that meets the rule can be selected. -/
theorem IsLure.mem_visibleEnemies {rule : CardId → Bool} {id : CardId}
    (lure : board.IsLure context id) (meets : rule id = true) :
    id ∈ board.visibleEnemies context rule := by
  simp [visibleEnemies, lure.1, meets, canTarget, lure.2]

theorem IsLure.mem_targetableEnemies {rule : CardId → Bool} {id : CardId}
    (lure : board.IsLure context id) (meets : rule id = true) :
    id ∈ board.targetableEnemies context rule := by
  have kept : id ∈ (board.visibleEnemies context rule).filter fun id => (board.card id).hasLure :=
    List.mem_filter.2 ⟨lure.mem_visibleEnemies meets, lure.2⟩
  unfold targetableEnemies lured preferred
  dsimp only
  split
  · exact lure.mem_visibleEnemies meets
  · exact kept

/-- A creature with Lure leaves only such creatures to be selected. -/
theorem hasLure_of_mem_targetableEnemies {rule : CardId → Bool} {id other : CardId}
    (member : id ∈ board.targetableEnemies context rule) (lure : (board.card id).hasLure = true)
    (another : other ∈ board.targetableEnemies context rule) :
    (board.card other).hasLure = true := by
  unfold targetableEnemies lured preferred at member another
  dsimp only at member another
  split at member
  · rename_i empty
    have kept : id ∈ (board.visibleEnemies context rule).filter fun id => (board.card id).hasLure :=
      List.mem_filter.2 ⟨member, lure⟩
    rw [List.isEmpty_iff.1 empty] at kept
    cases kept
  · rename_i nonempty
    rw [if_neg nonempty] at another
    exact (List.mem_filter.1 another).2

theorem hasLureAmong_iff {pool : List CardId} :
    board.hasLureAmong pool = true ↔ ∃ id ∈ pool, (board.card id).hasLure = true := by
  simp [hasLureAmong]

end Board

namespace Lawful

/-- Creatures of the rival found by the rules of targeting. -/
theorem of_targetableEnemies (rule : CardId → Bool) :
    Lawful board context (some rule) ((board.targetableEnemies context rule).map some) where
  selectable id member _ := by
    obtain ⟨_, found, ⟨⟩⟩ := List.mem_map.1 member
    exact (Board.mem_targetableEnemies found).2.2
  lured id member lure other another := by
    obtain ⟨_, found, ⟨⟩⟩ := List.mem_map.1 member
    obtain ⟨_, foundToo, rfl⟩ := List.mem_map.1 another
    exact ⟨_, rfl, (Board.mem_targetableEnemies foundToo).1,
      Board.hasLure_of_mem_targetableEnemies found lure.2 foundToo⟩
  complete := by
    rintro _ ⟨⟩ id lure meets
    exact List.mem_map_of_mem (lure.mem_targetableEnemies meets)
  demanded id member _ := by
    obtain ⟨_, found, ⟨⟩⟩ := List.mem_map.1 member
    exact ⟨rule, rfl, (Board.mem_targetableEnemies found).2.1⟩

/-- A pool without creatures of the rival. -/
theorem of_elsewhere {pool : List (Option CardId)}
    (elsewhere : ∀ id, some id ∈ pool → id ∉ board.enemyCreatures context) :
    Lawful board context none pool where
  selectable id member enemy := absurd enemy (elsewhere id member)
  lured id member lure := absurd lure.1 (elsewhere id member)
  complete := by
    rintro rule ⟨⟩
  demanded id member enemy := absurd enemy (elsewhere id member)

/-- Creatures of the rival beside others, which give way to those with Lure. -/
theorem of_mixed {rule : CardId → Bool} {others pool : List (Option CardId)}
    (elsewhere : ∀ id, some id ∈ others → id ∉ board.enemyCreatures context)
    (lured : board.hasLureAmong (board.targetableEnemies context rule) = true →
      pool = (board.targetableEnemies context rule).map some)
    (unlured : ¬ board.hasLureAmong (board.targetableEnemies context rule) = true →
      ∀ member, member ∈ pool ↔
        member ∈ others ∨ member ∈ (board.targetableEnemies context rule).map some) :
    Lawful board context (some rule) pool := by
  have law := @of_targetableEnemies board context rule
  by_cases anyLure : board.hasLureAmong (board.targetableEnemies context rule) = true
  · exact lured anyLure ▸ law
  · have members := unlured anyLure
    have found {id : CardId} (member : some id ∈ pool) (enemy : id ∈ board.enemyCreatures context) :
        some id ∈ (board.targetableEnemies context rule).map some :=
      ((members (some id)).1 member).resolve_left fun other => elsewhere id other enemy
    have noLure {id : CardId} (member : some id ∈ (board.targetableEnemies context rule).map some) :
        ¬ (board.card id).hasLure = true := by
      obtain ⟨_, target, ⟨⟩⟩ := List.mem_map.1 member
      exact fun lure => anyLure (Board.hasLureAmong_iff.2 ⟨id, target, lure⟩)
    exact
      { selectable := fun id member enemy => law.selectable id (found member enemy) enemy
        lured := fun id member lure => absurd lure.2 (noLure (found member lure.1))
        complete := fun asked same id lure meets =>
          (members (some id)).2 (.inr (law.complete asked same id lure meets))
        demanded := fun id member enemy => law.demanded id (found member enemy) enemy }

end Lawful

namespace Board

theorem subjects_cardCandidates (viewer : Option Context) (shown : Bool) (cards : List CardId) :
    (board.cardCandidates viewer shown cards).map Candidate.subject = cards.map some := by
  simp [cardCandidates, Candidate.subject, Choice.subject, Function.comp_def]

theorem subjects_healthCandidates (cards : List CardId) :
    (Effect.healthCandidates board context cards).map Candidate.subject = cards.map some := by
  simp [Effect.healthCandidates, Candidate.subject, Choice.subject, Function.comp_def]

theorem subjects_creatureCandidates (owner : Option Int) (cards : List CardId) :
    (cards.map (board.creatureCandidate owner)).map Candidate.subject = cards.map some := by
  simp [creatureCandidate, Candidate.subject, Choice.subject, TargetRef.subject, Function.comp_def]

theorem subjects_pileCandidates (kind : TargetKind) (owner : Option Int) (pile : Places)
    (rule : Card → Bool) :
    (board.pileCandidates kind owner pile rule).map Candidate.subject =
      (pile.cards.filter fun id => rule (board.card id)).map some := by
  simp [pileCandidates, pileCandidate, Candidate.subject, Choice.subject, TargetRef.subject,
    Function.comp_def]

@[simp]
theorem subject_playerCandidate (label : String) (index : Option Int) :
    (playerCandidate label index).subject = none := rfl

theorem full_eq_ok {places : Places} {cards : List CardId} (full : places.full = .ok cards) :
    places = cards.map some := by
  induction places generalizing cards with
  | nil =>
      cases full
      rfl
  | cons place rest ih =>
      rw [Places.full, List.mapM_cons] at full
      obtain ⟨id, found, later⟩ := bind_eq_ok.1 full
      obtain ⟨ids, foundRest, made⟩ := bind_eq_ok.1 later
      cases made
      cases place with
      | none => cases found
      | some card =>
          cases found
          rw [List.map_cons, ih foundRest]

theorem subjects_placeCandidates {viewer : Option Context} {shown : Bool} {places : Places}
    {candidates : List Candidate}
    (found : board.placeCandidates viewer shown places = .ok candidates) :
    candidates.map Candidate.subject = places := by
  obtain ⟨cards, full, made⟩ := bind_eq_ok.1 found
  cases made
  rw [subjects_cardCandidates, full_eq_ok full]

theorem mem_sorted {cards : List CardId} {id : CardId} : id ∈ board.sorted cards ↔ id ∈ cards :=
  (List.mergeSort_perm cards _).mem_iff

theorem perm_sortedCandidates {shown : Bool} {places : Places} {candidates : List Candidate}
    (found : board.sortedCandidates shown places = .ok candidates) :
    (candidates.map Candidate.subject).Perm places := by
  obtain ⟨cards, full, made⟩ := bind_eq_ok.1 found
  cases made
  rw [subjects_cardCandidates, full_eq_ok full]
  exact (List.mergeSort_perm cards _).map some

/-- Every player has a seat. -/
theorem exists_seat {place : Nat} {player : Player} (found : board.players[place]? = some player) :
    ∃ seat, context.seated board seat = some player := by
  by_cases acting : context.player = some place
  · exact ⟨.acting, by simp [Context.seated, Context.actor, acting, found]⟩
  · by_cases rival : context.opponent = some place
    · exact ⟨.rival, by simp [Context.seated, Context.rival, rival, found]⟩
    · exact ⟨.beside place, by simp [Context.seated, acting, rival, found]⟩

theorem exists_seat_discardRival {player : Player}
    (found : (Effect.discardRival board context).2 = some player) :
    ∃ seat, context.seated board seat = some player := by
  unfold Effect.discardRival at found
  split at found
  · simp only [player?] at found
    split at found
    · split at found
      · cases found
      · exact exists_seat found
    · cases found
  · exact ⟨.rival, found⟩

/-- A spell that can be played stands in the acting player's hand. -/
theorem holds_of_mem_handSpells {chosen spells : List CardId}
    (found : Effect.handSpells context chosen board = .ok spells) {id : CardId}
    (member : id ∈ spells) : board.Holds context .acting .hand id := by
  unfold Effect.handSpells at found
  split at found
  · rename_i player seated
    cases found
    exact ⟨player, seated, Places.mem_cards.1 (List.mem_filter.1 member).1⟩
  · cases found

end Board

namespace Lawful

theorem of_mixedTargets (separated : board.Separated context) (rule : CardId → Bool) :
    Lawful board context (some rule) ((board.mixedTargets context rule).map some) := by
  have elsewhere (id : CardId)
      (member : some id ∈ (board.targetableFriendlies context rule).map some) :
      id ∉ board.enemyCreatures context := by
    obtain ⟨_, found, ⟨⟩⟩ := List.mem_map.1 member
    exact separated.friendly_not_enemy (List.mem_filter.1 found).1
  refine of_mixed elsewhere (fun lured => ?_) fun unlured member => ?_
  · simp only [Board.mixedTargets, lured, if_true]
  · simp only [Board.mixedTargets, if_neg unlured, List.map_append, List.mem_append]

theorem of_mixedCandidates (rule : CardId → Bool) {others : List Candidate}
    (elsewhere : ∀ id, some id ∈ others.map Candidate.subject →
      id ∉ board.enemyCreatures context) :
    Lawful board context (some rule)
      ((board.mixedCandidates context rule others).map Candidate.subject) := by
  refine of_mixed elsewhere (fun lured => ?_) fun unlured member => ?_
  · simp only [Board.mixedCandidates, lured, if_true]
    exact Board.subjects_creatureCandidates _ _
  · simp only [Board.mixedCandidates, if_neg unlured, List.map_append, List.mem_append]
    rw [← Board.subjects_creatureCandidates context.opponentIndex]
    rfl

/-- Friendly creatures are none of the rival's. -/
theorem friendly_elsewhere (separated : board.Separated context) (rule : CardId → Bool) :
    ∀ id, some id ∈ (board.friendlyCandidates context rule).map Candidate.subject →
      id ∉ board.enemyCreatures context := by
  intro id member
  rw [Board.friendlyCandidates, Board.subjects_creatureCandidates] at member
  obtain ⟨_, found, ⟨⟩⟩ := List.mem_map.1 member
  exact separated.friendly_not_enemy (List.mem_filter.1 found).1

/-- Neither are players. -/
theorem player_elsewhere {players : List Candidate}
    (each : ∀ player ∈ players, player.subject = none) :
    ∀ id, some id ∈ players.map Candidate.subject → id ∉ board.enemyCreatures context := by
  intro id member
  obtain ⟨player, found, subject⟩ := List.mem_map.1 member
  rw [each player found] at subject
  cases subject

/-- Neither are cards that stand in a region other than a field. -/
theorem pile_elsewhere (separated : board.Separated context) (seat : Seat) {player : Player}
    (seated : context.seated board seat = some player) (region : Region) (pile : region ≠ .field)
    {kind : TargetKind} {owner : Option Int} {rule : Card → Bool} :
    ∀ id, some id ∈ (board.pileCandidates kind owner (player.region region) rule).map
      Candidate.subject → id ∉ board.enemyCreatures context := by
  intro id member
  rw [Board.subjects_pileCandidates] at member
  obtain ⟨_, found, ⟨⟩⟩ := List.mem_map.1 member
  have stands := Places.mem_cards.1 (List.mem_filter.1 found).1
  exact separated.not_enemy ⟨player, seated, stands⟩ fun field => pile field.2

theorem elsewhere_append {pool others : List Candidate}
    (here : ∀ id, some id ∈ pool.map Candidate.subject → id ∉ board.enemyCreatures context)
    (there : ∀ id, some id ∈ others.map Candidate.subject → id ∉ board.enemyCreatures context) :
    ∀ id, some id ∈ (pool ++ others).map Candidate.subject →
      id ∉ board.enemyCreatures context := by
  intro id member
  rw [List.map_append, List.mem_append] at member
  exact member.elim (here id) (there id)

/-- The creatures of both sides beside the rival. -/
theorem of_creatureOrRival (separated : board.Separated context) :
    Lawful board context (some anyCard)
      ((Effect.creatureOrRivalCandidates board context).map Candidate.subject) := by
  have elsewhere : ∀ id, some id ∈ ((board.targetableFriendlies context anyCard).map
      (board.creatureCandidate context.playerIndex) ++
        [playerCandidate (Effect.rivalLabel board context) context.opponentIndex]).map
          Candidate.subject → id ∉ board.enemyCreatures context := by
    refine elsewhere_append (fun id member => ?_)
      (player_elsewhere (by simp [Board.subject_playerCandidate]))
    rw [Board.subjects_creatureCandidates] at member
    obtain ⟨_, found, ⟨⟩⟩ := List.mem_map.1 member
    exact separated.friendly_not_enemy (List.mem_filter.1 found).1
  refine of_mixed elsewhere (fun lured => ?_) fun unlured member => ?_
  · simp only [Effect.creatureOrRivalCandidates, lured, if_true]
    exact Board.subjects_creatureCandidates _ _
  · simp only [Effect.creatureOrRivalCandidates, if_neg unlured, List.map_append, List.mem_append]
    rw [← @Board.subjects_creatureCandidates board context.opponentIndex]
    exact or_right_comm

/-- Cards in a pile of the acting player are none of the rival's creatures. -/
theorem own_elsewhere (separated : board.Separated context) (region : Region)
    (pile : region ≠ .field) {kind : TargetKind} {rule : Card → Bool} {candidates : List Candidate}
    (found : (match context.actor board with
      | some player =>
        .ok (board.pileCandidates kind context.playerIndex (player.region region) rule)
      | none => .error Failure.missingPart) = Except.ok candidates) :
    ∀ id, some id ∈ candidates.map Candidate.subject → id ∉ board.enemyCreatures context := by
  split at found
  · rename_i player seated
    cases found
    exact pile_elsewhere separated .acting seated region pile
  · cases found

/-- Neither are cards in the carrion pile of the rival. -/
theorem theirs_elsewhere (separated : board.Separated context) :
    ∀ id, some id ∈ ((context.rival board).elim [] fun rival =>
        board.pileCandidates .carrion context.opponentIndex rival.carrion fun _ => true).map
          Candidate.subject → id ∉ board.enemyCreatures context := by
  cases seated : context.rival board with
  | none => simp
  | some player =>
      rw [Option.elim_some]
      exact pile_elsewhere separated .rival seated .carrion (by simp)

/-- Every target group obeys the law, with the demand of the group. -/
theorem of_groupCandidates (separated : board.Separated context) {group : TargetGroup}
    {candidates : List Candidate} (found : board.groupCandidates context group = .ok candidates) :
    Lawful board context ((Demand.ofGroup context group).map fun demand => demand board)
      (candidates.map Candidate.subject) := by
  have self : ∀ id, some id ∈ [board.selfCandidate context].map Candidate.subject →
      id ∉ board.enemyCreatures context := player_elsewhere (by simp [Board.selfCandidate])
  have rival : ∀ id, some id ∈ [board.rivalCandidate context].map Candidate.subject →
      id ∉ board.enemyCreatures context := player_elsewhere (by simp [Board.rivalCandidate])
  have friendly := friendly_elsewhere separated
  have enemies := fun rule => (@Board.subjects_creatureCandidates board context.opponentIndex
    (board.targetableEnemies context rule)).symm ▸ of_targetableEnemies rule
  cases group
  case friendlyCreatures => cases found; exact of_elsewhere (friendly anyCard)
  case friendlyPrey => cases found; exact of_elsewhere (friendly _)
  case friendlyPredators => cases found; exact of_elsewhere (friendly _)
  case friendlyEntities =>
    cases found; exact of_elsewhere (elsewhere_append self (friendly anyCard))
  case self => cases found; exact of_elsewhere self
  case rival => cases found; exact of_elsewhere rival
  case enemyCreatures => cases found; exact enemies anyCard
  case enemyPrey => cases found; exact enemies _
  case allCreatures => cases found; exact of_mixedCandidates anyCard (friendly anyCard)
  case allPrey => cases found; exact of_mixedCandidates _ (friendly _)
  case otherCreatures => cases found; exact of_mixedCandidates _ (friendly _)
  case enemyEntities => cases found; exact of_mixedCandidates anyCard rival
  case allEntities =>
    cases found
    exact of_mixedCandidates anyCard
      (elsewhere_append self (elsewhere_append rival (friendly anyCard)))
  case handPrey => exact of_elsewhere (own_elsewhere separated .hand (by simp) found)
  case carrionPredators => exact of_elsewhere (own_elsewhere separated .carrion (by simp) found)
  case friendlyCarrion => exact of_elsewhere (own_elsewhere separated .carrion (by simp) found)
  case carrion =>
    obtain ⟨mine, isMine, made⟩ := bind_eq_ok.1 found
    cases made
    exact of_elsewhere
      (elsewhere_append (own_elsewhere separated .carrion (by simp) isMine)
        (theirs_elsewhere separated))

end Lawful

end CreatureCards
