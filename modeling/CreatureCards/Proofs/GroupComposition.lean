import CreatureCards.Proofs.TargetingLaw
import CreatureCards.Proofs.BrokenAnswer

/-!
# How target groups compose

The groups that reach both sides offer what the groups of the two sides offer, unless a
creature of the rival has Lure and may be selected: then they offer what the group of the
rival's side offers, and that is creatures with Lure alone.  Whatever a group offers
belongs to the side that its owner index names, and no group offers anything twice, as
long as no card object stands in two places.
-/

namespace CreatureCards

/-- All places of a player. -/
def Player.places (player : Player) : Places :=
  player.field ++ player.hand ++ player.deck ++ player.carrion

/-- The places whose cards are picked as objects of the kind. -/
def Player.pool (player : Player) : TargetKind → Places
  | .creature => player.field
  | .hand => player.hand
  | .carrion => player.carrion
  | .player | .other _ => []

/-- Both sides of the context are there, and no card object stands in two of their
places. -/
structure Board.Opposed (board : Board) (context : Context) (player rival : Player) : Prop where
  acting : context.actor board = some player
  opposing : context.rival board = some rival
  single : (player.places.cards ++ rival.places.cards).Nodup

/-- The candidate is one of the two players, or refers to a card that stands where objects
of the kind are picked from and bears the index of the side on which the card stands. -/
def Candidate.IsTagged (board : Board) (context : Context) (player rival : Player)
    (candidate : Candidate) : Prop :=
  candidate = board.selfCandidate context ∨ candidate = board.rivalCandidate context ∨
    ∃ reference id, candidate.value = .ref reference ∧ reference.subject = some id ∧
      (id ∈ (player.pool reference.kind).cards ∨ id ∈ (rival.pool reference.kind).cards) ∧
      (id ∈ (player.pool reference.kind).cards → reference.ownerIndex = context.playerIndex) ∧
      (id ∈ (rival.pool reference.kind).cards → reference.ownerIndex = context.opponentIndex)

/-- The candidates are tagged truthfully, and neither a card object nor a player is among
them twice. -/
structure Board.OffersTruly (board : Board) (context : Context) (player rival : Player)
    (candidates : List Candidate) : Prop where
  tagged : ∀ candidate ∈ candidates, candidate.IsTagged board context player rival
  cards : (candidates.filterMap Candidate.subject).Nodup
  players : (candidates.filter fun candidate => candidate.subject.isNone).Sublist
    [board.selfCandidate context, board.rivalCandidate context]

/-- The groups of the two sides that make up a group of both. -/
def TargetGroup.sides : TargetGroup → Option (TargetGroup × TargetGroup)
  | allCreatures => some (friendlyCreatures, enemyCreatures)
  | allPrey => some (friendlyPrey, enemyPrey)
  | allEntities => some (friendlyEntities, enemyEntities)
  | _ => none

namespace Board

variable {board : Board} {context : Context} {player rival : Player}

theorem cards_places (player : Player) :
    player.places.cards =
      player.field.cards ++ player.hand.cards ++ player.deck.cards ++ player.carrion.cards := by
  simp only [Player.places, Places.cards, List.filterMap_append]

namespace Opposed

/-- The cards in one pool of either side. -/
theorem nodup_pools (opposed : board.Opposed context player rival) (kind : TargetKind) :
    ((player.pool kind).cards ++ (rival.pool kind).cards).Nodup := by
  have pool_sublist (side : Player) : (side.pool kind).cards.Sublist side.places.cards := by
    rw [cards_places]
    cases kind with
    | creature =>
        exact ((List.sublist_append_left _ _).trans (List.sublist_append_left _ _)).trans
          (List.sublist_append_left _ _)
    | hand =>
        exact ((List.sublist_append_right _ _).trans (List.sublist_append_left _ _)).trans
          (List.sublist_append_left _ _)
    | carrion => exact List.sublist_append_right _ _
    | player | other name => exact List.nil_sublist _
  exact opposed.single.sublist ((pool_sublist player).append (pool_sublist rival))

theorem not_both (opposed : board.Opposed context player rival) {kind : TargetKind} {id : CardId}
    (own : id ∈ (player.pool kind).cards) : id ∉ (rival.pool kind).cards :=
  fun theirs => (List.nodup_append.1 (opposed.nodup_pools kind)).2.2 id own id theirs rfl

theorem friendlyCreatures_sublist (opposed : board.Opposed context player rival) :
    (board.friendlyCreatures context).Sublist player.field.cards := by
  unfold friendlyCreatures
  rw [opposed.acting, Option.elim_some]
  exact List.filter_sublist

theorem targetableEnemies_sublist (opposed : board.Opposed context player rival)
    (rule : CardId → Bool) :
    (board.targetableEnemies context rule).Sublist rival.field.cards := by
  have visible : (board.visibleEnemies context rule).Sublist rival.field.cards := by
    unfold visibleEnemies enemyCreatures
    rw [opposed.opposing, Option.elim_some]
    exact List.filter_sublist.trans List.filter_sublist
  unfold targetableEnemies lured preferred
  dsimp only
  split
  · exact visible
  · exact List.filter_sublist.trans visible

/-- Candidates for cards of the two sides behind candidates for players. -/
theorem offersTruly_of_pools (opposed : board.Opposed context player rival) (kind : TargetKind)
    {candidate : Option Int → CardId → Candidate}
    (refers : ∀ owner id, ∃ reference, (candidate owner id).value = .ref reference ∧
      reference.subject = some id ∧ reference.ownerIndex = owner ∧ reference.kind = kind)
    {players : List Candidate}
    (known : players.Sublist [board.selfCandidate context, board.rivalCandidate context])
    {mine theirs : List CardId} (own : mine.Sublist (player.pool kind).cards)
    (others : theirs.Sublist (rival.pool kind).cards) :
    board.OffersTruly context player rival
      (players ++ (mine.map (candidate context.playerIndex) ++
        theirs.map (candidate context.opponentIndex))) := by
  have isPlayer (offered : Candidate) (member : offered ∈ players) :
      offered = board.selfCandidate context ∨ offered = board.rivalCandidate context := by
    simpa using known.subset member
  have noCard (offered : Candidate) (member : offered ∈ players) : offered.subject = none := by
    rcases isPlayer offered member with rfl | rfl <;> rfl
  have subject (owner : Option Int) (id : CardId) : (candidate owner id).subject = some id := by
    obtain ⟨reference, isPick, isSubject, -⟩ := refers owner id
    rw [Candidate.subject, isPick]
    exact isSubject
  have subjects (owner : Option Int) (ids : List CardId) :
      (ids.map (candidate owner)).filterMap Candidate.subject = ids := by
    rw [List.filterMap_map, show Candidate.subject ∘ candidate owner =
      some from funext (subject owner), List.filterMap_some]
  refine ⟨fun offered member => ?_, ?_, ?_⟩
  · rcases List.mem_append.1 member with isOne | isCard
    · exact (isPlayer offered isOne).imp id Or.inl
    · refine .inr (.inr ?_)
      rcases List.mem_append.1 isCard with isMine | isTheirs
      · obtain ⟨id, kept, rfl⟩ := List.mem_map.1 isMine
        obtain ⟨reference, isPick, isSubject, owned, rfl⟩ := refers context.playerIndex id
        have stands := own.subset kept
        exact ⟨reference, id, isPick, isSubject, .inl stands, fun _ => owned,
          fun elsewhere => absurd elsewhere (opposed.not_both stands)⟩
      · obtain ⟨id, kept, rfl⟩ := List.mem_map.1 isTheirs
        obtain ⟨reference, isPick, isSubject, owned, rfl⟩ := refers context.opponentIndex id
        have stands := others.subset kept
        exact ⟨reference, id, isPick, isSubject, .inr stands,
          fun elsewhere => absurd stands (opposed.not_both elsewhere), fun _ => owned⟩
  · rw [List.filterMap_append, List.filterMap_append, subjects, subjects,
      List.filterMap_eq_nil_iff.2 noCard, List.nil_append]
    exact (opposed.nodup_pools kind).sublist (own.append others)
  · have onlyCards (owner : Option Int) (ids : List CardId) :
        (ids.map (candidate owner)).filter (fun offered => offered.subject.isNone) = [] := by
      refine List.filter_eq_nil_iff.2 (List.forall_mem_map.2 fun id _ => ?_)
      rw [subject]
      exact Bool.false_ne_true
    rw [List.filter_append, List.filter_append, onlyCards, onlyCards, List.append_nil,
      List.append_nil]
    exact List.filter_sublist.trans known

/-- Candidates for creatures of both sides behind candidates for players. -/
theorem offersTruly_creatures (opposed : board.Opposed context player rival)
    {players : List Candidate}
    (known : players.Sublist [board.selfCandidate context, board.rivalCandidate context])
    {mine theirs : List CardId} (own : mine.Sublist player.field.cards)
    (others : theirs.Sublist rival.field.cards) :
    board.OffersTruly context player rival
      (players ++ (mine.map (board.creatureCandidate context.playerIndex) ++
        theirs.map (board.creatureCandidate context.opponentIndex))) :=
  opposed.offersTruly_of_pools .creature (fun _ _ => ⟨_, rfl, rfl, rfl, rfl⟩) known own others

/-- Candidates for cards in piles. -/
theorem offersTruly_piles (opposed : board.Opposed context player rival) (kind : TargetKind)
    {mine theirs : List CardId} (own : mine.Sublist (player.pool kind).cards)
    (others : theirs.Sublist (rival.pool kind).cards) :
    board.OffersTruly context player rival
      (mine.map (board.pileCandidate kind context.playerIndex) ++
        theirs.map (board.pileCandidate kind context.opponentIndex)) :=
  opposed.offersTruly_of_pools kind (fun _ _ => ⟨_, rfl, rfl, rfl, rfl⟩)
    (List.nil_sublist _) own others

theorem offersTruly_mixed (opposed : board.Opposed context player rival) (rule : CardId → Bool)
    {players : List Candidate}
    (known : players.Sublist [board.selfCandidate context, board.rivalCandidate context])
    {mine : List CardId} (own : mine.Sublist player.field.cards) :
    board.OffersTruly context player rival (board.mixedCandidates context rule
      (players ++ mine.map (board.creatureCandidate context.playerIndex))) := by
  have others := opposed.targetableEnemies_sublist rule
  unfold mixedCandidates
  dsimp only
  split
  · exact opposed.offersTruly_creatures (List.nil_sublist _) (List.nil_sublist _) others
  · rw [List.append_assoc]
    exact opposed.offersTruly_creatures known own others

/-- Every group of candidates can be offered, and it is offered truly. -/
theorem exists_groupCandidates (opposed : board.Opposed context player rival)
    (group : TargetGroup) :
    ∃ candidates, board.groupCandidates context group = .ok candidates ∧
      board.OffersTruly context player rival candidates := by
  have friends (rule : CardId → Bool) :
      ((board.friendlyCreatures context).filter rule).Sublist player.field.cards :=
    List.filter_sublist.trans opposed.friendlyCreatures_sublist
  have friendly (rule : CardId → Bool) {players : List Candidate}
      (known : players.Sublist [board.selfCandidate context, board.rivalCandidate context]) :
      board.OffersTruly context player rival
        (players ++ board.friendlyCandidates context rule) := by
    have offers := opposed.offersTruly_creatures known (friends rule) (List.nil_sublist _)
    rwa [List.map_nil, List.append_nil] at offers
  have enemies (rule : CardId → Bool) :=
    opposed.offersTruly_creatures (List.nil_sublist _) (List.nil_sublist _)
      (opposed.targetableEnemies_sublist rule)
  have nobody := List.nil_sublist [board.selfCandidate context, board.rivalCandidate context]
  have self : [board.selfCandidate context].Sublist
      [board.selfCandidate context, board.rivalCandidate context] := by simp
  have other : [board.rivalCandidate context].Sublist
      [board.selfCandidate context, board.rivalCandidate context] := by simp
  have mine (kind : TargetKind) (pile : Player → Places) (isPool : player.pool kind = pile player)
      (rule : Card → Bool) :
      board.OffersTruly context player rival
        (board.pileCandidates kind context.playerIndex (pile player) rule) := by
    have kept : ((pile player).cards.filter fun id => rule (board.card id)).Sublist
        (player.pool kind).cards := by
      rw [isPool]
      exact List.filter_sublist
    have offers := opposed.offersTruly_piles kind kept (List.nil_sublist _)
    rwa [List.map_nil, List.append_nil] at offers
  cases group
  case friendlyCreatures => exact ⟨_, rfl, friendly anyCard nobody⟩
  case friendlyPrey | friendlyPredators => exact ⟨_, rfl, friendly _ nobody⟩
  case friendlyEntities => exact ⟨_, rfl, friendly anyCard self⟩
  case enemyCreatures | enemyPrey => exact ⟨_, rfl, enemies _⟩
  case self =>
    exact ⟨_, rfl, opposed.offersTruly_creatures self (List.nil_sublist _) (List.nil_sublist _)⟩
  case rival =>
    exact ⟨_, rfl, opposed.offersTruly_creatures other (List.nil_sublist _) (List.nil_sublist _)⟩
  case allCreatures | allPrey | otherCreatures =>
    exact ⟨_, rfl, opposed.offersTruly_mixed _ nobody (friends _)⟩
  case enemyEntities => exact ⟨_, rfl, opposed.offersTruly_mixed _ other (List.nil_sublist _)⟩
  case allEntities =>
    exact ⟨_, rfl, opposed.offersTruly_mixed _ (List.Sublist.refl _) (friends anyCard)⟩
  case handPrey =>
    refine ⟨_, ?_, mine .hand Player.hand rfl Card.isPrey⟩
    simp only [groupCandidates, opposed.acting]
  case carrionPredators =>
    refine ⟨_, ?_, mine .carrion Player.carrion rfl Card.isPredator⟩
    simp only [groupCandidates, opposed.acting]
  case friendlyCarrion =>
    refine ⟨_, ?_, mine .carrion Player.carrion rfl fun _ => true⟩
    simp only [groupCandidates, opposed.acting]
  case carrion =>
    refine ⟨_, ?_, opposed.offersTruly_piles .carrion
      (List.filter_sublist (p := fun id => (fun _ => true) (board.card id)))
      (List.filter_sublist (p := fun id => (fun _ => true) (board.card id)))⟩
    simp only [groupCandidates, opposed.acting, opposed.opposing]
    rfl

end Opposed

/-- A creature with Lure is among the targets exactly if one that meets the rule may be
selected. -/
theorem hasLureAmong_targetableEnemies {rule : CardId → Bool} :
    board.hasLureAmong (board.targetableEnemies context rule) = true ↔
      ∃ id ∈ board.enemyCreatures context, rule id = true ∧
        board.canTarget (some id) context.creature = true ∧ (board.card id).hasLure = true := by
  rw [hasLureAmong_iff]
  constructor
  · rintro ⟨id, member, lure⟩
    obtain ⟨enemy, meets, visible⟩ := mem_targetableEnemies member
    exact ⟨id, enemy, meets, visible, lure⟩
  · rintro ⟨id, enemy, meets, -, lure⟩
    exact ⟨id, IsLure.mem_targetableEnemies ⟨enemy, lure⟩ meets, lure⟩

/-- Beside creatures with Lure, the rival's side offers creatures with Lure alone. -/
theorem isLure_of_mem_enemyCandidates {rule : CardId → Bool}
    (lured : board.hasLureAmong (board.targetableEnemies context rule) = true) :
    ∀ candidate ∈ board.enemyCandidates context rule, ∃ id, board.IsLure context id ∧
      candidate = board.creatureCandidate context.opponentIndex id := by
  intro candidate member
  obtain ⟨id, found, rfl⟩ := List.mem_map.1 member
  obtain ⟨lure, isTarget, hasLure⟩ := hasLureAmong_iff.1 lured
  exact ⟨id, ⟨(mem_targetableEnemies found).1,
    hasLure_of_mem_targetableEnemies isTarget hasLure found⟩, rfl⟩

theorem mixedCandidates_of_lured {rule : CardId → Bool} (others : List Candidate)
    (lured : board.hasLureAmong (board.targetableEnemies context rule) = true) :
    board.mixedCandidates context rule others = board.enemyCandidates context rule :=
  if_pos lured

theorem mixedCandidates_of_unlured {rule : CardId → Bool} (others : List Candidate)
    (unlured : ¬ board.hasLureAmong (board.targetableEnemies context rule) = true) :
    board.mixedCandidates context rule others =
      others ++ board.enemyCandidates context rule :=
  if_neg unlured

/-- The candidates of a group of both sides are those of the two sides together, or those
of the rival's side alone. -/
theorem groupCandidates_of_sides (board : Board) (context : Context)
    {whole friendly enemy : TargetGroup} {demand : Demand}
    (sides : whole.sides = some (friendly, enemy))
    (demanded : Demand.ofGroup context whole = some demand) :
    ∃ all own theirs, board.groupCandidates context whole = .ok all ∧
      board.groupCandidates context friendly = .ok own ∧
      board.groupCandidates context enemy = .ok theirs ∧
      (¬ board.hasLureAmong (board.targetableEnemies context (demand board)) = true →
        all.Perm (own ++ theirs)) ∧
      (board.hasLureAmong (board.targetableEnemies context (demand board)) = true →
        all = theirs ∧ theirs = board.enemyCandidates context (demand board)) := by
  cases whole <;> cases sides <;> cases demanded
  case allCreatures | allPrey =>
    refine ⟨_, _, _, rfl, rfl, rfl, fun unlured => ?_, fun lured => ⟨?_, rfl⟩⟩
    · exact .of_eq (mixedCandidates_of_unlured _ unlured)
    · exact mixedCandidates_of_lured _ lured
  case allEntities =>
    refine ⟨_, _, _, rfl, rfl, rfl,
      fun (unlured : ¬ board.hasLureAmong (board.targetableEnemies context anyCard) = true) => ?_,
      fun (lured : board.hasLureAmong (board.targetableEnemies context anyCard) = true) => ⟨?_, ?_⟩⟩
    · rw [mixedCandidates_of_unlured _ unlured, mixedCandidates_of_unlured _ unlured]
      -- The rival stands before the friendly creatures in one list and behind them in the other.
      exact List.Perm.cons _ List.perm_middle.symm
    · rw [mixedCandidates_of_lured _ lured, mixedCandidates_of_lured _ lured]
    · exact mixedCandidates_of_lured _ lured

end Board

/-- A group that is called by its name offers its candidates and does nothing else. -/
theorem groupTargets_name (group : TargetGroup) (context : Context) (board : Board)
    (session : Session) :
    groupTargets (.text group.name) context board session =
      (board.groupCandidates context group, session) := by
  have known : TargetGroup.ofValue? (.text group.name) = some group := by cases group <;> rfl
  unfold groupTargets
  rw [known]
  change Engine.orFail (board.groupCandidates context group) board session = _
  cases board.groupCandidates context group <;> rfl

/-- A group that is called by its name offers the candidates on the board, whatever the
session. -/
def Board.Offers (board : Board) (context : Context) (group : TargetGroup)
    (candidates : List Candidate) : Prop :=
  ∀ session, groupTargets (.text group.name) context board session = (.ok candidates, session)

theorem Board.offers_of_groupCandidates {board : Board} {context : Context} {group : TargetGroup}
    {candidates : List Candidate} (made : board.groupCandidates context group = .ok candidates) :
    board.Offers context group candidates := by
  intro session
  rw [groupTargets_name, made]

/-- Where no card object stands in two places, every group offers its candidates with the
index of the side that each of them belongs to, and none of them twice.  Unless a creature
of the rival that meets the demand of a group of both sides has Lure and may be selected,
that group offers what the groups of the two sides offer together; else it offers what the
group of the rival's side offers, and that is creatures with Lure alone. -/
theorem target_groups_compose {board : Board} {context : Context} {player rival : Player}
    (opposed : board.Opposed context player rival) :
    (∀ whole friendly enemy demand, whole.sides = some (friendly, enemy) →
      Demand.ofGroup context whole = some demand →
      ∃ all own theirs, board.Offers context whole all ∧ board.Offers context friendly own ∧
        board.Offers context enemy theirs ∧
        ((∀ id ∈ board.enemyCreatures context, demand board id = true →
            board.canTarget (some id) context.creature = true → (board.card id).hasLure = false) →
          all.Perm (own ++ theirs)) ∧
        ((∃ id ∈ board.enemyCreatures context, demand board id = true ∧
            board.canTarget (some id) context.creature = true ∧ (board.card id).hasLure = true) →
          all = theirs ∧ ∀ candidate ∈ theirs, ∃ id, board.IsLure context id ∧
            candidate = board.creatureCandidate context.opponentIndex id)) ∧
    ∀ group, ∃ candidates, board.Offers context group candidates ∧
      board.OffersTruly context player rival candidates := by
  constructor
  · intro whole friendly enemy demand sides demanded
    obtain ⟨all, own, theirs, isAll, isOwn, isTheirs, unlured, lured⟩ :=
      Board.groupCandidates_of_sides board context sides demanded
    refine ⟨all, own, theirs, Board.offers_of_groupCandidates isAll,
      Board.offers_of_groupCandidates isOwn, Board.offers_of_groupCandidates isTheirs,
      fun lureless => unlured fun anyLure => ?_, fun anyLure => ?_⟩
    · obtain ⟨id, enemy, meets, visible, lure⟩ := Board.hasLureAmong_targetableEnemies.1 anyLure
      exact Bool.false_ne_true ((lureless id enemy meets visible).symm.trans lure)
    · have among := Board.hasLureAmong_targetableEnemies.2 anyLure
      obtain ⟨same, made⟩ := lured among
      exact ⟨same, made ▸ Board.isLure_of_mem_enemyCandidates among⟩
  · intro group
    obtain ⟨candidates, made, truly⟩ := opposed.exists_groupCandidates group
    exact ⟨candidates, Board.offers_of_groupCandidates made, truly⟩

/-- Two creatures of the rival beside one of the acting player's own. -/
theorem target_groups_compose_in_a_duel :
    ∃ player rival, touchyBoard.Opposed duel player rival ∧
      ∃ all own theirs, touchyBoard.Offers duel .allEntities all ∧
        touchyBoard.Offers duel .friendlyEntities own ∧
        touchyBoard.Offers duel .enemyEntities theirs ∧ all.Perm (own ++ theirs) := by
  have opposed : touchyBoard.Opposed duel {} { field := [some touchy, some calm, none] } :=
    ⟨rfl, rfl, by decide⟩
  obtain ⟨all, own, theirs, offered, offeredOwn, offeredTheirs, together, -⟩ :=
    (target_groups_compose opposed).1 .allEntities .friendlyEntities .enemyEntities .any rfl rfl
  exact ⟨_, _, opposed, all, own, theirs, offered, offeredOwn, offeredTheirs,
    together (by decide)⟩

end CreatureCards
