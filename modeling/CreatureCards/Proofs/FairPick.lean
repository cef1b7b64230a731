import CreatureCards.Proofs.PickProcedure

/-!
# Fair picks

A procedure is fair if every pool that it builds obeys the law of targeting on
the board on which it is built: those of the questions that are asked at once,
those of the questions that continuations ask on the boards of later moments,
those from which a single candidate is taken without asking, and the one from
which a creature is drawn at random.  The effects that pick creatures and cards
for themselves are fair.
-/

namespace CreatureCards

open Engine

/-- The context acts on the same behalf as another one. -/
def Context.ActsFor (context other : Context) : Prop :=
  context.player = other.player ∧ context.opponent = other.opponent ∧
    context.creature = other.creature

/-- The pool that is found whenever the pick is shown obeys the law at that moment.
Picks that are put off offer no creatures of the rival. -/
def LawfulWheneverShown (context : Context)
    (candidates : Board → Except Failure (List Candidate)) : Prop :=
  ∀ moment : Board, moment.Separated context → ∀ found, candidates moment = .ok found →
    Lawful moment context none (found.map Candidate.subject)

/-- The pool obeys the law on the board, and whenever the pick is shown, its members
are found again in some order. -/
def LawfulOnceSettled (board : Board) (context : Context)
    (candidates : Board → Except Failure (List Candidate)) : Prop :=
  ∃ pool, Lawful board context none pool ∧
    ∀ moment found, candidates moment = .ok found → (found.map Candidate.subject).Perm pool

namespace Procedure

variable {react : Reactor} {given : Effect → Prop}

/-- Every pool of the procedure obeys the law of targeting when the run takes place
on the board, with continuations that run on boards of any later moment; and
nested definitions are resolved on the same behalf. -/
def Fair (context : Context) : {running : Engine Outcome} → Procedure react given running →
    Board → Prop
  | _, act _, _ => True
  | _, @first _ _ _ _ running _ _ later, board =>
    ∀ value isGood, (∃ session after, running board session = (.ok value, after)) →
      (later value isGood).Fair context board
  | _, @branch _ _ condition _ _ _ whenTrue whenFalse, board =>
    (condition → whenTrue.Fair context board) ∧ (¬ condition → whenFalse.Fair context board)
  | _, @pickCard _ _ demand _ _ candidates _ later, board =>
    Lawful board context (demand.map fun rule => rule board) (candidates.map Candidate.subject) ∧
      ∀ moment : Board, moment.Separated context → ∀ id, (later id).Fair context moment
  | _, @pickRef _ _ demand _ _ candidates _ later, board =>
    Lawful board context (demand.map fun rule => rule board) (candidates.map Candidate.subject) ∧
      ∀ moment : Board, moment.Separated context → ∀ ref, (later ref).Fair context moment
  | _, @pickLater _ _ settled _ _ _ candidates _ _ _ later, board =>
    (if settled then LawfulOnceSettled board context candidates
      else LawfulWheneverShown context candidates) ∧
      ∀ moment : Board, moment.Separated context → ∀ id, (later id).Fair context moment
  | _, @drawCard _ _ demand pool _ later, board =>
    Lawful board context (demand.map fun rule => rule board) (pool.map some) ∧
      ∀ id, (later id).Fair context board
  | _, offer later, _ =>
    ∀ moment : Board, moment.Separated context → ∀ choice, (later choice).Fair context moment
  | _, reacting _ _ spared, board => spared.Fair context board
  | _, orNothing procedure, board => procedure.Fair context board
  | _, @nested _ _ _ inner _, _ => inner.ActsFor context
  | _, @sideBySide _ _ _ inner _, _ => inner.ActsFor context
  | _, handOver _ _ _, _ => True
  | _, behind _ procedure, board => procedure.Fair context board
  | _, same _ procedure, board => procedure.Fair context board

section Steps

variable {context : Context} {board : Board}

theorem fair_reading {next : Board → Engine Outcome}
    {later : (board : Board) → Procedure react given (next board)}
    (fair : (later board).Fair context board) : (reading later).Fair context board := by
  rintro value - ⟨session, after, ran⟩
  cases ran
  exact fair

theorem fair_telling {message : String} {next : Unit → Engine Outcome}
    {later : Procedure react given (next ())} (fair : later.Fair context board) :
    (@telling react given message next later).Fair context board :=
  fun _ _ _ => fair

theorem fair_unlessReacting {target : CardId} {inner : Context} {result : Outcome}
    (silent : result.silent = true) :
    (@unlessReacting react given target inner result silent).Fair context board :=
  trivial

theorem fair_onPool {pool : Board → Context → List CardId} {missing : String}
    {act : Context → List CardId → Engine Outcome}
    {each : (creatures : List CardId) → Procedure react given (act context creatures)}
    (fair : (each (pool board context)).Fair context board) :
    (@onPool react given context pool missing act each).Fair context board :=
  fair_reading ⟨fun _ => trivial, fun _ => fair⟩

/-- What follows a picked creature that may react asks nothing. -/
theorem fair_pickFrom {pool : Board → Context → (CardId → Bool) → List CardId}
    {asked : Effect.CreaturePick} {build : CardId → Effect}
    (straight : ∀ target, Straight (build target context))
    (lawful : Lawful board context (some fun id => asked.rule (board.card id))
      ((pool board context fun id => asked.rule (board.card id)).map some)) :
    (@pickFrom react given context pool asked build straight).Fair context board := by
  refine fair_reading ⟨fun _ => trivial, fun _ =>
    ⟨?_, fun moment _ target => ⟨fun _ => ?_, fun _ => ?_⟩⟩⟩
  · rw [Board.subjects_cardCandidates]
    exact lawful
  · exact fair_reading (fair_telling fun _ silent _ => fair_unlessReacting silent)
  · exact fun _ silent _ => fair_unlessReacting silent

theorem fair_pickEnemy {asked : Effect.CreaturePick} {build : CardId → Effect}
    (straight : ∀ target, Straight (build target context)) :
    (@pickEnemy react given context asked build straight).Fair context board :=
  fair_pickFrom straight (.of_targetableEnemies _)

theorem fair_pickAny (separated : board.Separated context) {asked : Effect.CreaturePick}
    {build : CardId → Effect} (straight : ∀ target, Straight (build target context)) :
    (@pickAny react given context asked build straight).Fair context board :=
  fair_pickFrom straight (.of_mixedTargets separated _)

/-- A pick among cards. -/
theorem fair_pickCard {demand : Option Demand} {style : PickStyle} {title : String}
    {viewer : Option Context} {shown : Bool} {cards : List CardId}
    {answer : CardId → Engine Outcome} {later : (id : CardId) → Procedure react given (answer id)}
    (lawful : Lawful board context (demand.map fun rule => rule board) (cards.map some))
    (each : ∀ moment : Board, moment.Separated context → ∀ id, (later id).Fair context moment) :
    (@pickCard react given demand style title (board.cardCandidates viewer shown cards) answer
      later).Fair context board :=
  ⟨(Board.subjects_cardCandidates viewer shown cards).symm ▸ lawful, each⟩

/-- A pick among the cards in places that stand off the field. -/
theorem fair_pickPlaces (separated : board.Separated context) {style : PickStyle} {title : String}
    {viewer : Option Context} {shown : Bool} {places : Places} {candidates : List Candidate}
    {answer : CardId → Engine Outcome} {later : (id : CardId) → Procedure react given (answer id)}
    (found : board.placeCandidates viewer shown places = .ok candidates)
    (elsewhere : ∀ id, some id ∈ places → ∃ seat region, region ≠ .field ∧
      board.Holds context seat region id)
    (each : ∀ moment : Board, moment.Separated context → ∀ id, (later id).Fair context moment) :
    (@pickCard react given none style title candidates answer later).Fair context board := by
  refine ⟨.of_elsewhere fun id member => ?_, each⟩
  rw [Board.subjects_placeCandidates found] at member
  obtain ⟨seat, region, pile, holds⟩ := elsewhere id member
  exact separated.not_enemy holds fun field => pile field.2

end Steps

section Picks

variable {context : Context} {board : Board}

theorem fair_selectTarget (separated : board.Separated context) (pool : Value) {effect : Effect}
    {each : (aimed : Context) → Procedure react given (effect aimed)}
    (fair : ∀ aimed, aimed.ActsFor context → ∀ moment, (each aimed).Fair context moment) :
    (@selectTarget react given context pool effect each).Fair context board := by
  refine fair_reading ⟨fun _ => trivial, fun nonempty => fair_pickCard ?_ ?_⟩
  · by_cases friendly : pool.isText "friendly" = true
    · simp only [if_pos friendly]
      refine .of_elsewhere fun id member => ?_
      obtain ⟨_, found, ⟨⟩⟩ := List.mem_map.1 member
      exact separated.friendly_not_enemy found
    simp only [if_neg friendly] at nonempty ⊢
    by_cases enemy : pool.isText "enemy" = true
    · simp only [if_pos enemy]
      exact .of_targetableEnemies anyCard
    simp only [if_neg enemy] at nonempty ⊢
    by_cases either : pool.isText "any" = true
    · simp only [if_pos either]
      exact .of_mixedTargets separated anyCard
    · simp only [if_neg either] at nonempty
      exact absurd rfl nonempty
  · rintro moment - id value - ⟨session, after, ran⟩
    cases ran
    exact fair { context.settled session with target := some (.card id) } ⟨rfl, rfl, rfl⟩ moment

theorem fair_selectConsume (cardType count : Value) {effect : Effect} (isGiven : given effect) :
    (@selectConsume react given context cardType count effect isGiven).Fair context board :=
  fair_reading fun _ _ _ => ⟨fun _ => trivial, fun _ => trivial⟩

theorem fair_stealCreature (targetType : Value) :
    (@stealCreature react given context targetType).Fair context board := by
  refine fair_reading ⟨fun _ => trivial, fun _ => ⟨fun _ => ?_, fun _ => ?_⟩⟩
  · exact ⟨.of_targetableEnemies anyCard, fun _ => trivial⟩
  · exact fair_pickCard (.of_targetableEnemies anyCard) fun _ _ _ => trivial

theorem fair_selectEnemyToKill :
    (@selectEnemyToKill react given context).Fair context board :=
  fair_pickEnemy _

theorem fair_selectEnemyToFreeze :
    (@selectEnemyToFreeze react given context).Fair context board :=
  fair_pickEnemy _

theorem fair_selectEnemyToReturn (title : String) :
    (@selectEnemyToReturn react given context title).Fair context board :=
  fair_pickEnemy _

theorem fair_selectEnemyCreatureForDamage (amount label : Value) :
    (@selectEnemyCreatureForDamage react given context amount label).Fair context board :=
  fair_pickEnemy _

theorem fair_selectEnemyPreyToConsume :
    (@selectEnemyPreyToConsume react given context).Fair context board :=
  fair_pickEnemy _

theorem fair_selectEnemyForKeyword (keyword : Value) :
    (@selectEnemyForKeyword react given context keyword).Fair context board :=
  fair_pickEnemy _

theorem fair_selectCreatureToRestore (separated : board.Separated context) :
    (@selectCreatureToRestore react given context).Fair context board :=
  fair_pickAny separated _

theorem fair_selectCreatureToCopy (separated : board.Separated context) :
    (@selectCreatureToCopy react given context).Fair context board :=
  fair_pickAny separated _

theorem fair_selectCreatureToTransform (separated : board.Separated context) (newCardId : Value) :
    (@selectCreatureToTransform react given context newCardId).Fair context board :=
  fair_pickAny separated _

theorem fair_selectForBuff (separated : board.Separated context) (preyOnly : Bool) (stats : Stats) :
    (@selectForBuff react given context preyOnly stats).Fair context board :=
  fair_pickAny separated _

theorem fair_eatPreyInsteadOfAttacking :
    (@eatPreyInsteadOfAttacking react given context).Fair context board :=
  fair_reading ⟨fun _ => trivial, fun _ =>
    fair_pickCard (.of_targetableEnemies _) fun _ _ _ => trivial⟩

theorem fair_damageRivalAndSelectEnemy (rivalDamage creatureDamage : Value) :
    (@damageRivalAndSelectEnemy react given context rivalDamage creatureDamage).Fair context
      board :=
  fair_reading ⟨fun _ => fair_telling trivial, fun _ =>
    fair_pickCard (.of_targetableEnemies anyCard) fun _ _ _ => fair_unlessReacting _⟩

theorem fair_selectCreatureForDamage (separated : board.Separated context)
    (amount label : Value) :
    (@selectCreatureForDamage react given context amount label).Fair context board :=
  fun _ _ _ => ⟨fun _ => trivial, fun _ => fair_pickAny separated _⟩

theorem fair_damagePicked (amount label : Value) (ref : TargetRef) :
    (@damagePicked react given context amount label ref).Fair context board :=
  ⟨fun _ => fair_telling trivial, fun _ _ _ _ =>
    fair_reading (fair_telling (fair_unlessReacting _))⟩

theorem fair_selectTargetForDamage (separated : board.Separated context) (amount label : Value) :
    (@selectTargetForDamage react given context amount label).Fair context board :=
  fair_reading ⟨.of_creatureOrRival separated, fun _ _ ref => fair_damagePicked amount label ref⟩

theorem fair_healAndSelectTargetForDamage (separated : board.Separated context)
    (healAmount damageAmount : Value) :
    (@healAndSelectTargetForDamage react given context healAmount damageAmount).Fair context
      board :=
  fair_telling (fair_reading
    ⟨.of_creatureOrRival separated, fun _ _ ref => fair_damagePicked damageAmount _ ref⟩)

/-- A pick among friendly creatures. -/
theorem fair_pickFriendlies (separated : board.Separated context) {style : PickStyle}
    {title : String} {viewer : Option Context} {shown : Bool} {creatures : List CardId}
    {answer : CardId → Engine Outcome} {later : (id : CardId) → Procedure react given (answer id)}
    (friendly : ∀ id ∈ creatures, id ∈ board.friendlyCreatures context)
    (each : ∀ moment : Board, moment.Separated context → ∀ id, (later id).Fair context moment) :
    (@pickCard react given none style title (board.cardCandidates viewer shown creatures) answer
      later).Fair context board := by
  refine fair_pickCard (.of_elsewhere fun id member => ?_) each
  obtain ⟨_, found, ⟨⟩⟩ := List.mem_map.1 member
  exact separated.friendly_not_enemy (friendly id found)

theorem friendly_of_mem_friendlyWith {rule : Card → Bool} :
    ∀ id ∈ board.friendlyWith rule context, id ∈ board.friendlyCreatures context :=
  fun _ member => (List.mem_filter.1 member).1

theorem fair_selectPredatorForEndEffect (separated : board.Separated context) (tokenId : Value) :
    (@selectPredatorForEndEffect react given context tokenId).Fair context board :=
  fair_onPool (fair_reading
    (fair_pickFriendlies separated friendly_of_mem_friendlyWith fun _ _ _ => trivial))

theorem fair_drawAndEmpowerPredator (separated : board.Separated context)
    (drawCount tokenId : Value) :
    (@drawAndEmpowerPredator react given context drawCount tokenId).Fair context board :=
  fair_reading ⟨fun _ => fair_telling trivial, fun _ =>
    fair_telling (fair_selectPredatorForEndEffect separated tokenId)⟩

theorem fair_selectFriendlyCreatureToSacrifice (separated : board.Separated context) :
    (@selectFriendlyCreatureToSacrifice react given context).Fair context board :=
  fair_onPool (fair_reading
    (fair_pickFriendlies separated (fun _ found => found) fun _ _ _ => trivial))

end Picks

section Creatures

variable {context : Context} {board : Board}

theorem fair_addKeyword (separated : board.Separated context) (shape : AddKeywordShape) :
    (@addKeyword react given context shape).Fair context board :=
  ⟨fun _ => trivial, fun _ => ⟨fun _ => fair_reading ⟨fun _ => trivial, fun _ =>
    fair_pickCard (.of_mixedTargets separated anyCard) fun _ _ _ => trivial⟩, fun _ => trivial⟩⟩

theorem lawful_buffTargets (separated : board.Separated context) (target : Option String)
    (nonempty : ¬ (Effect.buffTargets board context target).2.isEmpty = true) :
    Lawful board context ((buffDemand target).map fun rule => rule board)
      ((Effect.buffTargets board context target).2.map some) := by
  unfold Effect.buffTargets at nonempty ⊢
  split at nonempty
  · refine .of_elsewhere fun id member => ?_
    obtain ⟨_, found, ⟨⟩⟩ := List.mem_map.1 member
    exact separated.friendly_not_enemy (List.mem_filter.1 found).1
  · refine .of_elsewhere fun id member => ?_
    obtain ⟨_, found, ⟨⟩⟩ := List.mem_map.1 member
    exact separated.friendly_not_enemy found
  · exact .of_targetableEnemies anyCard
  · exact absurd rfl nonempty

theorem fair_buff (separated : board.Separated context) (shape : BuffShape) :
    (@buff react given context shape).Fair context board :=
  ⟨fun _ => trivial, fun _ => ⟨fun _ => trivial, fun _ => fair_reading
    ⟨fun _ => trivial, fun nonempty =>
      fair_pickCard (lawful_buffTargets separated shape.target nonempty) fun _ _ _ => trivial⟩⟩⟩

theorem fair_destroy (shape : DestroyShape) :
    (@destroy react given context shape).Fair context board :=
  fair_reading ⟨fun _ => trivial, fun _ => ⟨fun _ => trivial, fun _ => ⟨fun _ =>
    ⟨fun _ => trivial, fun _ =>
      fair_pickCard (.of_targetableEnemies anyCard) fun _ _ _ => trivial⟩, fun _ => trivial⟩⟩⟩

end Creatures

section Zones

variable {context : Context} {board : Board}

/-- What stands in the acting player's hand. -/
theorem inHand {player : Player} (seated : context.actor board = some player) {places : Places}
    (among : ∀ place ∈ places, place ∈ player.hand) :
    ∀ id, some id ∈ places → ∃ seat region, region ≠ .field ∧ board.Holds context seat region id :=
  fun _ member => ⟨.acting, .hand, by simp, player, seated, among _ member⟩

theorem fair_selectCardToDiscard (separated : board.Separated context) (count : Value) :
    (@selectCardToDiscard react given context count).Fair context board :=
  fair_reading fun _ seated _ => ⟨fun _ => trivial, fun _ _ found _ =>
    fair_pickPlaces separated found (inHand seated fun _ member => member) fun _ _ _ => trivial⟩

theorem fair_selectAndDiscard (separated : board.Separated context) (count : Value) :
    (@selectAndDiscard react given context count).Fair context board :=
  fair_reading fun _ seated _ => ⟨fun _ => trivial, fun _ _ found _ =>
    fair_pickPlaces separated found (inHand seated fun _ member => (List.mem_filter.1 member).1)
      fun _ _ _ => trivial⟩

theorem fair_forceOpponentDiscard (separated : board.Separated context) (count : Value) :
    (@forceOpponentDiscard react given context count).Fair context board := by
  refine fair_reading ⟨fun _ => trivial, fun _ _ found _ =>
    fair_pickPlaces separated found (fun id member => ?_) fun _ _ _ => trivial⟩
  change some id ∈ (Effect.discardRival board context).2.elim [] Player.hand at member
  cases chosen : (Effect.discardRival board context).2 with
  | none => simp [chosen] at member
  | some rival =>
      rw [chosen, Option.elim_some] at member
      obtain ⟨seat, seated⟩ := Board.exists_seat_discardRival chosen
      exact ⟨seat, .hand, by simp, rival, seated, member⟩

/-- Cards of the acting player that are not on the field are none of the rival's
creatures. -/
theorem lawful_ownPile (separated : board.Separated context) {player : Player}
    (seated : context.actor board = some player) (region : Region) (pile : region ≠ .field)
    {pool : List (Option CardId)} (among : ∀ id, some id ∈ pool → some id ∈ player.region region) :
    Lawful board context none pool :=
  .of_elsewhere fun id member =>
    separated.not_enemy (Board.holds_acting seated (among id member))
      fun field => pile field.2

theorem lawful_handSpells (separated : board.Separated context) {chosen spells : List CardId}
    (found : Effect.handSpells context chosen board = .ok spells) :
    Lawful board context none (spells.map some) :=
  .of_elsewhere fun id member => by
    obtain ⟨_, isSpell, ⟨⟩⟩ := List.mem_map.1 member
    exact separated.not_enemy (Board.holds_of_mem_handSpells found isSpell) (by simp)

theorem fair_tutorFromDeck (separated : board.Separated context) (cardType : Value) :
    (@tutorFromDeck react given context cardType).Fair context board := by
  refine fair_reading fun player seated _ => ⟨fun _ => trivial, fun _ => ?_⟩
  generalize valid : player.deck.filter (Effect.cardTypeRule board cardType) = pool
  match pool with
  | [] => trivial
  | [_] => trivial
  | one :: other :: rest =>
      refine ⟨⟨one :: other :: rest, ?_, fun _ _ found => Board.perm_sortedCandidates found⟩,
        fun _ _ _ => trivial⟩
      refine lawful_ownPile separated seated .deck (by simp) fun id member => ?_
      rw [← valid] at member
      exact (List.mem_filter.1 member).1

theorem fair_selectCreatureFromDeckWithKeyword (separated : board.Separated context)
    (keyword : Value) :
    (@selectCreatureFromDeckWithKeyword react given context keyword).Fair context board := by
  refine fair_reading fun player seated _ => ⟨fun _ => trivial, fun _ =>
    fair_pickCard (lawful_ownPile separated seated .deck (by simp) fun id member => ?_)
      fun _ _ _ => trivial⟩
  obtain ⟨_, found, ⟨⟩⟩ := List.mem_map.1 member
  exact Places.mem_cards.1 (List.mem_filter.1 (Board.mem_sorted.1 found)).1

/-- Candidates for spells in hand, whenever they are looked for. -/
theorem lawful_spellCandidates {moment : Board} (separated : moment.Separated context)
    {chosen : List CardId} {candidates : List Candidate}
    (found : Effect.spellCandidates context chosen moment = .ok candidates) :
    Lawful moment context none (candidates.map Candidate.subject) := by
  unfold Effect.spellCandidates at found
  cases spells : Effect.handSpells context chosen moment with
  | error failure =>
      rw [spells] at found
      cases found
  | ok ids =>
      rw [spells] at found
      cases found
      rw [Board.subjects_cardCandidates]
      exact lawful_handSpells separated spells

theorem fair_playSpell (several : Bool) (left step : Nat) (chosen : List CardId) (spell : CardId) :
    (@playSpell react given context several left step chosen spell).Fair context board := by
  induction left generalizing step chosen spell board with
  | zero => trivial
  | succ left ih =>
      refine fair_reading fun _ _ _ => ⟨fun _ => fair_telling trivial, fun _ => ?_⟩
      exact ⟨fun _ separated _ => lawful_spellCandidates separated, fun _ _ _ => ih _ _ _⟩

theorem fair_playSpellsFromHand (separated : board.Separated context) (count : Value) :
    (@playSpellsFromHand react given context count).Fair context board :=
  fair_reading fun _ found _ => ⟨fun _ => trivial, fun _ _ _ _ =>
    fair_pickCard (lawful_handSpells separated found) fun _ _ _ => fair_playSpell _ _ _ _ _⟩

theorem fair_playSpellFromHand (separated : board.Separated context) :
    (@playSpellFromHand react given context).Fair context board :=
  fair_reading fun _ found _ => ⟨fun _ => trivial, fun _ =>
    fair_pickCard (lawful_handSpells separated found) fun _ _ _ =>
      fair_reading (fair_telling trivial)⟩

theorem fair_tutorThenPlay (card : CardId) :
    (@tutorThenPlay react given context card).Fair context board := by
  refine fair_reading fun _ _ _ => ⟨fun _ => fair_telling trivial, fun _ =>
    ⟨fun moment separated candidates found => ?_, fun _ _ _ => trivial⟩⟩
  obtain ⟨spells, isSpells, made⟩ := bind_eq_ok.1 found
  cases made
  rw [Board.subjects_cardCandidates]
  refine .of_elsewhere fun id member => ?_
  obtain ⟨_, sorted, ⟨⟩⟩ := List.mem_map.1 member
  exact separated.not_enemy (Board.holds_of_mem_handSpells isSpells (Board.mem_sorted.1 sorted))
    (by simp)

theorem fair_tutorAndPlaySpell : (@tutorAndPlaySpell react given context).Fair context board := by
  refine fair_reading fun _ _ _ => ⟨fun _ => trivial, fun _ =>
    ⟨fun moment separated candidates found => ?_, fun _ _ card => fair_tutorThenPlay card⟩⟩
  dsimp only at found
  split at found
  · rename_i player seated
    exact lawful_ownPile separated seated .deck (by simp) fun id member =>
      (Board.perm_sortedCandidates found).mem_iff.1 member
  · cases found

theorem fair_drawThenDiscard (drawCount discardCount : Value) :
    (@drawThenDiscard react given context drawCount discardCount).Fair context board := by
  refine fair_telling
    ⟨fun moment separated candidates found => ?_, fun _ _ _ => trivial⟩
  dsimp only at found
  split at found
  · rename_i player seated
    refine lawful_ownPile separated seated .hand (by simp) fun id member => ?_
    rw [Board.subjects_placeCandidates found] at member
    exact member
  · cases found

theorem fair_discardThenKill (card : CardId) :
    (@discardThenKill react given context card).Fair context board :=
  fair_reading ⟨fun _ => fair_telling trivial, fun _ =>
    fair_pickCard (.of_targetableEnemies anyCard) fun _ _ _ => fair_unlessReacting _⟩

theorem fair_discardDrawAndKillEnemy (separated : board.Separated context) :
    (@discardDrawAndKillEnemy react given context).Fair context board :=
  fair_reading fun _ seated _ => ⟨fun _ => trivial, fun _ _ found _ =>
    fair_pickPlaces separated found (inHand seated fun _ member => member)
      fun _ _ card => fair_discardThenKill card⟩

end Zones

section Tribes

variable {context : Context} {board : Board}

theorem fair_webTarget : (@webTarget react given context).Fair context board :=
  fair_onPool (fair_reading
    (fair_pickCard (.of_targetableEnemies anyCard) fun _ _ _ => trivial))

theorem fair_enterStalkMode (separated : board.Separated context) :
    (@enterStalkMode react given context).Fair context board :=
  fair_onPool (fair_reading
    (fair_pickFriendlies separated friendly_of_mem_friendlyWith fun _ _ _ => trivial))

theorem fair_pickFriendly (separated : board.Separated context) {rule : Card → Bool}
    {missing title : String} {change : CardId → Engine Outcome}
    (straight : ∀ target, Straight (change target)) :
    (@pickFriendly react given context rule missing title change straight).Fair context board :=
  fair_onPool (fair_reading
    (fair_pickFriendlies separated friendly_of_mem_friendlyWith fun _ _ _ => trivial))

theorem fair_damageEqualToStalkBonus :
    (@damageEqualToStalkBonus react given context).Fair context board :=
  fair_reading ⟨fun _ => trivial, fun _ => ⟨fun _ => trivial, fun _ =>
    fair_pickCard (.of_targetableEnemies anyCard) fun _ _ _ => trivial⟩⟩

theorem fair_damageEqualToTotalShell :
    (@damageEqualToTotalShell react given context).Fair context board :=
  fair_reading ⟨fun _ => trivial, fun _ => ⟨fun _ => trivial, fun _ _ _ _ =>
    ⟨(Board.subjects_healthCandidates _).symm ▸ .of_targetableEnemies anyCard,
      fun _ _ _ => trivial⟩⟩⟩

end Tribes

end Procedure

end CreatureCards
