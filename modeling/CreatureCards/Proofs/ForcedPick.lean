import CreatureCards.Proofs.ClearedField
import CreatureCards.Proofs.PickProcedure
import CreatureCards.Proofs.WalksEnd

/-!
# Picks that are forced

A pick among the creatures of the rival that has one candidate is answered at once.  It
comes to the same as the answer of a player who picks that candidate among others: the
other candidates hide nobody who would be a candidate without them, and what follows a
picked creature looks at cards alone, not at who else stands on the field.
-/

namespace CreatureCards

open Engine

/-- The boards differ in nothing but what stands where. -/
def Board.SameCards (board later : Board) : Prop :=
  ∃ players, later = { board with players }

theorem reactWithin_of_still {board : Board} {id : CardId} (still : (board.card id).reaction = none)
    (patience : Nat) (context : Context) (session : Session) :
    reactWithin patience id context board session = (.ok .null, session) := by
  have looking {next : Board → Engine Outcome} :
      (Engine.board >>= next) board session = next board board session := rfl
  cases patience with
  | zero =>
      rw [reactWithin, looking, still]
      rfl
  | succ patience =>
      rw [reactWithin, looking, still]
      rfl

/-- The run looks at nothing on the board but the cards, and if it does not break off, it
comes to nothing or to descriptors, none of which asks anything. -/
structure CardsAlone (board : Board) (running : Engine Outcome) : Prop where
  same : ∀ later, board.SameCards later → ∀ session, running later session = running board session
  plain : ∀ session outcome after, running board session = (.ok outcome, after) →
    outcome.silent = true ∧ outcome.orNothing = outcome

namespace CardsAlone

variable {board : Board}

theorem pure {outcome : Outcome} (silent : outcome.silent = true)
    (isResult : outcome.orNothing = outcome) : CardsAlone board (return outcome) where
  same _ _ _ := rfl
  plain := by
    rintro _ _ _ ⟨⟩
    exact ⟨silent, isResult⟩

theorem nothing : CardsAlone board (return .nothing) :=
  pure (by simp) rfl

theorem throw (failure : Failure) : CardsAlone board (MonadExcept.throw failure) where
  same _ _ _ := rfl
  plain := by
    rintro _ _ _ ⟨⟩

theorem telling {message : String} {next : Unit → Engine Outcome}
    (later : CardsAlone board (next ())) : CardsAlone board (announce message >>= next) where
  same moment sameCards session := later.same moment sameCards (session.announce message)
  plain session := later.plain (session.announce message)

theorem reading {next : Board → Engine Outcome}
    (same : ∀ players, next { board with players } = next board)
    (later : CardsAlone board (next board)) : CardsAlone board (Engine.board >>= next) where
  same := by
    rintro _ ⟨players, rfl⟩ session
    change next { board with players } { board with players } session = next board board session
    rw [same players]
    exact later.same _ ⟨players, rfl⟩ session
  plain session := later.plain session

theorem requiring {α : Type} {found : Option α} {next : α → Engine Outcome}
    (each : ∀ part, found = some part → CardsAlone board (next part)) :
    CardsAlone board (require found >>= next) := by
  cases found with
  | none => exact throw .missingPart
  | some part => exact each part rfl

theorem branch {condition : Prop} [Decidable condition] {running otherwise : Engine Outcome}
    (whenTrue : condition → CardsAlone board running)
    (whenFalse : ¬ condition → CardsAlone board otherwise) :
    CardsAlone board (if condition then running else otherwise) := by
  split
  · exact whenTrue ‹_›
  · exact whenFalse ‹_›

/-- What the run comes to is looked at by another one. -/
theorem followed {running : Engine Outcome} {next : Outcome → Engine Outcome}
    (first : CardsAlone board running)
    (each : ∀ outcome, outcome.silent = true → outcome.orNothing = outcome →
      CardsAlone board (next outcome)) : CardsAlone board (running >>= next) := by
  constructor
  · intro moment sameCards session
    have same := first.same moment sameCards session
    cases ran : running board session with
    | mk result after =>
        rw [ran] at same
        cases result with
        | error failure => rw [bind_of_error ran, bind_of_error same]
        | ok outcome =>
            obtain ⟨silent, isResult⟩ := first.plain session outcome after ran
            rw [bind_of_ok ran, bind_of_ok same]
            exact (each outcome silent isResult).same moment sameCards after
  · intro session outcome after done
    cases ran : running board session with
    | mk result middle =>
        cases result with
        | error failure =>
            rw [bind_of_error ran] at done
            cases done
        | ok made =>
            obtain ⟨silent, isResult⟩ := first.plain session made middle ran
            rw [bind_of_ok ran] at done
            exact (each made silent isResult).plain middle outcome after done

/-- The card does not react, whoever selects it. -/
theorem reacting {patience : Nat} {target : CardId} {source : Option CardId} {context : Context}
    {next : Outcome → Engine Outcome} (still : (board.card target).reaction = none)
    (later : CardsAlone board (next .null)) :
    CardsAlone board (reactionOf (reactWithin patience) target source context >>= next) := by
  have unmoved (moment : Board) (sameCards : board.SameCards moment) (session : Session) :
      reactionOf (reactWithin patience) target source context moment session =
        (.ok .null, session) := by
    obtain ⟨players, rfl⟩ := sameCards
    have stillLater : (({ board with players } : Board).card target).reaction = none := still
    exact reactWithin_of_still stillLater _ _ _
  constructor
  · intro moment sameCards session
    rw [bind_of_ok (unmoved moment sameCards session),
      bind_of_ok (unmoved board ⟨board.players, rfl⟩ session)]
    exact later.same moment sameCards session
  · intro session outcome after ran
    rw [bind_of_ok (unmoved board ⟨board.players, rfl⟩ session)] at ran
    exact later.plain session outcome after ran

end CardsAlone

/-- The board on which the candidates other than this one were taken off the rival's
field. -/
def Board.sparing (board : Board) (context : Context) (candidates : List Candidate)
    (spared : Candidate) : Board :=
  board.clearing context
    ((candidates.filterMap Candidate.subject).filter fun id => some id != spared.subject)

/-- A pick of one creature of the rival, with what follows it. -/
structure EnemyQuestion where
  style : PickStyle
  title : String
  /-- The message when there is nothing to pick. -/
  missing : String
  rule : Card → Bool
  candidate : Board → CardId → Candidate
  follow : CardId → Engine Outcome

namespace EnemyQuestion

def pool (question : EnemyQuestion) (board : Board) (context : Context) : List CardId :=
  board.targetableEnemies context fun id => question.rule (board.card id)

def ask (question : EnemyQuestion) (context : Context) : Engine Outcome := do
  let board ← board
  let targets := question.pool board context
  if targets.isEmpty then
    announce question.missing
    return .nothing
  pickOne question.style question.title (targets.map (question.candidate board))
    (onCard question.follow)

/-- Candidates stand for the creatures themselves, and what follows one that does not react
looks at cards alone. -/
structure Settles (question : EnemyQuestion) (board : Board) : Prop where
  stands : ∀ later id, (question.candidate later id).value = .card id
  follows : ∀ id, (board.card id).reaction = none → CardsAlone board (question.follow id)

variable {question : EnemyQuestion} {board : Board} {context : Context} {session : Session}

/-- A run that says that there is nothing to pick, or lets the creatures be picked. -/
theorem ask_of_branch (question : EnemyQuestion) {picking : Engine Outcome}
    (picks : picking board session =
      pickOne question.style question.title
        ((question.pool board context).map (question.candidate board)) (onCard question.follow)
        board session) :
    (if (question.pool board context).isEmpty then (do
        announce question.missing
        return .nothing)
      else picking : Engine Outcome) board session = question.ask context board session := by
  change _ = (if (question.pool board context).isEmpty then _ else _ : Engine Outcome) board session
  by_cases empty : (question.pool board context).isEmpty = true
  · rw [if_pos empty, if_pos empty]
  · rw [if_neg empty, if_neg empty, picks]

theorem ask_of_nil (empty : question.pool board context = []) :
    question.ask context board session = (.ok .nothing, session.announce question.missing) := by
  change (if (question.pool board context).isEmpty = true then _ else _ : Engine Outcome) board
    session = _
  rw [empty]
  rfl

/-- A single candidate is picked at once. -/
theorem ask_of_single {only : CardId} (settles : question.Settles board)
    (still : (board.card only).reaction = none) {later : Board} (sameCards : board.SameCards later)
    (single : question.pool later context = [only]) :
    question.ask context later session = question.follow only board session := by
  have follows := settles.follows only still
  have asked : question.ask context later session =
      (question.follow only >>= fun outcome => return outcome.orNothing) later session := by
    change (if (question.pool later context).isEmpty = true then _ else _ : Engine Outcome) later
      session = _
    rw [single, List.isEmpty_cons, if_neg Bool.false_ne_true, List.map_singleton]
    change (onCard question.follow (question.candidate later only).value >>= _) later session = _
    rw [settles.stands]
    rfl
  rw [asked]
  cases ran : question.follow only board session with
  | mk result after =>
      have ranLater := (follows.same later sameCards session).trans ran
      cases result with
      | error failure => exact bind_of_error ranLater
      | ok outcome =>
          rw [bind_of_ok ranLater, (follows.plain session outcome after ran).2]
          rfl

/-- Several candidates are asked for. -/
theorem ask_of_several (several : 1 < (question.pool board context).length) :
    question.ask context board session =
      (.ok (.asking (question.style.pick question.title
        (.listed ((question.pool board context).map (question.candidate board))))
        (onCard question.follow)), session) := by
  change (if (question.pool board context).isEmpty = true then _ else _ : Engine Outcome) board
    session = _
  match question.pool board context, several with
  | first :: second :: rest, _ => rfl

theorem subjects_pool (settles : question.Settles board) :
    ((question.pool board context).map (question.candidate board)).filterMap Candidate.subject =
      question.pool board context := by
  have stands (id : CardId) : (question.candidate board id).subject = some id := by
    rw [Candidate.subject, settles.stands]
    rfl
  simp only [List.filterMap_map, Function.comp_def, stands, List.filterMap_some]

/-- The board on which all candidates but one were taken off. -/
theorem sparing_eq_clearing (settles : question.Settles board) (chosen : CardId) :
    board.sparing context ((question.pool board context).map (question.candidate board))
        (question.candidate board chosen) =
      board.clearing context ((question.pool board context).filter (· != chosen)) := by
  have isSubject : (question.candidate board chosen).subject = some chosen := by
    rw [Candidate.subject, settles.stands]
    rfl
  unfold Board.sparing
  rw [subjects_pool settles, isSubject]
  rfl

/-- Taking candidates off leaves the cards and the friendly creatures as they are. -/
theorem sparing_leaves (settles : question.Settles board) (single : (board.sideCards context).Nodup)
    (chosen : CardId) :
    let later := board.sparing context
      ((question.pool board context).map (question.candidate board))
      (question.candidate board chosen)
    board.SameCards later ∧ later.friendlyCreatures context = board.friendlyCreatures context := by
  dsimp only
  rw [sparing_eq_clearing settles]
  refine ⟨⟨_, rfl⟩, Board.friendlyCreatures_clearing single fun id taken => ?_⟩
  exact (Board.mem_targetableEnemies (List.mem_filter.1 taken).1).1

/-- What follows a picked candidate is what happens if it is the only one. -/
theorem ask_sparing (settles : question.Settles board) (single : (board.sideCards context).Nodup)
    {chosen : CardId} (target : chosen ∈ question.pool board context)
    (still : (board.card chosen).reaction = none) :
    question.ask context (board.sparing context
        ((question.pool board context).map (question.candidate board))
        (question.candidate board chosen)) session =
      question.follow chosen board session := by
  rw [sparing_eq_clearing settles]
  have alone : question.pool (board.clearing context
      ((question.pool board context).filter (· != chosen))) context = [chosen] :=
    Board.targetableEnemies_clearing single target
  exact ask_of_single settles still ⟨_, rfl⟩ alone

end EnemyQuestion

/-- On this board the effect asks nothing, or it asks a question about the creatures of the
rival, as it does on every board with the same cards and friendly creatures. -/
def Effect.PicksEnemy (context : Context) (board : Board) (run : Effect) : Prop :=
  (∀ session pick answer after, run context board session ≠ (.ok (.asking pick answer), after)) ∨
    ∃ question : EnemyQuestion, question.Settles board ∧
      ∀ later, board.SameCards later →
        later.friendlyCreatures context = board.friendlyCreatures context →
        ∀ session, run context later session = question.ask context later session

/-- A question about the creatures of the rival is asked where there are several, and the
answer with each of them is what the effect does if it is the only one. -/
theorem Effect.PicksEnemy.forced {run : Effect} {context : Context} {board : Board}
    (picks : run.PicksEnemy context board) (single : (board.sideCards context).Nodup)
    (still : ∀ id ∈ board.enemyCreatures context, (board.card id).reaction = none)
    {session after : Session} {pick : Pick} {answer : Choice → Engine Outcome}
    (prompts : run context board session = (.ok (.asking pick answer), after)) :
    ∃ candidates, pick.source.candidates board = .ok candidates ∧ after = session ∧
      ∀ candidate ∈ candidates, answer candidate.value board after =
        run context (board.sparing context candidates candidate) session := by
  obtain silent | ⟨question, settles, asks⟩ := picks
  · exact absurd prompts (silent _ _ _ _)
  have asked := asks board ⟨board.players, rfl⟩ rfl session
  rw [prompts] at asked
  have stillTarget {id : CardId} (target : id ∈ question.pool board context) :
      (board.card id).reaction = none :=
    still id (Board.mem_targetableEnemies target).1
  match found : question.pool board context with
  | [] =>
      rw [question.ask_of_nil found] at asked
      cases asked
  | [only] =>
      have stillOnly := stillTarget (found ▸ List.mem_singleton_self only)
      rw [question.ask_of_single settles stillOnly ⟨board.players, rfl⟩ found] at asked
      have silent := ((settles.follows only stillOnly).plain _ _ _ asked.symm).1
      rw [Outcome.asking, Outcome.silent_descriptor, Outcome.silent] at silent
      cases silent
  | first :: second :: rest =>
      have several : 1 < (question.pool board context).length := by
        rw [found]
        simp
      rw [question.ask_of_several several] at asked
      cases asked
      refine ⟨_, rfl, rfl, List.forall_mem_map.2 fun chosen target => ?_⟩
      obtain ⟨sameCards, friends⟩ := question.sparing_leaves settles single chosen
      rw [asks _ sameCards friends, question.ask_sparing settles single target (stillTarget target),
        settles.stands]
      rfl

namespace Effect

variable {patience : Nat} {context : Context} {board : Board}

theorem PicksEnemy.of_question {run : Effect} (question : EnemyQuestion)
    (settles : question.Settles board)
    (asks : ∀ later, board.SameCards later →
      later.friendlyCreatures context = board.friendlyCreatures context →
      ∀ session, run context later session = question.ask context later session) :
    run.PicksEnemy context board :=
  .inr ⟨question, settles, asks⟩

/-- An effect that comes to something that asks nothing. -/
theorem PicksEnemy.of_straight {run : Effect} (straight : CreatureCards.Straight (run context)) :
    run.PicksEnemy context board := by
  refine .inl fun session pick answer after asked => ?_
  have silent := straight.harmless.good_of_ok trivial asked
  rw [Outcome.asking, Outcome.silent_descriptor, Outcome.silent] at silent
  cases silent

/-- A candidate that stands for a card. -/
def cardCandidate (context : Context) (shown : Bool) (board : Board) (id : CardId) : Candidate :=
  { label := (board.card id).name
    value := .card id
    card := if shown then some id else none
    recentlyDrawn := board.highlighted (some context) id }

/-- A candidate that stands for a card and tells its health. -/
def healthCandidate (context : Context) (board : Board) (id : CardId) : Candidate :=
  let name := board.title id
  let health := Value.ofInt? (board.card id).currentHealth
  { label := some s!"{name} ({health} HP)"
    value := .card id
    recentlyDrawn := board.highlighted (some context) id }

/-- What happens to a picked creature unless it reacts. -/
def strikePicked (react : Reactor) (asked : CreaturePick) (build : CardId → Effect)
    (context : Context) (target : CardId) : Engine Outcome := do
  if asked.announced then
    let name := (← Engine.board).title target
    announce s!"Targets {name}."
  let result ← build target context
  reactionOr react target result context

theorem cardsAlone_strikePicked {asked : CreaturePick} {build : CardId → Effect} {target : CardId}
    (cardsAlone : CardsAlone board (build target context))
    (still : (board.card target).reaction = none) :
    CardsAlone board (strikePicked (reactWithin patience) asked build context target) := by
  have unlessReacting (result : Outcome) (silent : result.silent = true)
      (isResult : result.orNothing = result) :
      CardsAlone board (reactionOr (reactWithin patience) target result context) :=
    .reacting still (.pure silent isResult)
  refine .branch (fun _ => ?_) fun _ => cardsAlone.followed unlessReacting
  exact .reading (fun _ => rfl) (.telling (cardsAlone.followed unlessReacting))

/-- A pick whose picked creature may react. -/
theorem picksEnemy_pickEnemy {asked : CreaturePick} {build : CardId → Effect}
    (cardsAlone : ∀ target, CardsAlone board (build target context)) :
    (pickEnemy (reactWithin patience) asked build).PicksEnemy context board := by
  let question : EnemyQuestion := ⟨{ renderCards := asked.shown }, asked.title, asked.missing,
    asked.rule, cardCandidate context asked.shown,
    strikePicked (reactWithin patience) asked build context⟩
  refine .of_question question
    ⟨fun _ _ => rfl, fun id still => cardsAlone_strikePicked (cardsAlone id) still⟩
    fun later _ _ session => ?_
  rw [pickEnemy, pickFrom, board_bind_apply]
  exact question.ask_of_branch rfl

theorem picksEnemy_stealCreature (targetType : Value) :
    (stealCreature targetType).PicksEnemy context board := by
  by_cases random : (targetType.isText "random" && context.inGame) = true
  · exact .of_straight (Procedure.straight_stealRandom random)
  · let question : EnemyQuestion := ⟨{}, "Choose a creature to steal", "No creatures to steal.",
      fun _ => true, cardCandidate context false, steal context⟩
    refine .of_question question ⟨fun _ _ => rfl, fun id _ => ?_⟩ fun later _ _ session => ?_
    · exact .reading (fun _ => rfl) (.telling (.pure (by simp) rfl))
    · rw [stealCreature, board_bind_apply]
      exact question.ask_of_branch (congrArg (fun picking : Engine Outcome => picking later session)
        (if_neg random))

theorem picksEnemy_webTarget : webTarget.PicksEnemy context board := by
  let question : EnemyQuestion := ⟨{}, "Choose a creature to trap in web",
    "No Rival's creatures to web.", fun _ => true, cardCandidate context false, web⟩
  refine .of_question question ⟨fun _ _ => rfl, fun id _ => ?_⟩ fun later _ _ session => ?_
  · exact .reading (fun _ => rfl) <| .branch (fun _ => .nothing) fun _ => .telling <|
      .pure (by simp [Outcome.addKeyword, Outcome.keywordPayload]) rfl
  · rw [webTarget, onPool, board_bind_apply]
    exact question.ask_of_branch rfl

theorem picksEnemy_eatPreyInsteadOfAttacking :
    (eatPreyInsteadOfAttacking (reactWithin patience)).PicksEnemy context board := by
  let question : EnemyQuestion := ⟨{}, "Choose a Rival's prey to eat", "No prey to eat.",
    Card.isPrey, cardCandidate context false, eatPicked (reactWithin patience) context⟩
  refine .of_question question ⟨fun _ _ => rfl, fun id still => ?_⟩ fun later _ _ session => ?_
  · exact .reacting still <| .reading (fun _ => rfl) <| .requiring fun _ _ => .telling <|
      .pure (by simp) rfl
  · rw [eatPreyInsteadOfAttacking, board_bind_apply]
    exact question.ask_of_branch rfl

theorem picksEnemy_damageEqualToStalkBonus :
    damageEqualToStalkBonus.PicksEnemy context board := by
  let bonus := context.creature.elim 0 fun creature => (board.card creature).stalkBonus
  by_cases none : bonus = 0
  · refine .inl fun session pick answer after asked => ?_
    change (if bonus = 0 then _ else _ : Engine Outcome) board session = _ at asked
    rw [if_pos none] at asked
    cases asked
  · let question : EnemyQuestion := ⟨{}, s!"Deal {bonus} damage to target (from stalk bonus)",
      "No enemy creatures to strike.", fun _ => true, cardCandidate context false,
      damageEqualToStalkBonus.strike bonus⟩
    refine .of_question question ⟨fun _ _ => rfl, fun id _ => ?_⟩ ?_
    · exact .reading (fun _ => rfl) (.telling (.pure (by simp [Outcome.damageCreature]) rfl))
    · rintro _ ⟨players, rfl⟩ - session
      change (if bonus = 0 then _ else _ : Engine Outcome) { board with players } session = _
      rw [if_neg none]
      exact question.ask_of_branch rfl

theorem picksEnemy_damageEqualToTotalShell :
    damageEqualToTotalShell.PicksEnemy context board := by
  have total_of_friends {later : Board} (sameCards : board.SameCards later)
      (friends : later.friendlyCreatures context = board.friendlyCreatures context) :
      totalShell later context = totalShell board context := by
    obtain ⟨players, rfl⟩ := sameCards
    unfold totalShell Board.friendlyWith
    rw [friends]
  by_cases none : totalShell board context = 0
  · refine .inl fun session pick answer after asked => ?_
    change
      (if totalShell board context = 0 then _ else _ : Engine Outcome) board session = _ at asked
    rw [if_pos none] at asked
    cases asked
  cases shown : Value.shown (totalShell board context) with
  | error failure =>
      refine .inl fun session pick answer after asked => ?_
      change (if totalShell board context = 0 then _ else
        if (board.targetableEnemies context anyCard).isEmpty = true then _ else
          (orFail (Value.shown (totalShell board context)) >>= _) : Engine Outcome)
        board session = _ at asked
      rw [if_neg none, shown] at asked
      split at asked <;> cases asked
  | ok total =>
      let question : EnemyQuestion := ⟨{}, s!"Deal {total} damage (total Shell) to an enemy",
        "No enemy creatures to damage.", fun _ => true, healthCandidate context,
        damageEqualToTotalShell.crush total⟩
      refine .of_question question ⟨fun _ _ => rfl, fun id _ => ?_⟩
        fun later sameCards friends session => ?_
      · exact .reading (fun _ => rfl) (.telling (.pure (by simp [Outcome.damageCreature]) rfl))
      · change (if totalShell later context = 0 then _ else
          if (later.targetableEnemies context anyCard).isEmpty = true then _ else
            (orFail (Value.shown (totalShell later context)) >>= _) : Engine Outcome)
          later session = _
        rw [total_of_friends sameCards friends, if_neg none, shown]
        exact question.ask_of_branch rfl

theorem picksEnemy_destroy {shape : DestroyShape} (picks : shape.target = "targetEnemy") :
    (destroy shape).PicksEnemy context board := by
  let question : EnemyQuestion := ⟨{}, "Choose a Rival's creature to destroy",
    "No Rival's creatures to target.", fun _ => true, cardCandidate context false,
    destroyPicked context⟩
  refine .of_question question ⟨fun _ _ => rfl, fun id _ => ?_⟩ fun later _ _ session => ?_
  · exact .reading (fun _ => rfl) (.telling (.pure (by simp [Outcome.ownedCreatures]) rfl))
  · unfold destroy
    rw [picks, board_bind_apply]
    exact question.ask_of_branch rfl

theorem picksEnemy_buff {shape : BuffShape} (picks : shape.target = some "targetEnemy") :
    (buff shape).PicksEnemy context board := by
  let question : EnemyQuestion := ⟨{}, "Choose a Rival's creature to buff",
    "No valid targets for buff.", fun _ => true, cardCandidate context false,
    gainStats (.int shape.stats.attack) (.int shape.stats.health)⟩
  refine .of_question question ⟨fun _ _ => rfl, fun id _ => ?_⟩ fun later _ _ session => ?_
  · exact .reading (fun _ => rfl) (.telling (.pure (by simp [Outcome.buffCreature]) rfl))
  · have others : some "targetEnemy" ≠ some "friendlyCreatures" ∧
        some "targetEnemy" ≠ some "self" := by decide
    unfold buff
    dsimp only
    rw [picks, if_neg others.1, if_neg others.2, board_bind_apply]
    exact question.ask_of_branch rfl

end Effect

/-- Effect types that let the acting player pick one creature of the rival. -/
def EffectKind.picksEnemy : EffectKind → Bool
  | selectEnemyToKill | selectEnemyToFreeze | selectEnemyToReturn
  | selectEnemyToReturnToOpponentHand | selectEnemyForKeyword | selectEnemyCreatureForDamage
  | selectEnemyPreyToConsume | eatPreyInsteadOfAttacking | stealCreature | webTarget
  | damageEqualToStalkBonus | damageEqualToTotalShell => true
  | _ => false

theorem EffectKind.picksEnemy_rule {kind : EffectKind} (picks : kind.picksEnemy = true)
    (patience : Nat) (argument : Nat → Value) (context : Context) (board : Board) :
    (kind.rule (reactWithin patience) argument).PicksEnemy context board := by
  cases kind
  case selectEnemyToKill =>
    exact Effect.picksEnemy_pickEnemy fun _ => .pure (by simp) rfl
  case selectEnemyToFreeze =>
    exact Effect.picksEnemy_pickEnemy fun _ =>
      .pure (by simp [Outcome.addKeyword, Outcome.keywordPayload]) rfl
  case selectEnemyToReturn | selectEnemyToReturnToOpponentHand =>
    exact Effect.picksEnemy_pickEnemy fun _ => .pure (by simp [Effect.returnToHand]) rfl
  case selectEnemyForKeyword =>
    exact Effect.picksEnemy_pickEnemy fun _ => .reading (fun _ => rfl) <| .telling <|
      .pure (by simp [Outcome.addKeyword, Outcome.keywordPayload]) rfl
  case selectEnemyCreatureForDamage =>
    exact Effect.picksEnemy_pickEnemy fun _ => .pure (by simp [Outcome.damageCreature]) rfl
  case selectEnemyPreyToConsume =>
    exact Effect.picksEnemy_pickEnemy fun _ => .pure (by simp [Effect.consumeEnemyPrey]) rfl
  case eatPreyInsteadOfAttacking => exact Effect.picksEnemy_eatPreyInsteadOfAttacking
  case stealCreature => exact Effect.picksEnemy_stealCreature _
  case webTarget => exact Effect.picksEnemy_webTarget
  case damageEqualToStalkBonus => exact Effect.picksEnemy_damageEqualToStalkBonus
  case damageEqualToTotalShell => exact Effect.picksEnemy_damageEqualToTotalShell
  all_goals cases picks

/-- Invocations that let the acting player pick one creature of the rival. -/
def Invocation.picksEnemy {α : Type} : Invocation α → Bool
  | direct kind _ => kind.picksEnemy
  | destroy shape => shape.target == "targetEnemy"
  | buff shape => shape.target == some "targetEnemy"
  | _ => false

theorem Invocation.picksEnemy_effect {asked : Invocation Resolution}
    (picks : asked.picksEnemy = true) (patience : Nat) (settings : Settings) (context : Context)
    (board : Board) :
    (asked.effect (reactWithin patience) settings).PicksEnemy context board := by
  cases asked
  case direct kind arguments =>
    have isPick : kind.picksEnemy = true := picks
    exact EffectKind.picksEnemy_rule isPick patience (fun place => arguments.getD place .null)
      context board
  case destroy shape => exact Effect.picksEnemy_destroy (beq_iff_eq.1 picks)
  case buff shape => exact Effect.picksEnemy_buff (beq_iff_eq.1 picks)
  all_goals cases picks

/-- Picking by hand and being forced to pick come to the same.  Where no card object stands in
two places of the two sides and no creature of the rival reacts to being selected, an effect
that lets one creature of the rival be picked tells nothing before its question, and the
answer with each of the candidates comes to what the effect does, tells and fails with on the
board on which all the other candidates were taken off the rival's field. -/
theorem answers_are_forced_picks {asked : Invocation Resolution} (picks : asked.picksEnemy = true)
    (settings : Settings) {context : Context} {board : Board}
    (single : (board.sideCards context).Nodup)
    (still : ∀ id ∈ board.enemyCreatures context, (board.card id).reaction = none)
    {session after : Session} {pick : Pick} {answer : Choice → Engine Outcome}
    (prompts : asked.effect (reactWithin reactionPatience) settings context board session =
      (.ok (.asking pick answer), after)) :
    ∃ candidates, pick.source.candidates board = .ok candidates ∧ after = session ∧
      ∀ candidate ∈ candidates, answer candidate.value board after =
        asked.effect (reactWithin reactionPatience) settings context
          (board.sparing context candidates candidate) session :=
  (Invocation.picksEnemy_effect picks reactionPatience settings context board).forced single still
    prompts

/-- Two creatures of the rival, neither of which reacts. -/
theorem calm_answers_are_forced_picks :
    (calmBoard.sideCards duel).Nodup ∧
      (∀ id ∈ calmBoard.enemyCreatures duel, (calmBoard.card id).reaction = none) ∧
      let kill := (Invocation.direct EffectKind.selectEnemyToKill []).effect
        (reactWithin reactionPatience) {} duel
      ∃ pick answer candidates,
        kill calmBoard (default : Moment).session =
          (.ok (.asking pick answer), (default : Moment).session) ∧
        pick.source.candidates calmBoard = .ok candidates ∧
        candidates.map Candidate.value = [.card touchy, .card calm] ∧
        ∀ candidate ∈ candidates, answer candidate.value calmBoard (default : Moment).session =
          kill (calmBoard.sparing duel candidates candidate) (default : Moment).session := by
  have picks : (Invocation.direct EffectKind.selectEnemyToKill [] :
      Invocation Resolution).picksEnemy = true := rfl
  have sides : calmBoard.sideCards duel = [touchy, calm] := rfl
  have single : (calmBoard.sideCards duel).Nodup := sides ▸ by decide
  have still : ∀ id ∈ calmBoard.enemyCreatures duel, (calmBoard.card id).reaction = none :=
    fun _ _ => rfl
  have asks (react : Reactor) : ∃ pick answer candidates,
      (Invocation.direct EffectKind.selectEnemyToKill []).effect react {} duel calmBoard
          (default : Moment).session =
        (.ok (.asking pick answer), (default : Moment).session) ∧
      pick.source.candidates calmBoard = .ok candidates ∧
      candidates.map Candidate.value = [.card touchy, .card calm] :=
    ⟨_, _, _, rfl, rfl, rfl⟩
  obtain ⟨pick, answer, candidates, prompts, listed, values⟩ := asks (reactWithin reactionPatience)
  obtain ⟨others, listedToo, -, forced⟩ := answers_are_forced_picks picks {} single still prompts
  obtain rfl : candidates = others := Except.ok.inj (listed.symm.trans listedToo)
  exact ⟨single, still, pick, answer, candidates, prompts, listed, values, forced⟩

end CreatureCards
