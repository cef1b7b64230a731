import CreatureCards.Proofs.Quiet

/-!
# Random draws

Two effect types draw at random: webbing a random enemy, and stealing a random
creature.  In a game they draw one number if there is a creature to draw, and in
all other cases none.
-/

namespace CreatureCards

open Engine

/-- The source after a draw below the bound; a draw that fails leaves it as it is. -/
def RandomSource.drawn (source : RandomSource) (bound : Nat) : RandomSource :=
  match source.draw bound with
  | .ok (_, after) => after
  | .error _ => source

section Runs

variable {α : Type} {board : Board} {session : Session}

theorem Quiet.random_eq {running : Engine α} (quiet : Quiet running) (board : Board)
    (session : Session) : (running board session).2.random = session.random := by
  induction quiet generalizing session with
  | pure | throw | board | announce | warn | settings => rfl
  | @bind _ _ running next _ _ ihFirst ihEach =>
      have first := ihFirst session
      rcases ran : running board session with ⟨failure | value, after⟩
      · rw [bind_of_error ran]
        rwa [ran] at first
      · rw [bind_of_ok ran, ihEach value after]
        rwa [ran] at first

theorem run_of_drawn {size : Int} {next : Int → Engine α} {number : Int} {after : RandomSource}
    (drawn : session.random.draw size = .ok (number, after)) :
    (Engine.draw size >>= next) board session =
      next number board { session with random := after } := by
  have draws := Engine.draw_eq size board session
  rw [drawn] at draws
  exact bind_of_ok draws

theorem run_of_undrawn {size : Int} {next : Int → Engine α} {failure : Failure}
    (failed : session.random.draw size = .error failure) :
    (Engine.draw size >>= next) board session = (.error failure, session) := by
  have draws := Engine.draw_eq size board session
  rw [failed] at draws
  exact Engine.bind_of_error draws

theorem run_congr {running other : Engine α} (same : running = other) :
    running board session = other board session := by
  rw [same]

end Runs

/-- In a game with somebody in the pool, the effect draws one number below the size
of the pool, or breaks off if it cannot; otherwise it draws nothing. -/
structure Effect.DrawsOnce (pool : Board → Context → List CardId) (effect : Effect) : Prop where
  drawn : ∀ {context board session number after}, context.inGame = true → pool board context ≠ [] →
    session.random.draw (pool board context).length = .ok (number, after) →
      (effect context board session).2.random = after
  undrawn : ∀ {context board session failure}, context.inGame = true → pool board context ≠ [] →
    session.random.draw (pool board context).length = .error failure →
      effect context board session = (.error failure, session)
  otherwise : ∀ {context board session}, ¬ (context.inGame = true ∧ pool board context ≠ []) →
    (effect context board session).2.random = session.random

/-- The source is left as by one draw below the size of the pool. -/
theorem Effect.DrawsOnce.random_eq {pool : Board → Context → List CardId} {effect : Effect}
    (once : effect.DrawsOnce pool) {context : Context} {board : Board}
    (inGame : context.inGame = true) (present : pool board context ≠ []) (session : Session) :
    (effect context board session).2.random =
      session.random.drawn (pool board context).length := by
  unfold RandomSource.drawn
  rcases draws : session.random.draw (pool board context).length with failure | ⟨number, after⟩
  · rw [once.undrawn inGame present draws]
  · exact once.drawn inGame present draws

namespace Effect

/-- The pool that creatures are stolen from. -/
def stealable (board : Board) (context : Context) : List CardId :=
  board.targetableEnemies context anyCard

/-- An effect draws once if it does so in games with somebody in the pool and is
quiet in all other cases. -/
theorem drawsOnce_of_draw {pool : Board → Context → List CardId} {effect : Effect}
    {follow : Board → Context → Int → Engine Outcome}
    (quiet : ∀ board context number, CreatureCards.Quiet (follow board context number))
    (draws : ∀ {board context}, context.inGame = true → pool board context ≠ [] → ∀ session,
      effect context board session =
        (Engine.draw (pool board context).length >>= follow board context) board session)
    (otherwise : ∀ {board context}, ¬ (context.inGame = true ∧ pool board context ≠ []) →
      ∃ running, CreatureCards.Quiet running ∧
        ∀ session, effect context board session = running board session) :
    effect.DrawsOnce pool where
  drawn := by
    intro context board session number after inGame present drawn
    rw [draws inGame present, run_of_drawn drawn]
    exact (quiet board context number).random_eq board _
  undrawn := by
    intro context board session failure inGame present failed
    rw [draws inGame present, run_of_undrawn failed]
  otherwise := by
    intro context board session not
    obtain ⟨running, isQuiet, same⟩ := otherwise not
    rw [same]
    exact isQuiet.random_eq board session

theorem drawsOnce_webRandomEnemy : webRandomEnemy.DrawsOnce Board.enemyCreatures := by
  refine drawsOnce_of_draw
    (fun board context place => quiet_webAt (board.enemyCreatures context) place) ?_ ?_
  · intro board context inGame present session
    have present : ¬ (board.enemyCreatures context).isEmpty = true := by simpa using present
    change (if (board.enemyCreatures context).isEmpty then _ else
      if context.inGame then _ else _ : Engine Outcome) board session = _
    exact run_congr ((if_neg present).trans (if_pos inGame))
  · intro board context not
    by_cases inGame : context.inGame = true
    · have empty : board.enemyCreatures context = [] := by simpa [inGame] using not
      refine ⟨_, .missing "No Rival's creatures to web.", fun session => ?_⟩
      change (if (board.enemyCreatures context).isEmpty then _ else _ : Engine Outcome) board
          session = _
      exact run_congr (if_pos (by simp [empty]))
    · exact ⟨_, quiet_webRandomEnemy inGame, fun _ => rfl⟩

theorem quiet_steal (context : Context) (target : CardId) :
    CreatureCards.Quiet (steal context target) :=
  .reading fun _ => quiet_told _ _

theorem quiet_stealAt (context : Context) (targets : List CardId) (place : Int) :
    CreatureCards.Quiet (match targets[place.toNat]? with
      | some target => steal context target
      | none => throw .missingEntry) := by
  split
  · exact quiet_steal context _
  · exact .throw (by simp)

theorem quiet_onCard {answer : CardId → Engine Outcome}
    (each : ∀ id, CreatureCards.Quiet (answer id)) :
    ∀ choice, CreatureCards.Quiet (onCard answer choice)
  | .card id => each id
  | .ref _ | .option _ | .number _ => .throw nofun

/-- Out of a game, or if no random creature is asked for, the creature is picked. -/
theorem quiet_stealPicked {targetType : Value} {context : Context}
    (picked : ¬ (targetType.isText "random" && context.inGame) = true) :
    CreatureCards.Quiet (stealCreature targetType context) := by
  refine .reading fun board => .ite (fun _ => .missing _) fun _ => ?_
  rw [if_neg picked]
  unfold pickOne
  split
  · exact .nothing
  · exact (quiet_onCard (quiet_steal context) _).bind fun _ => .pure _
  · exact .pure _

theorem drawsOnce_stealCreature {targetType : Value} (random : targetType.isText "random" = true) :
    (stealCreature targetType).DrawsOnce stealable := by
  refine drawsOnce_of_draw
    (fun board context place => quiet_stealAt context (stealable board context) place) ?_ ?_
  · intro board context inGame present session
    have present : ¬ (stealable board context).isEmpty = true := by simpa using present
    change (if (stealable board context).isEmpty then _ else
      if targetType.isText "random" && context.inGame then _ else _ : Engine Outcome) board
        session = _
    exact run_congr ((if_neg present).trans (if_pos (by simp [random, inGame])))
  · intro board context not
    by_cases inGame : context.inGame = true
    · have empty : stealable board context = [] := by simpa [inGame] using not
      refine ⟨_, .missing "No creatures to steal.", fun session => ?_⟩
      change (if (stealable board context).isEmpty then _ else _ : Engine Outcome) board session = _
      exact run_congr (if_pos (by simp [empty]))
    · exact ⟨_, quiet_stealPicked (by simp [inGame]), fun _ => rfl⟩

end Effect

/-- The pool from which an effect type draws at random, in a game. -/
def EffectKind.lottery (argument : Nat → Value) :
    EffectKind → Option (Board → Context → List CardId)
  | .webRandomEnemy => some Board.enemyCreatures
  | .stealCreature => if (argument 0).isText "random" then some Effect.stealable else none
  | _ => none

theorem EffectKind.drawsOnce_rule (react : Reactor) (argument : Nat → Value) {kind : EffectKind}
    {pool : Board → Context → List CardId} (isLottery : kind.lottery argument = some pool) :
    (kind.rule react argument).DrawsOnce pool := by
  cases kind with
  | webRandomEnemy =>
      cases isLottery
      exact Effect.drawsOnce_webRandomEnemy
  | stealCreature =>
      by_cases random : (argument 0).isText "random" = true
      · rw [lottery, if_pos random] at isLottery
        cases isLottery
        exact Effect.drawsOnce_stealCreature random
      · rw [lottery, if_neg random] at isLottery
        cases isLottery
  | _ => cases isLottery

end CreatureCards
