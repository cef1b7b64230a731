import CreatureCards.Context
import CreatureCards.Failure

/-!
# The engine

What effects do is done in a game: the board and the session are its state, and nothing
keeps a computation from changing either.  A computation is also told by what it comes
to on a board that stays as it is, since that is all one has to follow of an engine that
only requests changes.  The two accounts go side by side through everything that
computations are built from; that they agree is a matter of what an effect does.
-/

namespace CreatureCards

/-- A game as its keeper holds it. -/
structure Game where
  board : Board
  session : Session

/-- A computation that reads the board, changes the session and may fail; a failure
keeps what was done before it. -/
structure Engine (α : Type) where
  /-- What it comes to on a board that stays as it is. -/
  seen : Board → Session → Except Failure α × Session
  /-- What it does to a game, the board included. -/
  play : Game → Except Failure α × Game

namespace Engine

variable {α β γ : Type}

instance : CoeFun (Engine α) fun _ => Board → Session → Except Failure α × Session :=
  ⟨seen⟩

@[ext]
theorem ext {running other : Engine α}
    (seen : ∀ board session, running board session = other board session)
    (play : ∀ game, running.play game = other.play game) : running = other := by
  cases running
  cases other
  congr
  · funext board session
    exact seen board session
  · funext game
    exact play game

/-- What comes after a run that succeeded; a run that broke off has nothing after it. -/
def followed {State : Type} (ran : Except Failure α × State)
    (next : α → State → Except Failure β × State) : Except Failure β × State :=
  match ran with
  | (.ok value, after) => next value after
  | (.error failure, after) => (.error failure, after)

/-- What comes after a run that broke off. -/
def rescued {State : Type} (ran : Except Failure α × State)
    (handle : Failure → State → Except Failure α × State) : Except Failure α × State :=
  match ran with
  | (.ok value, after) => (.ok value, after)
  | (.error failure, after) => handle failure after

instance : Monad Engine where
  pure value := ⟨fun _ session => (.ok value, session), fun game => (.ok value, game)⟩
  bind running next :=
    { seen := fun board session =>
        followed (running board session) fun value after => next value board after
      play := fun game => followed (running.play game) fun value later => (next value).play later }

instance : MonadExceptOf Failure Engine where
  throw failure := ⟨fun _ session => (.error failure, session), fun game => (.error failure, game)⟩
  tryCatch running handle :=
    { seen := fun board session =>
        rescued (running board session) fun failure after => handle failure board after
      play :=
        fun game => rescued (running.play game) fun failure later => (handle failure).play later }

instance : MonadStateOf Session Engine where
  get := ⟨fun _ session => (.ok session, session), fun game => (.ok game.session, game)⟩
  set session := ⟨fun _ _ => (.ok (), session), fun game => (.ok (), { game with session })⟩
  modifyGet change :=
    { seen := fun _ session => (.ok (change session).1, (change session).2)
      play := fun game =>
        (.ok (change game.session).1, { game with session := (change game.session).2 }) }

theorem bind_apply (running : Engine α) (next : α → Engine β) (board : Board) (session : Session) :
    (running >>= next) board session =
      followed (running board session) fun value after => next value board after :=
  rfl

theorem play_bind (running : Engine α) (next : α → Engine β) (game : Game) :
    (running >>= next).play game =
      followed (running.play game) fun value later => (next value).play later :=
  rfl

theorem tryCatch_apply (running : Engine α) (handle : Failure → Engine α) (board : Board)
    (session : Session) :
    tryCatch running handle board session =
      rescued (running board session) fun failure after => handle failure board after :=
  rfl

theorem play_tryCatch (running : Engine α) (handle : Failure → Engine α) (game : Game) :
    (tryCatch running handle).play game =
      rescued (running.play game) fun failure later => (handle failure).play later :=
  rfl

/-- A run that succeeded goes on from the session that it left. -/
theorem bind_of_ok {running : Engine α} {next : α → Engine β} {board : Board}
    {session after : Session} {value : α} (ran : running board session = (.ok value, after)) :
    (running >>= next) board session = next value board after := by
  rw [bind_apply, ran]
  rfl

/-- A run that broke off has nothing after it. -/
theorem bind_of_error {running : Engine α} {next : α → Engine β} {board : Board}
    {session after : Session} {failure : Failure}
    (ran : running board session = (.error failure, after)) :
    (running >>= next) board session = (.error failure, after) := by
  rw [bind_apply, ran]
  rfl

theorem tryCatch_of_ok {running : Engine α} {handle : Failure → Engine α} {board : Board}
    {session after : Session} {value : α} (ran : running board session = (.ok value, after)) :
    tryCatch running handle board session = (.ok value, after) := by
  rw [tryCatch_apply, ran]
  rfl

theorem tryCatch_of_error {running : Engine α} {handle : Failure → Engine α} {board : Board}
    {session after : Session} {failure : Failure}
    (ran : running board session = (.error failure, after)) :
    tryCatch running handle board session = handle failure board after := by
  rw [tryCatch_apply, ran]
  rfl

theorem followed_pure {State : Type} (ran : Except Failure α × State) :
    followed ran (fun value after => (.ok value, after)) = ran := by
  rcases ran with ⟨_ | _, _⟩ <;> rfl

theorem followed_followed {State : Type} (ran : Except Failure α × State)
    (next : α → State → Except Failure β × State) (last : β → State → Except Failure γ × State) :
    followed (followed ran next) last =
      followed ran fun value after => followed (next value after) last := by
  rcases ran with ⟨_ | _, _⟩ <;> rfl

instance : LawfulMonad Engine :=
  .mk' Engine
    (fun running => Engine.ext (fun board session => followed_pure (running board session))
      fun game => followed_pure (running.play game))
    (fun _ _ => rfl)
    fun running next last => Engine.ext
      (fun board session => followed_followed (running board session) _ _)
      fun game => followed_followed (running.play game) _ _

/-- What the computation comes to, or the failure that it broke off with. -/
def attempt (running : Engine α) : Engine (Except Failure α) :=
  tryCatch (do return .ok (← running)) fun failure => return .error failure

theorem attempt_apply (running : Engine α) (board : Board) (session : Session) :
    running.attempt board session =
      (.ok (running board session).1, (running board session).2) := by
  rw [attempt, tryCatch_apply, bind_apply]
  rcases running board session with ⟨_ | _, _⟩ <;> rfl

/-- The board of the moment. -/
def board : Engine Board where
  seen board session := (.ok board, session)
  play game := (.ok game.board, game)

theorem board_bind_apply (next : Board → Engine α) (board : Board) (session : Session) :
    (Engine.board >>= next) board session = next board board session :=
  rfl

/-- The computation on a board that stays as it is, as a stack of effects. -/
def run (running : Engine α) (board : Board) : ExceptT Failure (StateM Session) α :=
  fun session => running board session

end Engine

end CreatureCards
