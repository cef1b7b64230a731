import CreatureCards.Proofs.Conduct
import CreatureCards.Proofs.PickProcedure
import CreatureCards.Proofs.Performance

/-!
# Boards that runs leave alone

In a game the board is part of the state, and whatever runs could write to it.  A run
spares the board if it does not: then it does in the game what it does on a board that
stays as it is.  Everything that effects are made of spares the board, and so do runs
one after the other.
-/

namespace CreatureCards

open Engine

variable {α β : Type}

/-- In the game the run does what it does on a board that stays as it is, and the board
does stay as it is. -/
def Engine.SparesBoard (board : Board) (running : Engine α) (session : Session) : Prop :=
  running.play ⟨board, session⟩ =
    ((running board session).1, ⟨board, (running board session).2⟩)

/-- The board is overwritten in place. -/
def Engine.overwrite (change : Board → Board) : Engine Unit where
  seen _ session := (.ok (), session)
  play game := (.ok (), { game with board := change game.board })

/-- Writing spares the board only if it writes what is there. -/
theorem sparesBoard_overwrite_iff {change : Board → Board} {board : Board} {session : Session} :
    (overwrite change).SparesBoard board session ↔ change board = board := by
  constructor
  · intro spares
    have same : (⟨change board, session⟩ : Game) = ⟨board, session⟩ := congrArg Prod.snd spares
    exact congrArg Game.board same
  · intro same
    change (Except.ok (), (⟨change board, session⟩ : Game)) = (.ok (), ⟨board, session⟩)
    rw [same]

namespace Engine.SparesBoard

variable {board : Board} {session : Session}

theorem next {running : Engine α} {next : α → Engine β} (first : running.SparesBoard board session)
    (each : ∀ value after, running board session = (.ok value, after) →
      (next value).SparesBoard board after) :
    (running >>= next).SparesBoard board session := by
  unfold SparesBoard
  rw [play_bind, first, bind_apply]
  rcases ran : running board session with ⟨failure | value, after⟩
  · rfl
  · exact each value after ran

theorem rescue {running : Engine α} {handle : Failure → Engine α}
    (first : running.SparesBoard board session)
    (each : ∀ failure after, running board session = (.error failure, after) →
      (handle failure).SparesBoard board after) :
    (tryCatch running handle).SparesBoard board session := by
  unfold SparesBoard
  rw [play_tryCatch, first, tryCatch_apply]
  rcases ran : running board session with ⟨failure | value, after⟩
  · exact each failure after ran
  · rfl

theorem quietly {running : Engine α} (quiet : Quiet running) (board : Board) (session : Session) :
    running.SparesBoard board session := by
  induction quiet generalizing session with
  | pure | throw | board | announce | warn | settings => rfl
  | bind _ _ ihFirst ihEach => exact (ihFirst session).next fun value after _ => ihEach value after

theorem draw (size : Int) (board : Board) (session : Session) :
    (Engine.draw size).SparesBoard board session := by
  have got : SparesBoard board (get : Engine Session) session := rfl
  refine got.next fun found after _ => ?_
  split <;> rfl

/-- Elementary runs do not write. -/
theorem elementary {good : α → Prop} {running : Engine α} (elementary : Elementary good running)
    (board : Board) (session : Session) : running.SparesBoard board session := by
  induction elementary generalizing session with
  | pure | throw | board | announce | warn => rfl
  | bind first _ ihFirst ihEach =>
      refine (ihFirst session).next fun value after ran => ihEach value ?_ after
      exact first.harmless.good_of_ok trivial ran
  | draw bound => exact .draw bound board session

theorem adopt (context : Context) (settings : Settings) (board : Board) (session : Session) :
    (context.adopt settings).SparesBoard board session := by
  unfold Context.adopt
  split
  · rfl
  · rfl
  · have got : SparesBoard board (get : Engine Session) session := rfl
    refine got.next fun found after _ => ?_
    split <;> rfl

end Engine.SparesBoard

end CreatureCards
