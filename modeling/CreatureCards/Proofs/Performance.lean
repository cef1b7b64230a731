import CreatureCards.Proofs.RandomDraw

/-!
# What a run performs

A run is accounted for by the draws that are executed in it: it is taken apart into what
comes one after the other, down to parts that leave the random source alone and effects
that draw a creature in the game at hand.  Every such effect draws exactly one number, so
the account of a run tells what becomes of the random source.
-/

namespace CreatureCards

open Engine

/-- An effect type, executed with its arguments in a context. -/
structure Execution where
  kind : EffectKind
  arguments : List Value
  context : Context

namespace Execution

def argument (execution : Execution) (place : Nat) : Value :=
  execution.arguments.getD place .null

/-- What is executed, among cards that react as given. -/
def run (react : Reactor) (execution : Execution) : Engine Outcome :=
  execution.kind.rule react execution.argument execution.context

/-- It is executed in a game, and the pool from which its type draws at random comes to
these creatures. -/
def DrawsFrom (execution : Execution) (board : Board) (pool : List CardId) : Prop :=
  execution.context.inGame = true ∧ ∃ lottery,
    execution.kind.lottery execution.argument = some lottery ∧
      lottery board execution.context = pool

/-- An effect that draws from a pool draws one number below its size. -/
theorem DrawsFrom.random_eq {execution : Execution} {board : Board} {pool : List CardId}
    (draws : execution.DrawsFrom board pool) (present : pool ≠ []) (react : Reactor)
    (session : Session) :
    (execution.run react board session).2.random = session.random.drawn pool.length := by
  obtain ⟨inGame, lottery, isLottery, rfl⟩ := draws
  have once := execution.kind.drawsOnce_rule react execution.argument isLottery
  exact once.random_eq inGame present session

end Execution

/-- An execution, with the creatures that it draws from. -/
abbrev Lot := Execution × List CardId

/-- On the board the run draws for these executions, in order, and otherwise leaves the
random source as it is. -/
inductive Engine.Performs (board : Board) :
    {α : Type} → Engine α → Session → List Lot → Prop
  | undrawn {α : Type} {running : Engine α} {session : Session}
      (same : (running board session).2.random = session.random) : Performs board running session []
  | executed (react : Reactor) {execution : Execution} {pool : List CardId} (session : Session)
      (draws : execution.DrawsFrom board pool) (present : pool ≠ []) :
      Performs board (execution.run react) session [(execution, pool)]
  | next {α β : Type} {running : Engine α} {next : α → Engine β} {session after : Session}
      {value : α} {lots later : List Lot} (first : Performs board running session lots)
      (ran : running board session = (.ok value, after))
      (goesOn : Performs board (next value) after later) :
      Performs board (running >>= next) session (lots ++ later)
  | broken {α β : Type} {running : Engine α} {next : α → Engine β} {session after : Session}
      {failure : Failure} {lots : List Lot} (first : Performs board running session lots)
      (ran : running board session = (.error failure, after)) :
      Performs board (running >>= next) session lots
  | unbroken {α : Type} {running : Engine α} {handle : Failure → Engine α}
      {session after : Session} {value : α} {lots : List Lot}
      (first : Performs board running session lots)
      (ran : running board session = (.ok value, after)) :
      Performs board (tryCatch running handle) session lots
  | rescued {α : Type} {running : Engine α} {handle : Failure → Engine α}
      {session after : Session} {failure : Failure} {lots later : List Lot}
      (first : Performs board running session lots)
      (ran : running board session = (.error failure, after))
      (goesOn : Performs board (handle failure) after later) :
      Performs board (tryCatch running handle) session (lots ++ later)

/-- The source after one draw for each of the lots, below the size of its pool. -/
def RandomSource.drawnFor (source : RandomSource) (lots : List Lot) : RandomSource :=
  lots.foldl (fun source lot => source.drawn lot.2.length) source

namespace Engine.Performs

variable {α : Type} {board : Board} {running : Engine α} {session : Session} {lots : List Lot}

/-- A run leaves the random source as by one draw for each of the lots that it draws. -/
theorem random_eq (performs : running.Performs board session lots) :
    (running board session).2.random = session.random.drawnFor lots := by
  induction performs with
  | undrawn same => exact same
  | executed react session draws present => exact draws.random_eq present react session
  | next first ran goesOn ihFirst ihNext =>
      rw [bind_of_ok ran, ihNext, RandomSource.drawnFor, RandomSource.drawnFor, List.foldl_append]
      rw [ran] at ihFirst
      rw [ihFirst]
      rfl
  | broken first ran ihFirst =>
      rw [bind_of_error ran]
      rwa [ran] at ihFirst
  | unbroken first ran ihFirst =>
      rw [tryCatch_of_ok ran]
      rwa [ran] at ihFirst
  | rescued first ran goesOn ihFirst ihNext =>
      rw [tryCatch_of_error ran, ihNext, RandomSource.drawnFor, RandomSource.drawnFor,
        List.foldl_append]
      rw [ran] at ihFirst
      rw [ihFirst]
      rfl

/-- Quiet runs draw nothing. -/
theorem quietly (quiet : Quiet running) (board : Board) (session : Session) :
    running.Performs board session [] :=
  .undrawn (quiet.random_eq board session)

end Engine.Performs

end CreatureCards
