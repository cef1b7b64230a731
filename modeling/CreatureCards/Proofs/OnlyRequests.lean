import CreatureCards.CardTrigger
import CreatureCards.Proofs.AlikeResolution
import CreatureCards.Proofs.SparedBoard
import CreatureCards.Proofs.WalksEnd

/-!
# Effects only request

What an effect does to the game is asked for in its outcome and not done: the board
stays as it is, messages and reports are added behind the earlier ones, and settings
that a seat has taken are kept.  Random numbers are drawn by effects that pick a
creature at random, in a game in which there is one to pick, and by nothing else.
Cards may react as they like.
-/

namespace CreatureCards

open Engine

/-- The later session keeps what was told and reported, and who has taken which seat. -/
structure Session.Continues (before after : Session) : Prop where
  log : before.log <+: after.log
  warnings : before.warnings <+: after.warnings
  seats : ∀ {seat settings}, before.seated seat = some settings → after.seated seat = some settings

namespace Session.Continues

theorem refl (session : Session) : session.Continues session :=
  ⟨List.prefix_refl _, List.prefix_refl _, id⟩

theorem trans {first second third : Session} (one : first.Continues second)
    (other : second.Continues third) : first.Continues third :=
  ⟨one.log.trans other.log, one.warnings.trans other.warnings, fun taken =>
    other.seats (one.seats taken)⟩

theorem announce (session : Session) (message : String) :
    session.Continues (session.announce message) :=
  ⟨List.prefix_append _ _, List.prefix_refl _, id⟩

theorem warn (session : Session) (warning : Warning) : session.Continues (session.warn warning) :=
  ⟨List.prefix_refl _, List.prefix_append _ _, id⟩

theorem occupy {session : Session} {seat : Nat} (settings : Settings)
    (vacant : session.seated seat = none) : session.Continues (session.occupy seat settings) := by
  refine ⟨List.prefix_refl _, List.prefix_refl _, fun {other earlier} taken => ?_⟩
  have differs : other ≠ seat := by
    rintro rfl
    rw [vacant] at taken
    cases taken
  have missed : (other == seat) = false := by simpa using differs
  rwa [seated, Session.occupy, List.lookup_cons, missed]

theorem draw (session : Session) (after : RandomSource) :
    session.Continues { session with random := after } :=
  ⟨List.prefix_refl _, List.prefix_refl _, id⟩

end Session.Continues

/-- The invocation may come to be executed when the definition is resolved on the
board and the outcome is walked: the definition itself may invoke it, or one with
which a card reacts. -/
inductive Value.Pursues (board : Board) (definition : Value) : Invocation Value → Prop
  | own {asked : Invocation Value} (invokes : definition.Invokes asked) :
    Pursues board definition asked
  | reaction {asked : Invocation Value} {id : CardId} {answer : Value}
      (reacts : (board.card id).reaction = some (.resolve answer))
        (invokes : answer.Invokes asked) :
      Pursues board definition asked

/-- Where no card answers with a definition, a definition that nests none comes to
execute nothing but what it says. -/
theorem Value.eq_of_pursues {definition : Value} {board : Board}
    {asked invocation : Invocation Value}
    (read : Reading.ofValue definition = .invocation invocation) (flat : invocation.pursued = [])
    (silent : ∀ id answer, (board.card id).reaction ≠ some (.resolve answer))
    (pursues : definition.Pursues board asked) : asked = invocation := by
  cases pursues with
  | reaction reacts _ => exact absurd reacts (silent _ _)
  | own invokes =>
      cases invokes with
      | here isRead =>
          rw [read, Reading.invocation.injEq] at isRead
          exact isRead.symm
      | within member _ =>
          rw [read, Reading.pursued, flat] at member
          cases member

/-- The other context is the given one or was passed on from it. -/
def Context.Passes (context other : Context) : Prop :=
  ∃ creature target resolver, other = { context with creature, target, resolver }

section Reactions

variable {conduct : Conduct}

mutual

/-- Where anything may be asked, so may what a script asks. -/
theorem Script.within_outcome (anything : ∀ inquiry, conduct.asks inquiry) :
    ∀ script : Script, script.outcome.Within conduct ⊤
  | .value data => .value data
  | .card id => .card id
  | .list items => by
      rw [outcome]
      exact within_outcomes anything items
  | .record fields => by
      rw [outcome]
      exact within_outcomeFields anything fields
  | .question form title choices follow => by
      rw [outcome]
      have each (choice : Choice) : conduct.AtMost ⊤ (chosen (outcomes follow) choice) := by
        have follows := within_outcomes anything follow
        unfold chosen
        split
        · rename_i place _
          cases found : (outcomes follow)[place]? with
          | none => exact .throw (conduct.fails_other (by simp))
          | some next => exact .pure (follows.of_mem (List.mem_of_getElem? found))
        · exact .throw (conduct.fails_other (by simp))
      exact Outcome.within_question (anything _) each le_top

theorem Script.within_outcomes (anything : ∀ inquiry, conduct.asks inquiry) :
    ∀ items : List Script, Outcome.Within conduct ⊤ (.list (outcomes items))
  | [] => by
      rw [outcomes]
      exact .nil
  | item :: rest => by
      rw [outcomes]
      exact .cons (within_outcome anything item) (within_outcomes anything rest) le_top

theorem Script.within_outcomeFields (anything : ∀ inquiry, conduct.asks inquiry) :
    ∀ fields : List (String × Script), Outcome.Within conduct ⊤ (.record (outcomeFields fields))
  | [] => by
      rw [outcomeFields]
      exact .empty
  | (key, field) :: rest => by
      rw [outcomeFields]
      exact .field (within_outcome anything field) (within_outcomeFields anything rest) le_top

end

theorem Conduct.Keeps.board : conduct.Keeps conduct.admits Engine.board where
  passes _ admitted session := .ok (conduct.refl session) admitted
  does board _ session := conduct.manner.quietly board session .board

end Reactions

/-- The run leaves the board of the game as it is, and of the session everything but what
it adds; it draws for executions of the given sort, each of them in a game and from
creatures that there are, by one number each.  It comes to what it comes to on a board
that stays as it is. -/
structure Engine.OnlyRequests {α : Type} (running : Engine α) (game : Game)
    (may : Execution → Prop) : Prop where
  board : (running.play game).2.board = game.board
  session : game.session.Continues (running.play game).2.session
  random : ∃ lots, running.Performs game.board game.session lots ∧
    (∀ lot ∈ lots, may lot.1 ∧ lot.1.DrawsFrom game.board lot.2 ∧ lot.2 ≠ []) ∧
    (running.play game).2.session.random = game.session.random.drawnFor lots
  seen : running.play game =
    ((running game.board game.session).1,
      { game with session := (running game.board game.session).2 })

namespace Engine.OnlyRequests

variable {α : Type} {good : α → Prop} {running : Engine α} {world : Board → Prop} {game : Game}
  {context : Context} {may : Execution → Prop}

/-- Where nothing may be executed that draws, nothing is drawn. -/
theorem random_eq (requests : running.OnlyRequests game may)
    (drawless : ∀ execution, may execution →
      execution.kind.lottery execution.argument = none) :
    (running.play game).2.session.random = game.session.random := by
  obtain ⟨lots, -, lawful, drawn⟩ := requests.random
  have unlotted : lots = [] := by
    refine List.eq_nil_iff_forall_not_mem.2 fun lot member => ?_
    obtain ⟨executes, ⟨-, lottery, isLottery, -⟩, -⟩ := lawful lot member
    cases (drawless lot.1 executes).symm.trans isLottery
  rw [drawn, unlotted]
  rfl

end Engine.OnlyRequests

section Resolving

variable {world : Board → Prop} {context : Context} {may : Execution → Prop}

end Resolving

/-- Where nothing is drawn at random. -/
def Conduct.drawless : Conduct where
  admits _ := True
  acts _ := True
  asks _ := True
  leaves before after := after.random = before.random
  fails _ := True
  passed _ _ _ _ := trivial
  refl _ := rfl
  trans one other := other.trans one
  announced _ _ := rfl
  warned _ _ := rfl
  seated _ _ := rfl
  chosen _ := trivial
  fails_other _ := trivial

end CreatureCards
