import CreatureCards.Proofs.PlainEffects
import CreatureCards.Proofs.TargetingLaw
import CreatureCards.Resolver

/-!
# Procedures

A procedure of a run spells out how the run builds its questions: what is done
first, from which pool something is picked, what follows for each of the picked
objects, where a card reacts, where a nested definition takes over, and what is
merged with the rest.  Everything in between is known to ask nothing, so a
statement about every pool of a procedure is a statement about every question
that the run builds, at once or in a continuation, and about the pools in which
there is nothing to choose.
-/

namespace CreatureCards

open Engine

/-- How a run builds its questions, among cards that react as given and from the
given nested definitions. -/
inductive Procedure (react : Reactor) (given : Effect → Prop) : Engine Outcome → Type 1 where
  /-- Nothing is asked. -/
  | act {running : Engine Outcome} (plain : Plain running) : Procedure react given running
  /-- Something is found out or told first. -/
  | first {α : Type} {good : α → Prop} {running : Engine α} {next : α → Engine Outcome}
      (harmless : Harmless (fun _ => True) good running)
      (later : (value : α) → good value → Procedure react given (next value)) :
      Procedure react given (running >>= next)
  | branch {condition : Prop} [Decidable condition] {running otherwise : Engine Outcome}
      (whenTrue : Procedure react given running) (whenFalse : Procedure react given otherwise) :
      Procedure react given (if condition then running else otherwise)
  /-- A pick among candidates that stand for cards; a single one is picked at once.
  The demand says which creatures of the rival are offered, if any are. -/
  | pickCard (demand : Option Demand) {style : PickStyle} {title : String}
      {candidates : List Candidate} {answer : CardId → Engine Outcome}
      (later : (id : CardId) → Procedure react given (answer id)) :
      Procedure react given (pickOne style title candidates (onCard answer))
  /-- A pick among candidates that refer to objects of the game. -/
  | pickRef (demand : Option Demand) {style : PickStyle} {title : String}
      {candidates : List Candidate} {answer : TargetRef → Engine Outcome}
      (later : (ref : TargetRef) → Procedure react given (answer ref)) :
      Procedure react given (pickOne style title candidates (onRef answer))
  /-- A pick whose candidates are found when it is shown, beside descriptors that
  are there at once.  The pool is settled if only its order is left open. -/
  | pickLater (settled : Bool) (ahead : Descriptors) {style : PickStyle} {title : String}
      {candidates : Board → Except Failure (List Candidate)} {answer : CardId → Engine Outcome}
      (silent : Outcome.silentFields ahead = true)
      (blameless : ∀ board, FailsBlameless (candidates board))
      (later : (id : CardId) → Procedure react given (answer id)) :
      Procedure react given (return .record (ahead ++
        [("select_target", laterPick style title candidates (onCard answer))]))
  /-- One of a pool is drawn at random. -/
  | drawCard (demand : Option Demand) {pool : List CardId} {answer : CardId → Engine Outcome}
      (later : (id : CardId) → Procedure react given (answer id)) :
      Procedure react given (do
        let place ← Engine.draw pool.length
        match pool[place.toNat]? with
        | some target => answer target
        | none => throw .missingEntry)
  | offer {menu : Menu} {answer : Choice → Engine Outcome}
      (later : (choice : Choice) → Procedure react given (answer choice)) :
      Procedure react given (return .offering menu answer)
  /-- A card that is selected may react; an answer that is accepted ends the run. -/
  | reacting {target : CardId} {source : Option CardId} {context : Context}
      (accepts : Outcome → Except Failure Bool) {otherwise : Engine Outcome}
      (declines : accepts .null = .ok false) (spared : Procedure react given otherwise) :
      Procedure react given (do
        let response ← reactionOf react target source context
        if ← orFail (accepts response) then return response else otherwise)
  /-- What the run comes to, if it counts as present. -/
  | orNothing {last : Engine Outcome} (procedure : Procedure react given last) :
      Procedure react given (do return (← last).orNothing)
  /-- A nested definition takes over. -/
  | nested {definition : Effect} {context : Context} (isGiven : given definition) :
      Procedure react given (definition context)
  /-- Nested definitions take over side by side. -/
  | sideBySide {definitions : List Effect} {context : Context}
      (areGiven : ∀ definition ∈ definitions, given definition) :
      Procedure react given (Effect.composite definitions context)
  /-- A nested definition is handed to the keeper of the game. -/
  | handOver {key name : String} (ahead : Descriptors) {definition : Effect}
      (silent : Outcome.silentFields ahead = true) (isGiven : given definition) :
      Procedure react given
        (return .descriptor key (.record (ahead ++ [(name, .callback definition)])))
  /-- What the run comes to is merged behind a result. -/
  | behind {done : Outcome} {last : Engine Outcome} (silent : done.silent = true)
      (procedure : Procedure react given last) :
      Procedure react given (do
        let result ← last
        orFail (Outcome.merge [done, result]))
  /-- The run can be written otherwise. -/
  | same {running other : Engine Outcome} (equal : running = other)
      (procedure : Procedure react given running) : Procedure react given other

namespace Procedure

variable {react : Reactor} {given : Effect → Prop}

/-- A message is told first. -/
def telling {message : String} {next : Unit → Engine Outcome}
    (later : Procedure react given (next ())) :
    Procedure react given (announce message >>= next) :=
  .first (Harmless.announce message) fun _ _ => later

/-- The board is looked at first. -/
def reading {next : Board → Engine Outcome}
    (later : (board : Board) → Procedure react given (next board)) :
    Procedure react given (Engine.board >>= next) :=
  .first Harmless.board fun board _ => later board

/-- The rest is resolved from a derived context. -/
def fromDerived {context : Context} {next : Context → Engine Outcome}
    (later : (derived : Context) → Procedure react given (next derived)) :
    Procedure react given (context.derived >>= next) :=
  .first (Harmless.derived context) fun derived _ => later derived

/-- Nothing is left to do. -/
def nothing : Procedure react given (return .nothing) :=
  .act Elementary.nothing.harmless

/-- Nothing is asked where there is nothing to choose from. -/
def missing {message : String} : Procedure react given (do
    announce message
    return .nothing) :=
  .act (Elementary.missing message).harmless

/-- A reaction counts if it answers with something. -/
def answers (response : Outcome) : Except Failure Bool :=
  .ok response.isTruthy

theorem answers_null : answers .null = .ok false :=
  rfl

/-- The result stands unless the target answers with something. -/
def unlessReacting {target : CardId} {context : Context} {result : Outcome}
    (silent : result.silent = true) :
    Procedure react given (reactionOr react target result context) :=
  .same (congrArg (reactionOf react target none context >>= ·) (funext fun response => by
      change (if response.isTruthy = true then pure response else pure result : Engine Outcome) =
        pure (if response.isTruthy then response else result)
      split <;> rfl))
    (.reacting answers answers_null (.act (.pure silent)))

end Procedure

end CreatureCards
