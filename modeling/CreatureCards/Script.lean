import CreatureCards.Value

/-!
# Scripted results

A result written out by hand, such as the answer with which a card reacts to
being selected: data in which cards and questions may stand.  A scripted
question lists its choices and, for each of them, the result that follows.
-/

namespace CreatureCards

/-- The identity of a card object.  Two objects may stand for the same card of
the game; their identities still differ. -/
structure CardId where
  key : String
  deriving DecidableEq, Repr, Inhabited

/-- How a scripted question is asked. -/
inductive ScriptedForm where
  /-- A pick among candidates known in advance. -/
  | listed
  /-- A pick among candidates found when the question is shown. -/
  | produced
  /-- A choice among options. -/
  | options
  deriving DecidableEq, Repr

/-- A result written out by hand. -/
inductive Script where
  | value (data : Value)
  | card (id : CardId)
  | list (items : List Script)
  | record (fields : List (String × Script))
  | question (form : ScriptedForm) (title : String) (choices : List String)
      (follow : List Script)
  deriving Inhabited

end CreatureCards
