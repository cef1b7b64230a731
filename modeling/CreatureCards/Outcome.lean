import CreatureCards.Engine
import CreatureCards.KeyedList

/-!
# Outcomes

An effect answers with an outcome: a record of descriptors that the keeper of
the game applies, and of questions for a player.  A question carries the
continuation that turns the player's choice into a further outcome, so an
outcome is a tree that branches over choices.  The continuation reads the board
and the session of the moment in which the question is answered.

Besides records, an outcome may be any data, because the reaction of a card may
answer with anything.
-/

namespace CreatureCards

/-- What a player may choose. -/
inductive Choice where
  | card (id : CardId)
  | ref (ref : TargetRef)
  | number (value : Nat)
  /-- The place of an option. -/
  | option (place : Nat)
  deriving DecidableEq, Repr

/-- One entry of a pick. -/
structure Candidate where
  label : Option String
  value : Choice
  card : Option CardId := none
  recentlyDrawn : Bool := false
  deriving DecidableEq, Repr

/-- Where the candidates of a pick come from. -/
inductive CandidateSource where
  /-- They are known in advance. -/
  | listed (candidates : List Candidate)
  /-- They are read off the board when the pick is shown. -/
  | produced (candidates : Board → Except Failure (List Candidate))

def CandidateSource.candidates (source : CandidateSource) (board : Board) :
    Except Failure (List Candidate) :=
  match source with
  | listed candidates => .ok candidates
  | produced candidates => candidates board

/-- A question for one of several candidates. -/
structure Pick where
  title : String
  source : CandidateSource
  renderCards : Bool := false
  isOpponentSelection : Bool := false
  selectingPlayer : Option Int := none

/-- One entry of a menu. -/
structure MenuEntry where
  id : String
  label : String
  description : String := ""
  effect : Value := .null

/-- A question for one of several options. -/
structure Menu where
  title : String
  entries : List MenuEntry

/-- What a player is asked. -/
inductive Inquiry where
  | pick (pick : Pick)
  | menu (menu : Menu)

def Inquiry.title : Inquiry → String
  | pick asked => asked.title
  | menu asked => asked.title

/-- What an effect answers with. -/
inductive Outcome where
  | value (data : Value)
  | card (id : CardId)
  | player (index : Nat)
  | ref (ref : TargetRef)
  | list (items : List Outcome)
  | record (fields : List (String × Outcome))
  /-- A question and what follows each choice. -/
  | question (inquiry : Inquiry)
      (answer : Choice → Engine Outcome)
  /-- An effect handed to the keeper of the game. -/
  | callback (effect : Context → Engine Outcome)

/-- Keys and payloads of a record, in order. -/
abbrev Descriptors := List (String × Outcome)

/-- What an effect type does in a context. -/
abbrev Effect := Context → Engine Outcome

namespace Outcome

instance : Inhabited Outcome := ⟨record []⟩

def nothing : Outcome := record []

/-- A record of a single descriptor. -/
def descriptor (key : String) (payload : Outcome) : Outcome :=
  record [(key, payload)]

def asking (pick : Pick) (answer : Choice → Engine Outcome) : Outcome :=
  descriptor "select_target" (question (.pick pick) answer)

def offering (menu : Menu) (answer : Choice → Engine Outcome) : Outcome :=
  descriptor "select_option" (question (.menu menu) answer)

def null : Outcome := value .null

def int (number : Int) : Outcome := value (.int number)

def bool (flag : Bool) : Outcome := value (.bool flag)

def text (content : String) : Outcome := value (.text content)

/-- The payload of a player index, null if it is not known. -/
def index (number : Option Int) : Outcome :=
  value (.ofInt? number)

/-- The payload of a card, null if there is none. -/
def card? (id : Option CardId) : Outcome :=
  id.elim null card

def cards (ids : List CardId) : Outcome :=
  list (ids.map card)

/-- The payload of a list of places, null for an empty one. -/
def places (places : Places) : Outcome :=
  list (places.map card?)

mutual

/-- Authored data taken as an outcome. -/
def ofValue : Value → Outcome
  | .list items => list (ofItems items)
  | .object fields => record (ofFields fields)
  | data => value data

def ofItems : List Value → List Outcome
  | [] => []
  | item :: rest => ofValue item :: ofItems rest

def ofFields : List (String × Value) → Descriptors
  | [] => []
  | (key, field) :: rest => (key, ofValue field) :: ofFields rest

end

theorem keys_ofFields (fields : Fields) :
    KeyedList.keys (ofFields fields) = KeyedList.keys fields := by
  induction fields with
  | nil => rfl
  | cons field rest ih =>
      rw [ofFields]
      exact congrArg (field.1 :: ·) ih

/-- The outcome counts as present. -/
def isTruthy : Outcome → Bool
  | value data => data.isTruthy
  | list items => !items.isEmpty
  | record fields => !fields.isEmpty
  | _ => true

/-- The outcome itself if it is present, nothing otherwise. -/
def orNothing (outcome : Outcome) : Outcome :=
  if outcome.isTruthy then outcome else nothing

def get? : Outcome → String → Option Outcome
  | record fields, key => fields.lookup key
  | _, _ => none

end Outcome

/-- A question put to a player, with what follows each choice. -/
structure Question where
  inquiry : Inquiry
  answer : Choice → Engine Outcome

/-- The question that the outcome is, if it is one. -/
def Outcome.question? : Outcome → Option Question
  | question inquiry answer => some ⟨inquiry, answer⟩
  | _ => none

namespace Engine

def announce (message : String) : Engine Unit :=
  modify fun session => session.announce message

def warn (warning : Warning) : Engine Unit :=
  modify fun session => session.warn warning

/-- Draws a random number below the bound. -/
def draw (bound : Int) : Engine Int := do
  match (← get).random.draw bound with
  | .ok (number, random) =>
    modify fun session => { session with random }
    return number
  | .error failure => throw failure

/-- Goes on with the value, or fails. -/
def orFail {α : Type} : Except Failure α → Engine α
  | .ok value => pure value
  | .error failure => throw failure

/-- Goes on with the value, or fails because something without parts was asked
for one. -/
def require {α : Type} : Option α → Engine α
  | some value => pure value
  | none => throw .missingPart

end Engine

end CreatureCards
