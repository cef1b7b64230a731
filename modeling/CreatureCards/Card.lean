import CreatureCards.Keyword
import CreatureCards.LetterCase
import CreatureCards.Script

/-!
# Cards

A card object carries the printed data of its card and its state on the board.
The kind of a card is read from its printed type without regard to letter case.
Keyword abilities can be suppressed: a predator that was played without
consuming loses all of them, while status markers stay in force.
-/

namespace CreatureCards

/-- Printed card types. -/
inductive CardType where
  | prey
  | predator
  | spell
  | freeSpell
  | trap
  deriving DecidableEq, Repr

namespace CardType

def name : CardType → String
  | prey => "Prey"
  | predator => "Predator"
  | spell => "Spell"
  | freeSpell => "Free Spell"
  | trap => "Trap"

def all : List CardType := [.prey, .predator, .spell, .freeSpell, .trap]

end CardType

/-- What a card does when an ability selects it. -/
inductive Reaction where
  /-- It breaks off the resolution. -/
  | fail (message : String)
  /-- It answers with the result of an effect definition. -/
  | resolve (definition : Value)
  /-- It answers with a record of who selected it. -/
  | echo
  /-- It answers with a result written out by hand. -/
  | answer (script : Script)
  deriving Inhabited

/-- A card object. -/
structure Card where
  /-- Refers to the definition of the card. -/
  cardId : String
  /-- The physical copy of the card that the object stands for. -/
  instanceId : String
  name : Option String := some ""
  printedType : Option String := some CardType.prey.name
  keywords : List String := []
  tribe : Option String := none
  attack : Int := 0
  health : Int := 0
  /-- Attack and health of the moment, if they are known. -/
  currentAttack : Option Int := some attack
  currentHealth : Option Int := some health
  token : Bool := false
  /-- A predator that was played without consuming. -/
  dryDropped : Bool := false
  abilitiesCancelled : Bool := false
  frozen : Bool := false
  stalking : Bool := false
  stalkBonus : Int := 0
  shellLevel : Int := 0
  currentShell : Int := 0
  /-- Effect definitions by trigger. -/
  effects : Fields := []
  reaction : Option Reaction := none
  deriving Inhabited

namespace Card

def title (card : Card) : String :=
  card.name.getD "None"

/-- The printed type in lower case, empty if there is none. -/
def kind (card : Card) : String :=
  lowerCase (card.printedType.getD "")

def isPrey (card : Card) : Bool :=
  card.kind == "prey"

def isPredator (card : Card) : Bool :=
  card.kind == "predator"

def isCreature (card : Card) : Bool :=
  card.isPrey || card.isPredator

/-- Spells and free spells; traps are not spells. -/
def isSpell (card : Card) : Bool :=
  card.kind == "spell" || card.kind == "free spell"

/-- A creature that no deck holds. -/
def isToken (card : Card) : Bool :=
  card.token || "token-".toList.isPrefixOf card.cardId.toList

/-- Keyword abilities are in force. -/
def abilitiesActive (card : Card) : Bool :=
  !(card.isPredator && card.dryDropped)

/-- The card bears the marker, suppressed or not. -/
def bears (card : Card) (keyword : String) : Bool :=
  card.keywords.contains keyword

def hasActive (card : Card) (keyword : Keyword) : Bool :=
  card.abilitiesActive && card.bears keyword.name

/-- Hidden cards cannot be attacked. -/
def isHidden (card : Card) : Bool :=
  card.hasActive .hidden

/-- Invisible cards can be selected with Acuity only. -/
def isInvisible (card : Card) : Bool :=
  card.hasActive .invisible

/-- Lure cards draw every selection to themselves. -/
def hasLure (card : Card) : Bool :=
  card.hasActive .lure

/-- Cards with Acuity see invisible ones. -/
def hasAcuity (card : Card) : Bool :=
  card.hasActive .acuity

def hasBarrier (card : Card) : Bool :=
  card.hasActive .barrier

def hasPride (card : Card) : Bool :=
  card.hasActive .pride

def hasStalk (card : Card) : Bool :=
  card.hasActive .stalk

def hasShell (card : Card) : Bool :=
  card.hasActive .shell

def hasMolt (card : Card) : Bool :=
  card.hasActive .molt

/-- The card is frozen, by its state or by a marker. -/
def isFrozen (card : Card) : Bool :=
  card.frozen || card.bears Keyword.frozen.name

def isWebbed (card : Card) : Bool :=
  card.bears Keyword.webbed.name

def typePriority (card : Card) : Nat :=
  match card.kind with
  | "prey" => 0
  | "predator" => 1
  | "spell" => 2
  | "free spell" => 3
  | "trap" => 4
  | _ => 99

def sortsBefore (left right : Card) : Bool :=
  left.typePriority < right.typePriority ||
    (left.typePriority == right.typePriority &&
      left.name.getD "" ≤ right.name.getD "")

end Card

end CreatureCards
