import CreatureCards.Shape

/-!
# Shapes of structured parameters

The parameters of the effects that take more than a short list: what happens to
a pick from a target group, the options of a menu, and a few smaller ones.
-/

namespace CreatureCards

/-- Changes of attack and health. -/
structure Stats where
  attack : Int := 0
  health : Int := 0
  deriving DecidableEq, Repr

def Stats.read (value : Value) : Except Failure Stats := do
  let fields ← Shape.fields value
  let attack ← Shape.optional fields ["attack"] 0 Shape.whole
  let health ← Shape.optional fields ["health"] 0 Shape.whole
  return { attack, health }

/-- Whom a destroying effect reaches. -/
structure DestroyShape where
  target : String := "targetEnemy"
  deriving DecidableEq, Repr

def DestroyShape.read (value : Value) : Except Failure DestroyShape := do
  let fields ← Shape.fields value
  let target ← Shape.optional fields ["target"] "targetEnemy" Shape.text
  return { target }

/-- Which keyword is added, and to whom. -/
structure AddKeywordShape where
  keyword : String
  target : Option String := none
  deriving DecidableEq, Repr

def AddKeywordShape.read (value : Value) : Except Failure AddKeywordShape := do
  let fields ← Shape.fields value
  let keyword ← Shape.required fields ["keyword"] Shape.text
  let target ← Shape.optional fields ["target"] none (Shape.orNull Shape.text)
  return { keyword, target }

/-- By how much creatures are buffed, and which. -/
structure BuffShape where
  stats : Stats := {}
  target : Option String := none
  deriving DecidableEq, Repr

def BuffShape.read (value : Value) : Except Failure BuffShape := do
  let fields ← Shape.fields value
  let stats ← Stats.read value
  let target ← Shape.optional fields ["target"] none (Shape.orNull Shape.text)
  return { stats, target }

/-- What happens directly to a picked object. -/
structure Shortcuts where
  damage : Option Int := none
  heal : Option Int := none
  kill : Bool := false
  buff : Option Stats := none
  keyword : Option String := none
  regen : Bool := false
  consume : Bool := false
  removeAbilities : Bool := false
  steal : Bool := false
  copyAbilities : Bool := false
  copyStats : Bool := false
  copyAbilitiesFrom : Bool := false
  play : Bool := false
  paralyze : Bool := false
  addToHand : Bool := false
  sacrifice : Bool := false
  draw : Option Int := none
  label : Option String := none
  deriving DecidableEq, Repr

def Shortcuts.read (fields : Fields) : Except Failure Shortcuts := do
  let damage ← Shape.optional fields ["damage"] none (Shape.orNull Shape.whole)
  let heal ← Shape.optional fields ["heal"] none (Shape.orNull Shape.whole)
  let kill ← Shape.optional fields ["kill"] false Shape.flag
  let buff ← Shape.optional fields ["buff"] none (Shape.orNull Stats.read)
  let keyword ← Shape.optional fields ["keyword"] none (Shape.orNull Shape.text)
  let regen ← Shape.optional fields ["regen"] false Shape.flag
  let consume ← Shape.optional fields ["consume"] false Shape.flag
  let removeAbilities ←
    Shape.optional fields ["removeAbilities", "remove_abilities"] false Shape.flag
  let steal ← Shape.optional fields ["steal"] false Shape.flag
  let copyAbilities ← Shape.optional fields ["copyAbilities", "copy_abilities"] false Shape.flag
  let copyStats ← Shape.optional fields ["copyStats", "copy_stats"] false Shape.flag
  let copyAbilitiesFrom ←
    Shape.optional fields ["copyAbilitiesFrom", "copy_abilities_from"] false Shape.flag
  let play ← Shape.optional fields ["play"] false Shape.flag
  let paralyze ← Shape.optional fields ["paralyze"] false Shape.flag
  let addToHand ← Shape.optional fields ["addToHand", "add_to_hand"] false Shape.flag
  let sacrifice ← Shape.optional fields ["sacrifice"] false Shape.flag
  let draw ← Shape.optional fields ["draw"] none (Shape.orNull Shape.whole)
  let label ← Shape.optional fields ["label"] none (Shape.orNull Shape.text)
  return { damage, heal, kill, buff, keyword, regen, consume, removeAbilities, steal,
           copyAbilities, copyStats, copyAbilitiesFrom, play, paralyze, addToHand, sacrifice,
           draw, label }

/-- What happens to a picked object: shortcuts that accumulate or, when none of
them applies, a nested definition. -/
structure GroupEffect where
  shortcuts : Shortcuts := {}
  type : Option String := none
  params : Fields := []
  /-- Fields without a declaration. -/
  extra : Fields := []

/-- The keys under which each declared part of a group effect may be given. -/
def GroupEffect.declared : List (List String) :=
  [["damage"], ["heal"], ["kill"], ["buff"], ["keyword"], ["regen"], ["consume"],
    ["removeAbilities", "remove_abilities"], ["steal"], ["copyAbilities", "copy_abilities"],
    ["copyStats", "copy_stats"], ["copyAbilitiesFrom", "copy_abilities_from"], ["play"],
    ["paralyze"], ["addToHand", "add_to_hand"], ["sacrifice"], ["draw"], ["label"], ["type"],
    ["params"]]

def GroupEffect.read (value : Value) : Except Failure GroupEffect := do
  let fields ← Shape.fields value
  let shortcuts ← Shortcuts.read fields
  let type ← Shape.optional fields ["type"] none (Shape.orNull Shape.text)
  let params ← Shape.optional fields ["params"] [] Shape.fields
  return { shortcuts, type, params, extra := Shape.undeclared fields GroupEffect.declared }

/-- A definition of one effect. -/
def Value.definition (type : Value) (params : Fields) : Value :=
  .object [("type", type), ("params", .object params)]

/-- The nested definition that a group effect carries. -/
def GroupEffect.definition (effect : GroupEffect) : Value :=
  Value.definition (effect.type.elim .null .text) effect.params

def GroupEffect.hasType (effect : GroupEffect) : Bool :=
  effect.type.any (· != "")

/-- A pick from a target group. -/
structure GroupShape where
  targetGroup : String
  title : Option String := none
  effect : GroupEffect := {}
  renderCards : Bool := true

def GroupShape.read (value : Value) : Except Failure GroupShape := do
  let fields ← Shape.fields value
  let targetGroup ← Shape.required fields ["targetGroup", "target_group"] Shape.text
  let title ← Shape.optional fields ["title"] none (Shape.orNull Shape.text)
  let effect ← Shape.optional fields ["effect"] {} GroupEffect.read
  let renderCards ← Shape.optional fields ["renderCards", "render_cards"] true Shape.flag
  return { targetGroup, title, effect, renderCards }

/-- One option of a menu, with an effect of any form. -/
structure OptionShape where
  label : String
  description : String := ""
  effect : Value := .null

def OptionShape.read (value : Value) : Except Failure OptionShape := do
  let fields ← Shape.fields value
  let label ← Shape.required fields ["label"] Shape.text
  let description ← Shape.optional fields ["description"] "" Shape.text
  let effect ← Shape.optional fields ["effect"] .null Shape.any
  return { label, description, effect }

/-- A menu of options. -/
structure MenuShape where
  title : Option String := none
  options : List OptionShape := []

def MenuShape.read (value : Value) : Except Failure MenuShape := do
  let fields ← Shape.fields value
  let title ← Shape.optional fields ["title"] none (Shape.orNull Shape.text)
  let options ← Shape.optional fields ["options"] [] (Shape.list OptionShape.read)
  return { title, options }

/-- One choice with an effect definition of its own. -/
structure ChoiceShape where
  label : String
  description : String := ""
  type : String
  params : Fields := []

def ChoiceShape.read (value : Value) : Except Failure ChoiceShape := do
  let fields ← Shape.fields value
  let label ← Shape.required fields ["label"] Shape.text
  let description ← Shape.optional fields ["description"] "" Shape.text
  let type ← Shape.required fields ["type"] Shape.text
  let params ← Shape.optional fields ["params"] [] Shape.fields
  return { label, description, type, params }

def ChoiceShape.definition (choice : ChoiceShape) : Value :=
  Value.definition (.text choice.type) choice.params

def ChoiceShape.readAll (value : Value) : Except Failure (List ChoiceShape) := do
  let fields ← Shape.fields value
  Shape.optional fields ["choices"] [] (Shape.list ChoiceShape.read)

/-- A definition of one effect with whatever else its object holds. -/
structure NodeShape where
  type : String
  params : Fields := []
  extra : Fields := []

def NodeShape.read (value : Value) : Except Failure NodeShape := do
  let fields ← Shape.fields value
  let type ← Shape.required fields ["type"] Shape.text
  let params ← Shape.optional fields ["params"] [] Shape.fields
  return { type, params, extra := Shape.undeclared fields [["type"], ["params"]] }

end CreatureCards
