import CreatureCards.PickEffect
import CreatureCards.TargetGroup

/-!
# Picks from target groups

A player picks from a target group, and a declarative effect is applied to what
was picked.  Shortcuts that suit the kind of the picked object accumulate in one
record; only where none applies, a nested definition is resolved with the picked
creature as its target.
-/

namespace CreatureCards

open Engine

namespace Effect

/-- What a shortcut says and asks for. -/
structure Step where
  message : String
  key : String
  payload : Outcome

/-- A number that counts as present. -/
def present (number : Option Int) : Option Int :=
  number.filter (· != 0)

/-- A text that counts as present. -/
def presentText (text : Option String) : Option String :=
  text.filter (· != "")

def flagStep (flag : Bool) (message key : String) (payload : Outcome) : List Step :=
  if flag then [⟨message, key, payload⟩] else []

def creatureSteps (context : Context) (owner : Option Int) (creature : CardId) (name : String)
    (shortcuts : Shortcuts) : List Step :=
  let label := (presentText shortcuts.label).getD "damage"
  let damage := (present shortcuts.damage).toList.map fun amount =>
    (⟨s!"Deals {amount} damage to {name}.", "damage_creature", .record
      [("creature", .card creature), ("amount", .int amount),
       ("source_label", .text label)]⟩ : Step)
  let heal := (present shortcuts.heal).toList.map fun amount =>
    (⟨s!"Restores {amount} HP to {name}.", "heal_creature", .record
      [("creature", .card creature), ("amount", .int amount)]⟩ : Step)
  let buff := shortcuts.buff.toList.map fun stats =>
    let bonus := bonusText (.int stats.attack) (.int stats.health)
    (⟨s!"{name} gains {bonus}.", "buff_creature", .record
      [("creature", .card creature), ("attack", .int stats.attack),
       ("health", .int stats.health)]⟩ : Step)
  let keyword := (presentText shortcuts.keyword).toList.map fun keyword =>
    (⟨s!"{name} gains {keyword}.", "add_keyword",
      .keywordPayload creature (.text keyword)⟩ : Step)
  let consumed := if owner != context.playerIndex then
      consumeEnemyPrey context.creature creature owner
    else ("consume_creature", .card creature)
  damage ++ heal ++
    flagStep shortcuts.kill s!"{name} is destroyed." "kill_creature" (.card creature) ++
    buff ++ keyword ++
    flagStep shortcuts.regen s!"{name} regenerates." "regen_creature" (.card creature) ++
    flagStep shortcuts.consume s!"{name} is consumed." consumed.1 consumed.2 ++
    flagStep shortcuts.removeAbilities s!"{name} loses abilities." "remove_abilities"
      (.card creature) ++
    flagStep shortcuts.steal s!"Takes control of {name}." "steal_creature" (.record
      [("creature", .card creature), ("from_index", .index owner),
       ("to_index", .index context.playerIndex)]) ++
    flagStep shortcuts.copyStats s!"Copies {name}'s stats." "copy_stats"
      (copyPayload context.creature creature) ++
    flagStep shortcuts.copyAbilitiesFrom s!"Copies abilities from {name}." "copy_abilities"
      (copyPayload context.creature creature) ++
    flagStep shortcuts.paralyze s!"{name} is paralyzed." "paralyze_creature" (.card creature) ++
    flagStep shortcuts.sacrifice s!"{name} is sacrificed." "sacrifice_creature" (.card creature)

def playerSteps (shortcuts : Shortcuts) : List Step :=
  let damage := (present shortcuts.damage).toList.map fun amount =>
    (⟨s!"Deals {amount} damage to rival.", "damage_opponent", .int amount⟩ : Step)
  let heal := (present shortcuts.heal).toList.map fun amount =>
    (⟨s!"Heals {amount} HP.", "heal", .int amount⟩ : Step)
  damage ++ heal

def carrionSteps (context : Context) (owner : Option Int) (card : CardId) (name : String)
    (shortcuts : Shortcuts) : List Step :=
  let bearing := (presentText shortcuts.keyword).elim "" fun keyword => s!" with {keyword}"
  flagStep shortcuts.copyAbilities s!"Copies {name}'s abilities." "copy_abilities"
      (copyPayload context.creature card) ++
    flagStep shortcuts.copyStats s!"Copies {name}'s stats." "copy_stats"
      (copyPayload context.creature card) ++
    flagStep shortcuts.addToHand s!"Adds {name} from carrion to hand." "add_carrion_to_hand"
      (.record [("player_index", .index owner), ("card", .card card)]) ++
    flagStep shortcuts.play s!"Plays {name} from carrion{bearing}." "play_from_carrion" (.record
      [("card", .card card), ("owner_index", .index owner),
       ("keyword", shortcuts.keyword.elim .null .text)])

def handSteps (context : Context) (card : CardId) (name : String) (shortcuts : Shortcuts) :
    List Step :=
  flagStep shortcuts.play s!"Plays {name} from hand." "play_from_hand" (.record
    [("player_index", .index context.playerIndex), ("card", .card card)])

def steps (board : Board) (context : Context) (selection : TargetRef) (shortcuts : Shortcuts) :
    List Step :=
  match selection.kind with
  | .creature => selection.creature.elim [] fun creature =>
    creatureSteps context selection.ownerIndex creature (board.title creature) shortcuts
  | .player => playerSteps shortcuts
  | .carrion => selection.subject.elim [] fun card =>
    carrionSteps context selection.ownerIndex card (board.title card) shortcuts
  | .hand => selection.subject.elim [] fun card =>
    handSteps context card (board.title card) shortcuts
  | .other _ => []

/-- Cards drawn in return for a sacrifice. -/
def sacrificeDraw (selection : TargetRef) (shortcuts : Shortcuts) : Descriptors :=
  if selection.kind = .creature && selection.creature.isSome && shortcuts.sacrifice then
    (present shortcuts.draw).toList.map fun count => ("draw", .int count)
  else []

/-- The creature a nested definition is aimed at. -/
def pickedCreature (selection : TargetRef) : Option CardId :=
  if selection.kind = .creature then selection.creature else none

/-- Applies a declarative effect to what was picked. -/
def applyGroupEffect (selection : TargetRef) (effect : GroupEffect)
    (nested : Option Resolution) : Effect := fun context => do
  let taken := steps (← board) context selection effect.shortcuts
  taken.forM fun step => announce step.message
  let result := taken.map (fun step => (step.key, step.payload)) ++
    sacrificeDraw selection effect.shortcuts
  if !result.isEmpty then return .record result
  match nested with
  | some definition =>
    let derived ← context.derived
    definition.withOwnResolver
      { derived with target := (pickedCreature selection).map .card }
  | none => return .nothing

/-- A pick from a target group; a picked creature may react. -/
def selectFromGroup (react : Reactor) (shape : GroupShape) (nested : Option Resolution) :
    Effect := fun context => do
  let candidates ← groupTargets (.text shape.targetGroup) context
  if candidates.isEmpty then
    announce "No valid targets available."
    return .nothing
  let renderCards := shape.renderCards && candidates.any fun candidate => candidate.card.isSome
  pickOne { renderCards } ((presentText shape.title).getD "Choose a target") candidates
    (onRef fun selection => do
      match pickedCreature selection with
      | some creature =>
        let response ← reactionOf react creature none context
        if response.isTruthy then return response
      | none => pure ()
      applyGroupEffect selection shape.effect nested context)

end Effect

end CreatureCards
