import CreatureCards.Proofs.PickedPlayer
import Mathlib.Data.List.Forall2

/-!
# Shortcuts accumulate

A group effect does directly to a picked object whatever its shortcuts say, as far as
they suit the kind of the object.  Each of them asks under a key of its own, so none
is lost in the record of the result.  Each also has a role in which its payload names
the card that it affects or copies, and the card in that role is the picked one.  The
nested definition has its turn only if no shortcut applies, and then once, with the
picked creature as its target.
-/

namespace CreatureCards

open Engine

namespace Outcome

/-- The card that a payload is. -/
def bareCard : Outcome → Option CardId
  | card id => some id
  | _ => none

/-- The cards that a payload names: itself, or some in its fields. -/
def namedCards : Outcome → List CardId
  | card id => [id]
  | record fields => fields.filterMap fun field => field.2.bareCard
  | _ => []

end Outcome

/-- The part that a card plays in a payload: the payload is the card, or one of its
fields is. -/
inductive Role where
  | itself
  | field (name : String)

/-- The card that plays the part. -/
def Role.card? (payload : Outcome) : Role → Option CardId
  | itself => payload.bareCard
  | field name => (payload.get? name).bind Outcome.bareCard

/-- One thing that a group effect may do directly to a picked object. -/
inductive Shortcut where
  | damage
  | heal
  | kill
  | buff
  | keyword
  | regen
  | consume
  | removeAbilities
  | steal
  | copyAbilities
  | copyStats
  | copyAbilitiesFrom
  | addToHand
  | play
  | paralyze
  | sacrifice
  | draw
  deriving DecidableEq, Repr

namespace Shortcut

/-- The effect is to do this.  Cards are drawn only in return for a sacrifice. -/
def isSet (shortcuts : Shortcuts) : Shortcut → Bool
  | damage => shortcuts.damage.any (· != 0)
  | heal => shortcuts.heal.any (· != 0)
  | kill => shortcuts.kill
  | buff => shortcuts.buff.isSome
  | keyword => shortcuts.keyword.any (· != "")
  | regen => shortcuts.regen
  | consume => shortcuts.consume
  | removeAbilities => shortcuts.removeAbilities
  | steal => shortcuts.steal
  | copyAbilities => shortcuts.copyAbilities
  | copyStats => shortcuts.copyStats
  | copyAbilitiesFrom => shortcuts.copyAbilitiesFrom
  | addToHand => shortcuts.addToHand
  | play => shortcuts.play
  | paralyze => shortcuts.paralyze
  | sacrifice => shortcuts.sacrifice
  | draw => shortcuts.sacrifice && shortcuts.draw.any (· != 0)

/-- What can be done to an object of the kind, in the order in which it is done. -/
def suiting : TargetKind → List Shortcut
  | .creature => [damage, heal, kill, buff, keyword, regen, consume, removeAbilities, steal,
      copyStats, copyAbilitiesFrom, paralyze, sacrifice, draw]
  | .player => [damage, heal]
  | .carrion => [copyAbilities, copyStats, addToHand, play]
  | .hand => [play]
  | .other _ => []

/-- What is done to an object of the kind. -/
def applied (shortcuts : Shortcuts) (kind : TargetKind) : List Shortcut :=
  (suiting kind).filter (isSet shortcuts)

/-- The key under which it is asked for. -/
def key (context : Context) (selection : TargetRef) : Shortcut → String
  | damage => if selection.kind = .player then "damage_opponent" else "damage_creature"
  | heal => if selection.kind = .player then "heal" else "heal_creature"
  | kill => "kill_creature"
  | buff => "buff_creature"
  | keyword => "add_keyword"
  | regen => "regen_creature"
  | consume =>
    if selection.ownerIndex = context.playerIndex then "consume_creature" else "consume_enemy_prey"
  | removeAbilities => "remove_abilities"
  | steal => "steal_creature"
  | copyAbilities | copyAbilitiesFrom => "copy_abilities"
  | copyStats => "copy_stats"
  | addToHand => "add_carrion_to_hand"
  | play => if selection.kind = .carrion then "play_from_carrion" else "play_from_hand"
  | paralyze => "paralyze_creature"
  | sacrifice => "sacrifice_creature"
  | draw => "draw"

/-- The part that the affected card plays in its payload, or the copied one where something
is copied.  A player who is damaged or healed is no card, and draws name none. -/
def role (context : Context) (selection : TargetRef) : Shortcut → Option Role
  | damage | heal => if selection.kind = .player then none else some (.field "creature")
  | kill | regen | removeAbilities | paralyze | sacrifice => some .itself
  | buff | keyword | steal => some (.field "creature")
  | consume =>
    if selection.ownerIndex = context.playerIndex then some .itself else some (.field "prey")
  | copyAbilities | copyStats | copyAbilitiesFrom => some (.field "source")
  | addToHand | play => some (.field "card")
  | draw => none

/-- The descriptor asks for the shortcut under its key.  The picked card plays the part of
the shortcut in it, and beside that card only the acting creature may be named; a shortcut
without a part names no card at all. -/
def IsAsked (context : Context) (selection : TargetRef) (shortcut : Shortcut)
    (descriptor : String × Outcome) : Prop :=
  descriptor.1 = shortcut.key context selection ∧
    match shortcut.role context selection with
    | some role =>
      ∃ card, selection.subject = some card ∧ role.card? descriptor.2 = some card ∧
        ∀ named ∈ descriptor.2.namedCards, named = card ∨ context.creature = some named
    | none => descriptor.2.namedCards = []

/-- Shortcuts that suit one kind have different keys. -/
theorem nodup_keys (context : Context) (selection : TargetRef) :
    ((suiting selection.kind).map (key context selection)).Nodup := by
  cases kind : selection.kind with
  | creature =>
      by_cases own : selection.ownerIndex = context.playerIndex <;>
        simp [suiting, key, kind, own]
  | player | hand | carrion | other name => simp [suiting, key, kind]

theorem nodup_applied_keys (shortcuts : Shortcuts) (context : Context) (selection : TargetRef) :
    ((applied shortcuts selection.kind).map (key context selection)).Nodup :=
  (nodup_keys context selection).sublist (List.filter_sublist.map _)

/-- What a list keeps is collected member by member. -/
theorem applied_eq (shortcuts : Shortcuts) (kind : TargetKind) :
    applied shortcuts kind =
      (suiting kind).flatMap fun shortcut =>
        if shortcut.isSet shortcuts then [shortcut] else [] := by
  unfold applied
  induction suiting kind with
  | nil => rfl
  | cons first rest ih =>
      rw [List.filter_cons, List.flatMap_cons, ← ih]
      split <;> rfl

end Shortcut

/-- The object that was picked is there.  A picked player is given by the kind alone. -/
def TargetRef.HasReferent (selection : TargetRef) : Prop :=
  match selection.kind with
  | .creature => selection.creature.isSome
  | .player => True
  | .hand | .carrion => selection.subject.isSome
  | .other _ => False

namespace Effect

variable {board : Board} {context : Context} {selection : TargetRef} {shortcuts : Shortcuts}

/-- What a group effect asks for through its shortcuts. -/
def asked (board : Board) (context : Context) (selection : TargetRef) (shortcuts : Shortcuts) :
    Descriptors :=
  (steps board context selection shortcuts).map (fun step => (step.key, step.payload)) ++
    sacrificeDraw selection shortcuts

theorem isSome_present (number : Option Int) : (present number).isSome = number.any (· != 0) := by
  cases number with
  | none => rfl
  | some value => by_cases zero : value = 0 <;> simp [present, Option.filter, zero]

theorem isSome_presentText (text : Option String) :
    (presentText text).isSome = text.any (· != "") := by
  cases text with
  | none => rfl
  | some value => by_cases empty : value = "" <;> simp [presentText, Option.filter, empty]

section Asked

variable {shortcut : Shortcut} {card : CardId} {key message : String} {payload : Outcome}

/-- A flag that is set is asked for once, and otherwise not. -/
theorem isAsked_flagStep {flag : Bool} (isSet : shortcut.isSet shortcuts = flag)
    (asked : shortcut.IsAsked context selection (key, payload)) :
    List.Forall₂ (Shortcut.IsAsked context selection)
      (if shortcut.isSet shortcuts then [shortcut] else [])
      ((flagStep flag message key payload).map fun step => (step.key, step.payload)) := by
  rw [isSet]
  cases flag with
  | false => exact .nil
  | true => exact .cons asked .nil

/-- What is given is asked for once, and nothing otherwise. -/
theorem isAsked_toList {α : Type} {given : Option α} {make : α → String × Outcome}
    (isSet : shortcut.isSet shortcuts = given.isSome)
    (asked : ∀ value, shortcut.IsAsked context selection (make value)) :
    List.Forall₂ (Shortcut.IsAsked context selection)
      (if shortcut.isSet shortcuts then [shortcut] else []) (given.toList.map make) := by
  rw [isSet]
  cases given with
  | none => exact .nil
  | some value => exact .cons (asked value) .nil

/-- The payload names the picked card and no other. -/
theorem isAsked_of_named {role : Role} (keyed : key = shortcut.key context selection)
    (plays : shortcut.role context selection = some role) (picked : selection.subject = some card)
    (found : role.card? payload = some card) (named : payload.namedCards = [card]) :
    shortcut.IsAsked context selection (key, payload) := by
  refine ⟨keyed, ?_⟩
  rw [plays]
  refine ⟨card, picked, found, fun other isNamed => .inl ?_⟩
  rw [named] at isNamed
  exact List.mem_singleton.1 isNamed

/-- The payload names the picked card behind the acting creature. -/
theorem isAsked_of_named_behind {role : Role} (keyed : key = shortcut.key context selection)
    (plays : shortcut.role context selection = some role) (picked : selection.subject = some card)
    (found : role.card? payload = some card)
    (named : payload.namedCards = context.creature.toList ++ [card]) :
    shortcut.IsAsked context selection (key, payload) := by
  refine ⟨keyed, ?_⟩
  rw [plays]
  refine ⟨card, picked, found, fun other isNamed => ?_⟩
  rw [named, List.mem_append, List.mem_singleton, Option.mem_toList] at isNamed
  exact isNamed.symm

/-- The payload names no card. -/
theorem isAsked_of_unnamed (keyed : key = shortcut.key context selection)
    (plays : shortcut.role context selection = none) (named : payload.namedCards = []) :
    shortcut.IsAsked context selection (key, payload) := by
  refine ⟨keyed, ?_⟩
  rw [plays]
  exact named

theorem namedCards_copyPayload (target : Option CardId) (source : CardId) :
    (copyPayload target source).namedCards = target.toList ++ [source] := by
  cases target <;> rfl

theorem namedCards_consumeEnemyPrey (predator : Option CardId) (prey : CardId)
    (owner : Option Int) :
    (consumeEnemyPrey predator prey owner).2.namedCards = predator.toList ++ [prey] := by
  cases predator <;> rfl

/-- A creature of the acting player is consumed as it is, and another as a predator's prey. -/
theorem isAsked_consume (picked : selection.subject = some card) :
    Shortcut.consume.IsAsked context selection
      (if selection.ownerIndex != context.playerIndex then
        consumeEnemyPrey context.creature card selection.ownerIndex
      else ("consume_creature", .card card)) := by
  by_cases own : selection.ownerIndex = context.playerIndex
  · have same : (selection.ownerIndex != context.playerIndex) = false := by simp [own]
    rw [same]
    exact isAsked_of_named (by simp [Shortcut.key, own]) (if_pos own) picked rfl rfl
  · have differs : (selection.ownerIndex != context.playerIndex) = true := by simp [own]
    rw [differs]
    exact isAsked_of_named_behind (by simp [Shortcut.key, own]) (if_neg own) picked rfl
      (namedCards_consumeEnemyPrey _ _ _)

/-- What is done to a creature, with the cards that its sacrifice is worth. -/
theorem isAsked_creatureSteps (isCreature : selection.kind = .creature)
    (picked : selection.subject = some card) (name : String) :
    List.Forall₂ (Shortcut.IsAsked context selection) (Shortcut.applied shortcuts .creature)
      ((creatureSteps context selection.ownerIndex card name shortcuts).map
          (fun step => (step.key, step.payload)) ++
        (if shortcuts.sacrifice then
          (present shortcuts.draw).toList.map fun count => ("draw", Outcome.int count)
        else [])) := by
  have isNoPlayer : selection.kind ≠ .player := by
    rw [isCreature]
    exact nofun
  have draws : (if shortcuts.sacrifice then
        (present shortcuts.draw).toList.map fun count => ("draw", Outcome.int count)
      else []) =
      (if shortcuts.sacrifice then present shortcuts.draw else none).toList.map
        fun count => ("draw", .int count) := by
    cases shortcuts.sacrifice <;> rfl
  rw [Shortcut.applied_eq, draws]
  simp only [creatureSteps, Shortcut.suiting, List.flatMap_cons, List.flatMap_nil, List.map_append,
    List.map_map, List.append_assoc]
  refine List.rel_append (isAsked_toList ?_ fun amount => ?_) ?_
  · exact (isSome_present _).symm
  · exact isAsked_of_named (if_neg isNoPlayer).symm (if_neg isNoPlayer) picked rfl rfl
  refine List.rel_append (isAsked_toList ?_ fun amount => ?_) ?_
  · exact (isSome_present _).symm
  · exact isAsked_of_named (if_neg isNoPlayer).symm (if_neg isNoPlayer) picked rfl rfl
  refine List.rel_append (isAsked_flagStep rfl (isAsked_of_named rfl rfl picked rfl rfl)) ?_
  refine List.rel_append (isAsked_toList rfl fun stats =>
    isAsked_of_named rfl rfl picked rfl rfl) ?_
  refine List.rel_append (isAsked_toList ?_ fun keyword => ?_) ?_
  · exact (isSome_presentText _).symm
  · exact isAsked_of_named rfl rfl picked rfl rfl
  refine List.rel_append (isAsked_flagStep rfl (isAsked_of_named rfl rfl picked rfl rfl)) ?_
  refine List.rel_append (isAsked_flagStep rfl (isAsked_consume picked)) ?_
  refine List.rel_append (isAsked_flagStep rfl (isAsked_of_named rfl rfl picked rfl rfl)) ?_
  refine List.rel_append (isAsked_flagStep rfl (isAsked_of_named rfl rfl picked rfl rfl)) ?_
  refine List.rel_append (isAsked_flagStep rfl
    (isAsked_of_named_behind rfl rfl picked rfl (namedCards_copyPayload _ _))) ?_
  refine List.rel_append (isAsked_flagStep rfl
    (isAsked_of_named_behind rfl rfl picked rfl (namedCards_copyPayload _ _))) ?_
  refine List.rel_append (isAsked_flagStep rfl (isAsked_of_named rfl rfl picked rfl rfl)) ?_
  refine List.rel_append (isAsked_flagStep rfl (isAsked_of_named rfl rfl picked rfl rfl)) ?_
  rw [List.append_nil]
  refine isAsked_toList ?_ fun count => isAsked_of_unnamed rfl rfl rfl
  rw [Shortcut.isSet, ← isSome_present]
  cases shortcuts.sacrifice <;> rfl

theorem isAsked_playerSteps (isPlayer : selection.kind = .player) :
    List.Forall₂ (Shortcut.IsAsked context selection) (Shortcut.applied shortcuts .player)
      ((playerSteps shortcuts).map fun step => (step.key, step.payload)) := by
  rw [Shortcut.applied_eq]
  simp only [playerSteps, Shortcut.suiting, List.flatMap_cons, List.flatMap_nil, List.map_append,
    List.map_map, List.append_nil]
  refine List.rel_append (isAsked_toList ?_ fun amount => ?_) (isAsked_toList ?_ fun amount => ?_)
  · exact (isSome_present _).symm
  · exact isAsked_of_unnamed (if_pos isPlayer).symm (if_pos isPlayer) rfl
  · exact (isSome_present _).symm
  · exact isAsked_of_unnamed (if_pos isPlayer).symm (if_pos isPlayer) rfl

theorem isAsked_carrionSteps (isCarrion : selection.kind = .carrion)
    (picked : selection.subject = some card) (name : String) :
    List.Forall₂ (Shortcut.IsAsked context selection) (Shortcut.applied shortcuts .carrion)
      ((carrionSteps context selection.ownerIndex card name shortcuts).map
        fun step => (step.key, step.payload)) := by
  rw [Shortcut.applied_eq]
  simp only [carrionSteps, Shortcut.suiting, List.flatMap_cons, List.flatMap_nil, List.map_append,
    List.append_assoc, List.append_nil]
  refine List.rel_append (isAsked_flagStep rfl
    (isAsked_of_named_behind rfl rfl picked rfl (namedCards_copyPayload _ _))) ?_
  refine List.rel_append (isAsked_flagStep rfl
    (isAsked_of_named_behind rfl rfl picked rfl (namedCards_copyPayload _ _))) ?_
  refine List.rel_append (isAsked_flagStep rfl (isAsked_of_named rfl rfl picked rfl rfl)) ?_
  refine isAsked_flagStep rfl (isAsked_of_named (if_pos isCarrion).symm rfl picked rfl ?_)
  -- The keyword with which a card is played is a text or null, and no card.
  cases shortcuts.keyword <;> rfl

theorem isAsked_handSteps (isHand : selection.kind = .hand)
    (picked : selection.subject = some card) (name : String) :
    List.Forall₂ (Shortcut.IsAsked context selection) (Shortcut.applied shortcuts .hand)
      ((handSteps context card name shortcuts).map fun step => (step.key, step.payload)) := by
  have isNoCarrion : selection.kind ≠ .carrion := by
    rw [isHand]
    exact nofun
  rw [Shortcut.applied_eq]
  simp only [handSteps, Shortcut.suiting, List.flatMap_cons, List.flatMap_nil, List.append_nil]
  exact isAsked_flagStep rfl (isAsked_of_named (if_neg isNoCarrion).symm rfl picked rfl rfl)

/-- Every shortcut that applies is asked for, in their order, and nothing else is. -/
theorem isAsked_asked (refers : selection.HasReferent) :
    List.Forall₂ (Shortcut.IsAsked context selection)
      (Shortcut.applied shortcuts selection.kind) (asked board context selection shortcuts) := by
  unfold TargetRef.HasReferent at refers
  unfold asked steps sacrificeDraw
  cases kind : selection.kind <;> rw [kind] at refers
  case creature =>
    obtain ⟨creature, picked⟩ := Option.isSome_iff_exists.1 refers
    have isSubject : selection.subject = some creature := by simp [TargetRef.subject, picked]
    have done : List.Forall₂ (Shortcut.IsAsked context selection)
        (Shortcut.applied shortcuts .creature) _ :=
      isAsked_creatureSteps kind isSubject (board.title creature)
    rw [picked]
    cases sacrificed : shortcuts.sacrifice <;> simpa [sacrificed] using done
  case player =>
    have done : List.Forall₂ (Shortcut.IsAsked context selection)
        (Shortcut.applied shortcuts .player) _ := isAsked_playerSteps kind
    simpa using done
  case carrion =>
    obtain ⟨card, picked⟩ := Option.isSome_iff_exists.1 refers
    have done : List.Forall₂ (Shortcut.IsAsked context selection)
        (Shortcut.applied shortcuts .carrion) _ :=
      isAsked_carrionSteps kind picked (board.title card)
    rw [picked]
    simpa using done
  case hand =>
    obtain ⟨card, picked⟩ := Option.isSome_iff_exists.1 refers
    have done : List.Forall₂ (Shortcut.IsAsked context selection)
        (Shortcut.applied shortcuts .hand) _ :=
      isAsked_handSteps kind picked (board.title card)
    rw [picked]
    simpa using done
  case other name => exact refers.elim

/-- The keys are those of the shortcuts that apply, in their order. -/
theorem keys_asked (refers : selection.HasReferent) :
    (asked board context selection shortcuts).map Prod.fst =
      (Shortcut.applied shortcuts selection.kind).map (Shortcut.key context selection) := by
  have asks : List.Forall₂ _ _ (asked board context selection shortcuts) := isAsked_asked refers
  generalize asked board context selection shortcuts = fields at asks ⊢
  generalize Shortcut.applied shortcuts selection.kind = applied at asks ⊢
  induction asks with
  | nil => rfl
  | cons first _ ih => rw [List.map_cons, List.map_cons, first.1, ih]

end Asked

/-- Cards are drawn only beside a sacrifice. -/
theorem sacrificeDraw_of_steps (none : steps board context selection shortcuts = []) :
    sacrificeDraw selection shortcuts = [] := by
  unfold sacrificeDraw
  split
  · rename_i draws
    obtain ⟨⟨isCreature, present⟩, sacrificed⟩ :
        (selection.kind = .creature ∧ selection.creature.isSome) ∧ shortcuts.sacrifice = true := by
      simpa using draws
    obtain ⟨creature, picked⟩ := Option.isSome_iff_exists.1 present
    simp [steps, isCreature, picked, creatureSteps, flagStep, sacrificed] at none
  · rfl

/-- The nested definition of a group effect, by the resolution that becomes of it. -/
def nestedResolution (effect : GroupEffect) (resolver : Value → Resolution) : Option Resolution :=
  if effect.hasType then some (resolver effect.definition) else none

/-- A resolution with the context's own resolver, in a copy of the context that is aimed
elsewhere, works under the settings that the context carries. -/
theorem withOwnResolver_settled (definition : Resolution) (target : Option Target) (board : Board)
    (session : Session) :
    definition.withOwnResolver { context.settled session with target } board session =
      definition ((context.carried session).getD {})
        { context with target, resolver := .taken ((context.carried session).getD {}) }
        board session := by
  unfold Resolution.withOwnResolver Context.settled
  cases context.carried session <;> rfl

/-- Where nothing is asked for, the nested definition is resolved, if there is one. -/
theorem applyGroupEffect_of_none {effect : GroupEffect}
    (none : asked board context selection effect.shortcuts = []) (resolver : Value → Resolution)
    (session : Session) :
    applyGroupEffect selection effect (nestedResolution effect resolver) context board session =
      if effect.hasType then
        resolver effect.definition ((context.carried session).getD {})
          { context with
            target := (pickedCreature selection).map .card
            resolver := .taken ((context.carried session).getD {}) }
          board session
      else (.ok .nothing, session) := by
  obtain ⟨mapped, noDraw⟩ := List.append_eq_nil_iff.1 none
  have noSteps : steps board context selection effect.shortcuts = [] := List.map_eq_nil_iff.1 mapped
  have untold : session.telling (([] : List Step).map Step.message) = session := session.telling_nil
  change (List.forM (steps board context selection effect.shortcuts) (fun step =>
    announce step.message) >>= fun _ => _) board session = _
  rw [bind_of_ok (forM_announce _ board session), noSteps, noDraw, untold]
  unfold nestedResolution
  cases effect.hasType with
  | false => rfl
  | true => exact withOwnResolver_settled _ _ board session

/-- The nested resolution is what a pick from a target group is bound to. -/
theorem effect_bindSelectFromGroup (react : Reactor) (settings : Settings) {params : Value}
    {shape : GroupShape} (read : GroupShape.read (Invocation.given params) = .ok shape) :
    ∃ asked, Invocation.bindSelectFromGroup params = .ok asked ∧
      (asked.mapDefinitions fun nested _ => resolveWith react nested).effect react settings =
        selectFromGroup react shape (nestedResolution shape.effect (resolveWith react)) := by
  refine ⟨_, by unfold Invocation.bindSelectFromGroup; rw [read]; rfl, ?_⟩
  unfold nestedResolution
  cases shape.effect.hasType <;> rfl

/-- Shortcuts that apply to the picked object each leave one descriptor, in their order and
under a key of their own, in which the picked card plays the part of the shortcut; the nested
definition has no part in it.  Where none applies, the nested definition is resolved once,
under the settings that the context carries and with the picked creature as the target, if
its type is not empty, and otherwise nothing happens.  With such a nested definition every
pick from a target group is bound. -/
theorem shortcuts_accumulate (refers : selection.HasReferent) (effect : GroupEffect)
    (context : Context) (board : Board) (session : Session) :
    (Shortcut.applied effect.shortcuts selection.kind ≠ [] →
      ∃ fields messages,
        (∀ resolver, applyGroupEffect selection effect (nestedResolution effect resolver) context
          board session = (.ok (.record fields), session.telling messages)) ∧
        fields.map Prod.fst =
          (Shortcut.applied effect.shortcuts selection.kind).map
            (Shortcut.key context selection) ∧
        (fields.map Prod.fst).Nodup ∧
        List.Forall₂ (Shortcut.IsAsked context selection)
          (Shortcut.applied effect.shortcuts selection.kind) fields) ∧
    (Shortcut.applied effect.shortcuts selection.kind = [] →
      ∀ resolver, applyGroupEffect selection effect (nestedResolution effect resolver) context
          board session =
        if effect.hasType then
          resolver effect.definition ((context.carried session).getD {})
            { context with
              target := (pickedCreature selection).map .card
              resolver := .taken ((context.carried session).getD {}) }
            board session
        else (.ok .nothing, session)) ∧
    ∀ params shape, GroupShape.read (Invocation.given params) = .ok shape → shape.effect = effect →
      ∀ react settings, ∃ asked, Invocation.bindSelectFromGroup params = .ok asked ∧
        (asked.mapDefinitions fun nested _ => resolveWith react nested).effect react settings =
          selectFromGroup react shape (nestedResolution effect (resolveWith react)) := by
  have keys : (asked board context selection effect.shortcuts).map Prod.fst = _ := keys_asked refers
  refine ⟨fun applies => ?_, fun none resolver => ?_, fun params shape read same => ?_⟩
  · have suits : steps board context selection effect.shortcuts ≠ [] := by
      intro none
      refine applies (List.map_eq_nil_iff.1 (keys.symm.trans ?_))
      rw [asked, none, sacrificeDraw_of_steps none]
      rfl
    refine ⟨_, _, fun resolver => applyGroupEffect_of_steps suits _ session, keys, ?_,
      isAsked_asked refers⟩
    rw [← asked, keys]
    exact Shortcut.nodup_applied_keys _ context selection
  · refine applyGroupEffect_of_none (List.map_eq_nil_iff.1 (keys.trans ?_)) resolver session
    rw [none, List.map_nil]
  · intro react settings
    rw [← same]
    exact effect_bindSelectFromGroup react settings read

/-- A creature of the rival that is damaged and sacrificed for two cards. -/
theorem damage_sacrifice_and_draw :
    let picked : TargetRef := { kind := .creature, creature := some calm, ownerIndex := some 1 }
    let effect : GroupEffect :=
      { shortcuts := { damage := some 3, sacrifice := true, draw := some 2, play := true } }
    picked.HasReferent ∧
      ∃ damage sacrifice draw messages,
        applyGroupEffect picked effect none duel touchyBoard (default : Moment).session =
          (.ok (.record [damage, sacrifice, draw]),
            (default : Moment).session.telling messages) ∧
        [damage, sacrifice, draw].map Prod.fst =
          ["damage_creature", "sacrifice_creature", "draw"] ∧
        (damage.2.get? "creature").bind Outcome.bareCard = some calm ∧
        sacrifice.2.bareCard = some calm ∧ draw.2.namedCards = [] := by
  intro picked effect
  have refers : picked.HasReferent := rfl
  obtain ⟨fields, messages, run, keys, -, asks⟩ :=
    (shortcuts_accumulate refers effect duel touchyBoard (default : Moment).session).1 (by decide)
  have applied : Shortcut.applied effect.shortcuts picked.kind = [.damage, .sacrifice, .draw] :=
    rfl
  rw [applied] at asks
  cases asks with
  | @cons _ damage _ _ damaged asks =>
  cases asks with
  | @cons _ sacrifice _ _ sacrificed asks =>
  cases asks with
  | @cons _ draw _ _ drawn asks =>
  cases asks
  obtain ⟨-, card, isPicked, hurt, -⟩ := damaged
  obtain ⟨-, other, isPickedToo, gone, -⟩ := sacrificed
  obtain ⟨-, unnamed⟩ := drawn
  cases isPicked
  cases isPickedToo
  exact ⟨refers, damage, sacrifice, draw, messages, run fun _ _ _ => pure .nothing, keys, hurt,
    gone, unnamed⟩

end Effect

end CreatureCards
