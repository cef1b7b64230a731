import CreatureCards.GroupPick
import CreatureCards.OptionEffect
import CreatureCards.Proofs.CorrespondingZones
import CreatureCards.Proofs.UsableDefinition

/-!
# Corresponding groups and menus

A target group offers the same objects when the players are seated anew, and what is
done with a picked one names its owner by the index that it was offered with.  Menus
offer the same options.  A result that was authored for an option is passed on as it
is, with every index as it was written.
-/

namespace CreatureCards

open Engine

variable {c : Correspondence} {react other : Reactor}

section Authored

/-- The descriptor is a field of the authored result, or of a result that stands in it
under a key that merging looks into. -/
inductive Value.Authors (descriptor : String × Outcome) : Value → Prop
  | here {fields : Fields} {key : String} {data : Value} (member : (key, data) ∈ fields)
      (same : descriptor = (key, .ofValue data)) : Authors descriptor (.object fields)
  | carried {fields : Fields} {field : String × Value} (member : field ∈ fields)
      (isReserved : field.1 ∈ reservedKeys) (within : Authors descriptor field.2) :
      Authors descriptor (.object fields)
  | item {items : List Value} {item : Value} (member : item ∈ items)
      (within : Authors descriptor item) : Authors descriptor (.list items)

/-- The descriptors of the authored result are exempt, unless everybody keeps the seat. -/
abbrev Correspondence.Exempts (c : Correspondence) (data : Value) : Prop :=
  c.seating.index = id ∨ ∀ descriptor, data.Authors descriptor → c.written descriptor

namespace Outcome.Corresponds

/-- Where everybody keeps the seat, an index under a key for players stays as it is. -/
theorem field_of_unmoved (unmoved : c.seating.index = id) {key : String} {payload : Outcome}
    (corresponds : Outcome.Corresponds c payload payload) :
    c.Field (Outcome.Corresponds c) (key, payload) (key, payload) := by
  by_cases isIndex : key ∈ playerKeys ∧ ∃ number, payload = .int number
  · obtain ⟨isKey, number, rfl⟩ := isIndex
    have stays : c.Field (Outcome.Corresponds c) (key, .index (some number))
        (key, .index ((some number).map c.seating.index)) := .index isKey (some number)
    rwa [unmoved, Option.map_id] at stays
  · exact .plain (fun isKey number same => isIndex ⟨isKey, number, same⟩) corresponds

mutual

theorem ofValue_of_unmoved (unmoved : c.seating.index = id) : ∀ data : Value,
    Outcome.Corresponds c (.ofValue data) (.ofValue data)
  | .list items => by
      rw [Outcome.ofValue]
      exact .list (ofItems_of_unmoved unmoved items)
  | .object fields => by
      rw [Outcome.ofValue]
      exact .record (ofFields_of_unmoved unmoved fields)
  | .null | .bool _ | .int _ | .float _ | .text _ => by
      rw [Outcome.ofValue]
      · exact .value _
      all_goals simp

theorem ofItems_of_unmoved (unmoved : c.seating.index = id) : ∀ items : List Value,
    List.Forall₂ (Outcome.Corresponds c) (Outcome.ofItems items) (Outcome.ofItems items)
  | [] => by
      rw [Outcome.ofItems]
      exact .nil
  | item :: rest => by
      rw [Outcome.ofItems]
      exact .cons (ofValue_of_unmoved unmoved item) (ofItems_of_unmoved unmoved rest)

theorem ofFields_of_unmoved (unmoved : c.seating.index = id) : ∀ fields : Fields,
    List.Forall₂ (c.Field (Outcome.Corresponds c)) (Outcome.ofFields fields)
      (Outcome.ofFields fields)
  | [] => by
      rw [Outcome.ofFields]
      exact .nil
  | (key, data) :: rest => by
      rw [Outcome.ofFields]
      exact .cons (field_of_unmoved unmoved (ofValue_of_unmoved unmoved data))
        (ofFields_of_unmoved unmoved rest)

end

mutual

/-- An authored result whose descriptors are exempt is the same on both sides. -/
theorem ofValue_of_written : ∀ {data : Value},
    (∀ descriptor, data.Authors descriptor → c.written descriptor) →
    Outcome.Corresponds c (.ofValue data) (.ofValue data)
  | .list items, written => by
      rw [Outcome.ofValue]
      exact .list (ofItems_of_written fun item member descriptor authors =>
        written descriptor (.item member authors))
  | .object fields, written => by
      rw [Outcome.ofValue]
      exact .record (ofFields_of_written
        (fun field member => written _ (.here member rfl))
        fun field member isReserved descriptor authors =>
          written descriptor (.carried member isReserved authors))
  | .null, _ | .bool _, _ | .int _, _ | .float _, _ | .text _, _ => by
      rw [Outcome.ofValue]
      · exact .value _
      all_goals simp

theorem ofItems_of_written : ∀ {items : List Value},
    (∀ item ∈ items, ∀ descriptor, item.Authors descriptor → c.written descriptor) →
    List.Forall₂ (Outcome.Corresponds c) (Outcome.ofItems items) (Outcome.ofItems items)
  | [], _ => by
      rw [Outcome.ofItems]
      exact .nil
  | item :: rest, written => by
      obtain ⟨here, later⟩ := List.forall_mem_cons.1 written
      rw [Outcome.ofItems]
      exact .cons (ofValue_of_written here) (ofItems_of_written later)

theorem ofFields_of_written : ∀ {fields : Fields},
    (∀ field ∈ fields, c.written (field.1, .ofValue field.2)) →
    (∀ field ∈ fields, field.1 ∈ reservedKeys →
      ∀ descriptor, field.2.Authors descriptor → c.written descriptor) →
    List.Forall₂ (c.Field (Outcome.Corresponds c)) (Outcome.ofFields fields)
      (Outcome.ofFields fields)
  | [], _, _ => by
      rw [Outcome.ofFields]
      exact .nil
  | (key, data) :: rest, written, carried => by
      obtain ⟨here, later⟩ := List.forall_mem_cons.1 written
      obtain ⟨within, others⟩ := List.forall_mem_cons.1 carried
      rw [Outcome.ofFields]
      refine .cons ?_ (ofFields_of_written later others)
      -- Merging looks into reserved keys only, so what stands elsewhere stays whole.
      by_cases isReserved : key ∈ reservedKeys
      · exact c.likeness.reserved isReserved (ofValue_of_written (within isReserved))
      · exact .written isReserved here

end

/-- Authored data that is passed on as a result is the same on both sides. -/
theorem ofValue {data : Value} (exempts : c.Exempts data) :
    Outcome.Corresponds c (.ofValue data) (.ofValue data) :=
  exempts.elim (fun unmoved => ofValue_of_unmoved unmoved data) ofValue_of_written

end Outcome.Corresponds

end Authored

/-- A definition that another one nests does the same under the settings that its context
carries. -/
theorem Resolution.corresponds_withOwnResolver {definition otherDefinition : Resolution}
    (each : ∀ settings, Effect.Corresponds c (definition settings) (otherDefinition settings)) :
    Effect.Corresponds c definition.withOwnResolver otherDefinition.withOwnResolver := by
  intro context acting
  refine Correspondence.Runs.settings.bind fun settings found same => ?_
  rw [same]
  refine (Correspondence.Runs.adopt acting settings).bind fun adopted otherAdopted areAdopted => ?_
  rw [areAdopted.1]
  exact each settings adopted areAdopted.2

/-- An option with this effect may come to pass it on as a result. -/
def Value.isResult (effect : Value) : Bool :=
  ["summonTokens", "heal", "draw", "damage", "type"].all fun key => !(effect.get key).isTruthy

namespace Effect

section Groups

/-- The same is said, and what is asked for compares. -/
structure Step.Corresponds (c : Correspondence) (step other : Step) : Prop where
  message : other.message = step.message
  field : c.Field (Outcome.Corresponds c) (step.key, step.payload) (other.key, other.payload)

abbrev StepsCorrespond (c : Correspondence) : List Step → List Step → Prop :=
  List.Forall₂ (Step.Corresponds c)

namespace StepsCorrespond

theorem append {steps others more otherMore : List Step} (first : StepsCorrespond c steps others)
    (later : StepsCorrespond c more otherMore) :
    StepsCorrespond c (steps ++ more) (others ++ otherMore) :=
  List.rel_append first later

/-- A shortcut with a value that names no player. -/
theorem present {α : Type} {found : Option α} {make : α → Step}
    (impartial : ∀ value, Outcome.impartialFields
      [((make value).key, (make value).payload)] = true) :
    StepsCorrespond c (found.toList.map make) (found.toList.map make) :=
  forall₂_map fun value _ => ⟨rfl, .same (impartial value)⟩

theorem flagged {flag : Bool} {message : String} {here there : String × Outcome}
    (field : c.Field (Outcome.Corresponds c) here there) :
    StepsCorrespond c (flagStep flag message here.1 here.2)
      (flagStep flag message there.1 there.2) := by
  cases flag with
  | true => exact .cons ⟨rfl, field⟩ .nil
  | false => exact .nil

theorem flag {flag : Bool} {message key : String} {payload : Outcome}
    (impartial : Outcome.impartialFields [(key, payload)] = true) :
    StepsCorrespond c (flagStep flag message key payload) (flagStep flag message key payload) :=
  flagged (.same impartial)

end StepsCorrespond

theorem stepsCorrespond_creature (context : Context) (owner : Option Int) (creature : CardId)
    (name : String) (shortcuts : Shortcuts) :
    StepsCorrespond c (creatureSteps context owner creature name shortcuts)
      (creatureSteps (context.reseated c.seating) (owner.map c.seating.index) creature name
        shortcuts) := by
  have consumed : c.Field (Outcome.Corresponds c)
      (if owner != context.playerIndex then consumeEnemyPrey context.creature creature owner
        else ("consume_creature", .card creature))
      (if owner.map c.seating.index != context.playerIndex.map c.seating.index then
          consumeEnemyPrey context.creature creature (owner.map c.seating.index)
        else ("consume_creature", .card creature)) := by
    rw [c.seating.map_index_ne]
    split
    · exact field_consumeEnemyPrey context.creature creature owner
    · exact .same (by simp)
  have stolen : c.Field (Outcome.Corresponds c)
      ("steal_creature", .record [("creature", .card creature), ("from_index", .index owner),
        ("to_index", .index context.playerIndex)])
      ("steal_creature", .record [("creature", .card creature),
        ("from_index", .index (owner.map c.seating.index)),
        ("to_index", .index (context.playerIndex.map c.seating.index))]) :=
    .of (by simp) (.record (.cons (.same (by simp))
      (.cons (.index (by simp) owner) (.cons (.index (by simp) context.playerIndex) .nil))))
  have copied := impartial_copyPayload context.creature creature
  unfold creatureSteps
  refine .append (.append (.append (.append (.append (.append (.append (.append (.append (.append
    (.append (.append (.present fun _ => ?_) (.present fun _ => ?_)) (.flag ?_))
      (.present fun _ => ?_))
    (.present fun _ => ?_)) (.flag ?_)) (.flagged consumed)) (.flag ?_)) (.flagged stolen))
      (.flag ?_))
    (.flag ?_)) (.flag ?_)) (.flag ?_)
  all_goals simp [Outcome.keywordPayload, copied]

theorem stepsCorrespond_player (shortcuts : Shortcuts) :
    StepsCorrespond c (playerSteps shortcuts) (playerSteps shortcuts) :=
  .append (.present fun _ => by simp) (.present fun _ => by simp)

theorem stepsCorrespond_carrion (context : Context) (owner : Option Int) (card : CardId)
    (name : String) (shortcuts : Shortcuts) :
    StepsCorrespond c (carrionSteps context owner card name shortcuts)
      (carrionSteps (context.reseated c.seating) (owner.map c.seating.index) card name
        shortcuts) := by
  have added : c.Field (Outcome.Corresponds c)
      ("add_carrion_to_hand", .record [("player_index", .index owner), ("card", .card card)])
      ("add_carrion_to_hand",
        .record [("player_index", .index (owner.map c.seating.index)), ("card", .card card)]) :=
    .of (by simp) (.record (.cons (.index (by simp) owner) (.cons (.same (by simp)) .nil)))
  have bearing : (shortcuts.keyword.elim .null Outcome.text).impartial = true := by
    cases shortcuts.keyword with
    | none => exact Outcome.impartial_value _
    | some keyword => exact Outcome.impartial_text keyword
  have played : c.Field (Outcome.Corresponds c)
      ("play_from_carrion", .record [("card", .card card), ("owner_index", .index owner),
        ("keyword", shortcuts.keyword.elim .null .text)])
      ("play_from_carrion", .record [("card", .card card),
        ("owner_index", .index (owner.map c.seating.index)),
        ("keyword", shortcuts.keyword.elim .null .text)]) :=
    .of (by simp) (.record (.cons (.same (by simp))
      (.cons (.index (by simp) owner) (.cons (.same (by simpa using bearing)) .nil))))
  have copied := impartial_copyPayload context.creature card
  unfold carrionSteps
  refine .append (.append (.append (.flag ?_) (.flag ?_)) (.flagged added)) (.flagged played)
  all_goals simp [copied]

theorem stepsCorrespond_hand (context : Context) (card : CardId) (name : String)
    (shortcuts : Shortcuts) :
    StepsCorrespond c (handSteps context card name shortcuts)
      (handSteps (context.reseated c.seating) card name shortcuts) := by
  have played : c.Field (Outcome.Corresponds c)
      ("play_from_hand",
        .record [("player_index", .index context.playerIndex), ("card", .card card)])
      ("play_from_hand",
        .record [("player_index", .index (context.playerIndex.map c.seating.index)),
        ("card", .card card)]) :=
    .of (by simp) (.record (.cons (.index (by simp) _) (.cons (.same (by simp)) .nil)))
  exact .flagged played

/-- Whatever shortcuts suit the picked object, they correspond; its owner is known by the
index that it was offered with. -/
theorem stepsCorrespond_steps (board : Board) (players : List Player) (context : Context)
    (selection : TargetRef) (shortcuts : Shortcuts) :
    StepsCorrespond c (steps board context selection shortcuts)
      (steps { board with players } (context.reseated c.seating) (selection.reseated c.seating)
        shortcuts) := by
  obtain ⟨kind, creature, card, owner, index⟩ := selection
  unfold steps TargetRef.reseated TargetRef.subject
  dsimp only
  cases kind with
  | creature =>
      cases creature with
      | none => exact .nil
      | some creature => exact stepsCorrespond_creature context owner creature _ shortcuts
  | player => exact stepsCorrespond_player shortcuts
  | carrion =>
      cases (creature <|> card) with
      | none => exact .nil
      | some card => exact stepsCorrespond_carrion context owner card _ shortcuts
  | hand =>
      cases (creature <|> card) with
      | none => exact .nil
      | some card => exact stepsCorrespond_hand context card _ shortcuts
  | other name => exact .nil

/-- Cards drawn in return for a sacrifice name no player. -/
theorem fields_sacrificeDraw (selection : TargetRef) (shortcuts : Shortcuts) :
    List.Forall₂ (c.Field (Outcome.Corresponds c)) (sacrificeDraw selection shortcuts)
      (sacrificeDraw (selection.reseated c.seating) shortcuts) := by
  have same :
      sacrificeDraw (selection.reseated c.seating) shortcuts = sacrificeDraw selection shortcuts :=
    rfl
  rw [same]
  unfold sacrificeDraw
  split
  · exact forall₂_map fun _ _ => .same (by simp)
  · exact .nil

theorem corresponds_applyGroupEffect (selection : TargetRef) (effect : GroupEffect)
    {nested otherNested : Option Resolution}
    (each : Option.Rel
      (fun definition counterpart => Effect.Corresponds c definition.withOwnResolver
      counterpart.withOwnResolver) nested otherNested) :
    (applyGroupEffect selection effect nested).Corresponds c
      (applyGroupEffect (selection.reseated c.seating) effect otherNested) := by
  intro context acting
  refine .reading fun board players _ => ?_
  have taken := stepsCorrespond_steps (c := c) board players context selection effect.shortcuts
  dsimp only at taken ⊢
  generalize steps board context selection effect.shortcuts = asked at taken ⊢
  generalize steps { board with players } (context.reseated c.seating)
    (selection.reseated c.seating)
    effect.shortcuts = otherAsked at taken ⊢
  have announced (step counterpart : Step) (same : step.Corresponds c counterpart) :
      c.Runs (fun _ _ => True) (announce step.message) (announce counterpart.message) :=
    same.message ▸ .announced _
  have wanted : List.Forall₂ (c.Field (Outcome.Corresponds c))
      (asked.map (fun step => (step.key, step.payload)) ++ sacrificeDraw selection effect.shortcuts)
      (otherAsked.map (fun step => (step.key, step.payload)) ++
        sacrificeDraw (selection.reseated c.seating) effect.shortcuts) :=
    List.rel_append (List.rel_map (fun _ _ same => same.field) taken)
      (fields_sacrificeDraw selection effect.shortcuts)
  refine (Correspondence.Runs.forM (taken.imp announced)).bind fun _ _ _ => ?_
  rw [isEmpty_eq_of_forall₂ wanted]
  refine .ite (fun _ => .pure (.record wanted)) fun _ => ?_
  cases each with
  | none => exact .nothing
  | some same =>
      refine (Correspondence.Runs.derived acting).bind fun derived otherDerived areDerived => ?_
      have picked : pickedCreature (selection.reseated c.seating) = pickedCreature selection := rfl
      rw [areDerived.1, picked]
      cases pickedCreature selection with
      | none => exact same { derived with target := none } (c.passed areDerived.2 _ _ _)
      | some creature =>
          exact same { derived with target := some (.card creature) } (c.passed areDerived.2 _ _ _)

/-- A target group offers the same candidates. -/
theorem runs_groupTargets (group : Value) (context : Context) :
    c.Runs (fun candidates others => others = candidates.map (Candidate.reseated c.seating))
      (groupTargets group context) (groupTargets group (context.reseated c.seating)) := by
  unfold groupTargets
  cases TargetGroup.ofValue? group with
  | none => exact (Correspondence.Runs.warned _).bind fun _ _ _ => .pure rfl
  | some known =>
      refine .reading fun board players seats => .orFail ?_
      have offers : c.Offers (board.groupCandidates context known)
          ({ board with players }.groupCandidates (context.reseated c.seating) known) :=
        seats.groupCandidates context known
      exact offers.matched

theorem corresponds_selectFromGroup (reacts : react.Corresponds c other) (shape : GroupShape)
    {nested otherNested : Option Resolution}
    (each : Option.Rel
      (fun definition counterpart => Effect.Corresponds c definition.withOwnResolver
      counterpart.withOwnResolver) nested otherNested) :
    (selectFromGroup react shape nested).Corresponds c
      (selectFromGroup other shape otherNested) := by
  intro context acting
  refine (runs_groupTargets _ context).bind fun candidates others moved => ?_
  have empty : others.isEmpty = candidates.isEmpty := by rw [moved, List.isEmpty_map]
  have shown : (others.any fun candidate => candidate.card.isSome) =
      candidates.any fun candidate => candidate.card.isSome := by rw [moved, List.any_map]; rfl
  dsimp only
  rw [empty, shown]
  refine .ite (fun _ => .missing) fun _ => .pickOne rfl moved (.onRef fun selection => ?_)
  have applied := corresponds_applyGroupEffect selection shape.effect each context acting
  have picked : pickedCreature (selection.reseated c.seating) = pickedCreature selection := rfl
  rw [picked]
  cases pickedCreature selection with
  | none => exact applied
  | some creature =>
      refine (Correspondence.Runs.reactionOf reacts creature none acting).bind
        fun response answer responds => ?_
      rw [@Likeness.isTruthy_eq c.likeness _ _ responds]
      exact .ite (fun _ => .pure responds) fun _ => applied

end Groups

section Menus

variable {effects others : List Effect}

/-- The chosen option leads to corresponding effects. -/
theorem answers_onOption {entries : List MenuEntry}
    (each : List.Forall₂ (Effect.Corresponds c) effects others) {context : Context}
    (acting : c.acts context) (choice : Choice) :
    c.Answers (onOption entries effects context choice)
      (onOption entries others (context.reseated c.seating) (choice.reseated c.seating)) := by
  cases choice with
  | option place =>
      have found := getElem?_of_forall₂ each place
      unfold Choice.reseated onOption
      dsimp only
      generalize effects[place]? = effect at found ⊢
      generalize others[place]? = otherEffect at found ⊢
      cases entries[place]? with
      | none => exact .throw _
      | some entry =>
          cases found with
          | none => exact .throw _
          | some corresponds => exact .telling (corresponds context acting)
  | card | ref | number => exact .throw _

theorem corresponds_offer (title : String) (entries : List MenuEntry)
    (each : List.Forall₂ (Effect.Corresponds c) effects others) :
    (offer title entries effects).Corresponds c (offer title entries others) := by
  intro context acting
  have asked : c.Answers (return .offering { title, entries } (onOption entries effects context))
      (return .offering { title, entries }
        (onOption entries others (context.reseated c.seating))) :=
    .pure (.descriptor
      (.of (by simp) (.asking (.menu _) (answers_onOption each acting) fun _ _ => id)))
  unfold offer
  cases each with
  | nil =>
      cases entries with
      | nil => exact asked
      | cons entry more => cases more <;> exact asked
  | cons here later =>
      cases entries with
      | nil => exact asked
      | cons entry more =>
          cases more with
          | cons second rest => exact asked
          | nil =>
              cases later with
              | nil => exact .telling (here context acting)
              | cons next rest => exact asked

theorem corresponds_resolveOption (effect : Value) {nested otherNested : Resolution}
    (exempts : effect.isResult = true → c.Exempts effect)
    (each : effect.isNestable = true →
      Effect.Corresponds c nested.withOwnResolver otherNested.withOwnResolver) :
    (resolveOption effect nested).Corresponds c (resolveOption effect otherNested) := by
  intro context acting
  cases effect with
  | list items => exact .ite (fun _ => .nothing) fun _ => each rfl context acting
  | object fields =>
      unfold resolveOption
      dsimp only
      rw [context.creature_reseated]
      refine .ite (fun _ => .nothing) fun _ => .ite (fun _ => ?_) fun notTokens =>
        .ite (fun _ => ?_) fun _ =>
        .ite (fun _ => ?_) fun notHeal => .ite (fun _ => ?_) fun notDraw =>
          .ite (fun _ => ?_) fun notDamage =>
        .ite (fun typed => each typed context acting) fun untyped => .pure (.ofValue (exempts ?_))
      · exact corresponds_summonTokens _ context acting
      · split
        · exact answers_gainStats _ _ _
        · exact .throw _
      · exact corresponds_told (by simp) context acting
      · exact .told (by simp)
      · exact corresponds_told (by simp) context acting
      · simp [Value.isResult, notTokens, notHeal, notDraw, notDamage, untyped]
  | _ => exact .nothing

/-- The same labels, with nested definitions that correspond where they may come to be
resolved; what may be passed on as a result is exempt. -/
structure OptionsCorrespond (c : Correspondence) (option other : OptionShape × Resolution) :
    Prop where
  label : other.1 = option.1
  exempts : option.1.effect.isResult = true → c.Exempts option.1.effect
  nested : option.1.effect.isNestable = true →
    Effect.Corresponds c option.2.withOwnResolver other.2.withOwnResolver

theorem corresponds_chooseOption (title : Option String)
    {options others : List (OptionShape × Resolution)}
    (each : List.Forall₂ (OptionsCorrespond c) options others) :
    (chooseOption title options).Corresponds c (chooseOption title others) := by
  have labels : others.map Prod.fst = options.map Prod.fst := by
    induction each with
    | nil => rfl
    | cons same _ ih => rw [List.map_cons, List.map_cons, ih, same.label]
  intro context acting
  unfold chooseOption
  rw [isEmpty_eq_of_forall₂ each, labels]
  refine .ite (fun _ => .missing) fun _ =>
    corresponds_offer _ _ (List.rel_map ?_ each) context acting
  rintro ⟨option, nested⟩ ⟨_, otherNested⟩ same
  obtain rfl := same.label
  exact corresponds_resolveOption _ same.exempts same.nested

theorem corresponds_chooseDefinition {choices others : List (ChoiceShape × Resolution)}
    (each : List.Forall₂ (fun choice other => other.1 = choice.1 ∧
      Effect.Corresponds c choice.2.withOwnResolver other.2.withOwnResolver) choices others) :
    (chooseDefinition choices).Corresponds c (chooseDefinition others) := by
  have labels : others.map Prod.fst = choices.map Prod.fst := by
    induction each with
    | nil => rfl
    | cons same _ ih => rw [List.map_cons, List.map_cons, ih, same.1]
  intro context acting
  unfold chooseDefinition
  rw [isEmpty_eq_of_forall₂ each, labels]
  exact .ite (fun _ => .missing) fun _ =>
    corresponds_offer _ _ (List.rel_map (fun _ _ same => same.2) each) context acting

end Menus

end Effect

end CreatureCards
