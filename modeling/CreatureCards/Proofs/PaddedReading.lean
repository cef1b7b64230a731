import CreatureCards.Proofs.Insertion

/-!
# Binding with an inserted node

A definition with an inert node inserted is read like the definition itself.  Binding
fails in the same way, or comes to an invocation of the same effect type with the same
arguments, where a nested definition has the node inserted or a composite has the node
among its effects.
-/

namespace CreatureCards

variable {carried own : Settings}

/-- The same label, with a node inserted into the effect. -/
structure OptionShape.Padded (carried own : Settings) (option other : OptionShape) : Prop where
  label : other.label = option.label
  description : other.description = option.description
  effect : option.effect.Padded carried own other.effect

structure ChoiceShape.Padded (carried own : Settings) (choice other : ChoiceShape) : Prop where
  label : other.label = choice.label
  description : other.description = choice.description
  definition : choice.definition.Padded carried own other.definition

structure GroupEffect.Padded (carried own : Settings) (effect other : GroupEffect) : Prop where
  same : ∃ params extra, other = { effect with params, extra }
  definition : effect.definition.Padded carried own other.definition

/-- The same is asked for, with an inert node inserted into something nested. -/
inductive Invocation.Padded (carried own : Settings) : Invocation Value → Invocation Value → Prop
  | composite {effects others : List Value}
      (each : Padding (Value.Padded carried own) (Value.Inert own) effects others) :
      Padded carried own (.composite effects) (.composite others)
  | repeated {effect other : Value} (count : Int) (here : effect.Padded carried own other) :
      Padded carried own (.repeated effect count) (.repeated other count)
  | conditional {whenTrue otherTrue : Value} {whenFalse otherFalse : Option Value}
    (condition : Condition)
      (isTrue : whenTrue.Padded carried own otherTrue)
      (isFalse : Option.Rel (Value.Padded carried own) whenFalse otherFalse) :
      Padded carried own (.conditional condition whenTrue whenFalse)
        (.conditional condition otherTrue otherFalse)
  | selectTarget {effect other : Value} (pool : Value) (here : effect.Padded carried own other) :
      Padded carried own (.selectTarget pool effect) (.selectTarget pool other)
  | selectConsume {effect other : Option Value} (cardType count : Value)
      (follow : Option.Rel (Value.Padded carried own) effect other) :
      Padded carried own (.selectConsume cardType count effect)
        (.selectConsume cardType count other)
  /-- What a group effect does by itself stays the same. -/
  | selectFromGroup {nested other : Option Value} (shape : GroupShape) (params extra : Fields)
      (here : Option.Rel (Value.Padded carried carried) nested other) :
      Padded carried own (.selectFromGroup shape nested)
        (.selectFromGroup { shape with effect := { shape.effect with params, extra } } other)
  | chooseOption {options others : List OptionShape} (title : Option String)
      (each : List.Forall₂ (OptionShape.Padded carried carried) options others) :
      Padded carried own (.chooseOption title (options.map fun option => (option, option.effect)))
        (.chooseOption title (others.map fun option => (option, option.effect)))
  | choice {choices others : List ChoiceShape}
      (each : List.Forall₂ (ChoiceShape.Padded carried carried) choices others) :
      Padded carried own (.choice (choices.map fun entry => (entry, entry.definition)))
        (.choice (others.map fun entry => (entry, entry.definition)))

section Shapes

variable {key : String} {value other : Value} {params otherParams : Fields}
  {ahead behind : List Value}

/-- The same shape is read, however many fields are read beside the one that differs. -/
theorem OptionShape.matched_read (inserted : value.Inserted carried .option own other) :
    Matched (OptionShape.Padded carried own) (OptionShape.read value) (OptionShape.read other) := by
  obtain ⟨fields, others, _, _, effect, otherEffect, rfl, rfl, isField, differ, within⟩ :=
    inserted.exists_field fun _ isItem => nomatch isItem
  cases isField with
  | option =>
      unfold OptionShape.read
      refine Matched.bind (.ok differ) fun fields others differ => ?_
      have read := differ.optional_eq .null Shape.any
      rw [differ.required_elsewhere (by simp), differ.optional_elsewhere (by simp), read.1, read.2]
      exact .after fun label => .after fun description => .ok ⟨rfl, rfl, .inr within⟩

/-- Nodes differ in nothing but their parameters. -/
theorem Value.Inserted.matched_fields (inserted : value.Inserted carried .node own other) :
    ∃ kind params otherParams, (Value.object params).Inserted carried (.params kind) own
      (.object otherParams) ∧
      Matched (fun fields others =>
        Fields.Differ "params" (.object params) (.object otherParams) fields others ∧
          EffectKind.ofValue? ((Value.object fields).get "type") = some kind)
        (Shape.fields value) (Shape.fields other) := by
  obtain ⟨kind, params, otherParams, objects, typed, within⟩ := inserted.exists_params
  obtain ⟨fields, others, rfl, rfl, differ⟩ := objects
  exact ⟨kind, params, otherParams, within, .ok ⟨differ, typed⟩⟩

theorem ChoiceShape.matched_read (inserted : value.Inserted carried .node own other) :
    Matched (ChoiceShape.Padded carried own) (ChoiceShape.read value) (ChoiceShape.read other) := by
  obtain ⟨kind, params, otherParams, within, differing⟩ := inserted.matched_fields
  unfold ChoiceShape.read
  refine differing.bind fun fields others ⟨differ, typed⟩ => ?_
  have read := differ.optional_eq [] Shape.fields
  rw [differ.required_elsewhere (by simp), differ.required_elsewhere (by simp),
    differ.optional_elsewhere (by simp), read.1, read.2]
  refine .after fun label => .after fun description => ?_
  cases isType : Shape.required fields ["type"] Shape.text with
  | error failure => exact .failed failure
  | ok type =>
      refine .ok ⟨rfl, rfl, .inr (.definition_params ?_ within)⟩
      obtain ⟨found, isFound, isText⟩ := Shape.lookup_of_required isType
      rw [Value.get, Value.get?, isFound, Shape.eq_text_of_text isText] at typed
      exact typed

/-- A name that may be null is what stands under its key. -/
theorem Shape.get_of_optional_name {fields : Fields} {name : Option String}
    (taken : Shape.optional fields [key] none (Shape.orNull Shape.text) = .ok name) :
    (Value.object fields).get key = name.elim .null .text := by
  rw [Value.get, Value.get?]
  rcases Shape.optional_cases taken with ⟨missing, rfl⟩ | ⟨field, found, isName⟩
  · rw [missing]
    rfl
  · rw [found]
    cases name with
    | some content => exact Shape.eq_text_of_orNull isName
    | none =>
        cases field <;> cases isName
        rfl

theorem Fields.Differ.shortcuts_eq {fields others : Fields} {value other : Value}
    (differ : Fields.Differ "params" value other fields others) :
    Shortcuts.read others = Shortcuts.read fields := by
  unfold Shortcuts.read
  simp (disch := simp) only [differ.optional_elsewhere]

theorem GroupEffect.matched_read (inserted : value.Inserted carried .node own other) :
    Matched (GroupEffect.Padded carried own) (GroupEffect.read value) (GroupEffect.read other) := by
  obtain ⟨kind, params, otherParams, within, differing⟩ := inserted.matched_fields
  unfold GroupEffect.read
  refine differing.bind fun fields others ⟨differ, typed⟩ => ?_
  have read := differ.optional_eq [] Shape.fields
  rw [differ.shortcuts_eq, differ.optional_elsewhere (by simp), read.1, read.2]
  refine .after fun shortcuts => ?_
  cases isType : Shape.optional fields ["type"] none (Shape.orNull Shape.text) with
  | error failure => exact .failed failure
  | ok type =>
      rw [Shape.get_of_optional_name isType] at typed
      exact .ok ⟨⟨_, _, rfl⟩, .inr (.definition_params typed within)⟩

/-- Lists that differ in one of their items are read item by item. -/
theorem Shape.matched_list {α : Type} {fits : α → α → Prop} {read : Shape.Reader α}
    (same : ∀ entry, fits entry entry) (here : Matched fits (read value) (read other)) :
    Matched (List.Forall₂ fits) (Shape.list read (.list (ahead ++ value :: behind)))
      (Shape.list read (.list (ahead ++ other :: behind))) := by
  have each (items : List Value) :
      List.Forall₂ (fun item other => Matched fits (read item) (read other)) items items :=
    List.forall₂_same.2 fun item _ => .refl fun entry _ => same entry
  exact .mapM (List.rel_append (each ahead) (.cons here (each behind)))

theorem matched_options (inserted : value.Inserted carried .options own other) :
    Matched (List.Forall₂ (OptionShape.Padded carried own)) (Shape.list OptionShape.read value)
      (Shape.list OptionShape.read other) := by
  cases inserted with
  | item isItem within =>
      cases isItem
      exact Shape.matched_list (fun option => ⟨rfl, rfl, .refl _⟩) (OptionShape.matched_read within)
  | field isField => cases isField

theorem matched_choices (inserted : value.Inserted carried .choices own other) :
    Matched (List.Forall₂ (ChoiceShape.Padded carried own)) (Shape.list ChoiceShape.read value)
      (Shape.list ChoiceShape.read other) := by
  cases inserted with
  | item isItem within =>
      cases isItem
      exact Shape.matched_list (fun choice => ⟨rfl, rfl, .refl _⟩) (ChoiceShape.matched_read within)
  | field isField => cases isField

end Shapes

namespace Invocation

section Binding

variable {value other : Value} {fields others : Fields}

theorem matched_bindComposite (differ : Fields.Differ "effects" value other fields others)
    (inserted : value.Inserted carried .effects own other) :
    Matched (Invocation.Padded carried own) (bindComposite (.object fields))
      (bindComposite (.object others)) := by
  obtain ⟨effects, otherEffects, rfl, rfl, padding⟩ := inserted.exists_effects
  have elements (items : List Value) :
      ((Value.list items).orElse (.list [])).elements? = some items := by
    cases items <;> rfl
  unfold bindComposite
  refine differ.matched_part.bind ?_
  rintro _ _ ⟨rfl, rfl⟩
  dsimp only [Option.getD_some]
  rw [elements, elements]
  exact .ok (.composite padding)

theorem matched_bindRepeated (differ : Fields.Differ "effect" value other fields others)
    (inserted : value.Inserted carried .definition own other) :
    Matched (Invocation.Padded carried own) (bindRepeated (.object fields))
      (bindRepeated (.object others)) := by
  unfold bindRepeated
  refine differ.matched_mentions.bind ?_
  rintro _ _ ⟨rfl, rfl⟩
  simp only [Bool.not_true, Bool.false_eq_true, if_false]
  refine differ.matched_named.bind ?_
  rintro _ _ ⟨rfl, rfl⟩
  rw [differ.part_elsewhere (by simp)]
  exact .after fun count => .after fun rounds => .ok (.repeated rounds (.inr inserted))

theorem matched_bindSelectTarget (differ : Fields.Differ "effect" value other fields others)
    (inserted : value.Inserted carried .definition own other) :
    Matched (Invocation.Padded carried own) (bindSelectTarget (.object fields))
      (bindSelectTarget (.object others)) := by
  unfold bindSelectTarget
  rw [differ.part_elsewhere (by simp)]
  refine .after fun pool => differ.matched_part.bind ?_
  rintro _ _ ⟨rfl, rfl⟩
  exact .ok (.selectTarget _ (.inr inserted))

theorem matched_bindSelectConsume (differ : Fields.Differ "effect" value other fields others)
    (inserted : value.Inserted carried .definition own other) :
    Matched (Invocation.Padded carried own) (bindSelectConsume (.object fields))
      (bindSelectConsume (.object others)) := by
  unfold bindSelectConsume
  refine differ.matched_part.bind ?_
  rintro _ _ ⟨rfl, rfl⟩
  rw [differ.part_elsewhere (show "cardType" ≠ "effect" by simp),
    differ.part_elsewhere (show "count" ≠ "effect" by simp)]
  exact .after fun cardType => .after fun count =>
    .ok (.selectConsume _ _ (Value.Padded.present (.inr inserted)))

/-- One of the two definitions differs; the other one is read from the same part. -/
theorem matched_bindConditional {key : String}
    (isBranch : key = "effectIfTrue" ∨ key = "effectIfFalse")
    (differ : Fields.Differ key value other fields others)
    (inserted : value.Inserted carried .definition own other) :
    Matched (Invocation.Padded carried own) (bindConditional (.object fields))
      (bindConditional (.object others)) := by
  have isOther : "condition" ≠ key := by rcases isBranch with rfl | rfl <;> simp
  have branch : Value.Padded carried own value other := .inr inserted
  unfold bindConditional
  rw [differ.mentions_elsewhere isOther, differ.named_elsewhere isOther]
  have mentions : Matched (fun mentioned other => other = mentioned)
      (mentions (.object fields) "effectIfTrue") (mentions (.object others) "effectIfTrue") := by
    rcases isBranch with rfl | rfl
    · exact differ.matched_mentions.weaken fun _ _ both => both.2.trans both.1.symm
    · rw [differ.mentions_elsewhere (by simp)]
      exact .refl fun _ _ => rfl
  have named : Matched (Value.Padded carried own) (named (.object fields) "effectIfTrue")
      (named (.object others) "effectIfTrue") := by
    rcases isBranch with rfl | rfl
    · exact differ.matched_named.weaken fun _ _ ⟨same, sameOther⟩ => same ▸ sameOther ▸ branch
    · rw [differ.named_elsewhere (by simp)]
      exact .refl fun part _ => .refl part
  have part :
      Matched (fun part otherPart =>
        Value.Padded carried own (part.getD .null) (otherPart.getD .null))
      (part (.object fields) "effectIfFalse") (part (.object others) "effectIfFalse") := by
    rcases isBranch with rfl | rfl
    · rw [differ.part_elsewhere (by simp)]
      exact .refl fun part _ => .refl _
    · exact differ.matched_part.weaken fun _ _ ⟨same, sameOther⟩ => same ▸ sameOther ▸ branch
  refine .after fun mentioned => .ite (.failed _) (mentions.bind ?_)
  rintro mentioned _ rfl
  refine .ite (.failed _) (.after fun given => .after fun condition => ?_)
  exact named.bind fun whenTrue otherTrue isTrue => part.bind fun whenFalse otherFalse isFalse =>
    .ok (.conditional condition isTrue isFalse.present)

theorem matched_bindSelectFromGroup (differ : Fields.Differ "effect" value other fields others)
    (inserted : value.Inserted carried .node carried other) :
    Matched (Invocation.Padded carried own) (bindSelectFromGroup (.object fields))
      (bindSelectFromGroup (.object others)) := by
  have read : Matched (fun shape other => ∃ effect, other = { shape with effect } ∧
      GroupEffect.Padded carried carried shape.effect effect)
      (GroupShape.read (given (.object fields))) (GroupShape.read (given (.object others))) := by
    unfold GroupShape.read
    rw [differ.given_eq.1, differ.given_eq.2]
    refine Matched.bind (.ok differ) fun fields others differ => ?_
    have read := differ.optional_eq {} GroupEffect.read
    simp (disch := simp) only [differ.required_elsewhere, differ.optional_elsewhere, read.1, read.2]
    refine .after fun group => .after fun title =>
      (GroupEffect.matched_read inserted).bind fun _ _ padded => ?_
    exact .after fun renderCards => .ok ⟨_, rfl, padded⟩
  unfold bindSelectFromGroup
  refine read.bind ?_
  rintro shape _ ⟨_, rfl, ⟨params, extra, rfl⟩, padded⟩
  refine .ok (.selectFromGroup shape params extra ?_)
  cases typed : shape.effect.hasType with
  | true =>
      have typedOther : GroupEffect.hasType { shape.effect with params, extra } = true := typed
      rw [typedOther]
      exact .some padded
  | false =>
      have typedOther : GroupEffect.hasType { shape.effect with params, extra } = false := typed
      rw [typedOther]
      exact .none

theorem matched_bindChooseOption (differ : Fields.Differ "options" value other fields others)
    (inserted : value.Inserted carried .options carried other) :
    Matched (Invocation.Padded carried own) (bindChooseOption (.object fields))
      (bindChooseOption (.object others)) := by
  have read : Matched (fun shape other => other.title = shape.title ∧
      List.Forall₂ (OptionShape.Padded carried carried) shape.options other.options)
      (MenuShape.read (given (.object fields))) (MenuShape.read (given (.object others))) := by
    unfold MenuShape.read
    rw [differ.given_eq.1, differ.given_eq.2]
    refine Matched.bind (.ok differ) fun fields others differ => ?_
    have read := differ.optional_eq [] (Shape.list OptionShape.read)
    rw [differ.optional_elsewhere (by simp), read.1, read.2]
    refine .after fun title => (matched_options inserted).bind fun _ _ each => .ok ⟨rfl, each⟩
  unfold bindChooseOption
  refine read.bind fun shape other ⟨same, each⟩ => .ok ?_
  rw [same]
  exact .chooseOption shape.title each

theorem matched_bindChoice (differ : Fields.Differ "choices" value other fields others)
    (inserted : value.Inserted carried .choices carried other) :
    Matched (Invocation.Padded carried own) (bindChoice (.object fields))
      (bindChoice (.object others)) := by
  have read : Matched (List.Forall₂ (ChoiceShape.Padded carried carried))
      (ChoiceShape.readAll (given (.object fields)))
        (ChoiceShape.readAll (given (.object others))) := by
    unfold ChoiceShape.readAll
    rw [differ.given_eq.1, differ.given_eq.2]
    refine Matched.bind (.ok differ) fun fields others differ => ?_
    have read := differ.optional_eq [] (Shape.list ChoiceShape.read)
    rw [read.1, read.2]
    exact matched_choices inserted
  exact read.bind fun _ _ each => .ok (.choice each)

end Binding

/-- Binding leaves an inserted node where it is. -/
theorem matched_bind {kind : EffectKind} {params otherParams : Value}
    (inserted : params.Inserted carried (.params kind) own otherParams) :
    Matched (Invocation.Padded carried own) (bind kind params) (bind kind otherParams) := by
  obtain ⟨fields, others, _, _, value, other, rfl, rfl, isField, differ, within⟩ :=
    inserted.exists_field fun _ isItem => nomatch isItem
  cases isField with
  | composite => exact matched_bindComposite differ within
  | repeated => exact matched_bindRepeated differ within
  | whenTrue => exact matched_bindConditional (.inl rfl) differ within
  | whenFalse => exact matched_bindConditional (.inr rfl) differ within
  | selectTarget => exact matched_bindSelectTarget differ within
  | selectConsume => exact matched_bindSelectConsume differ within
  | selectFromGroup => exact matched_bindSelectFromGroup differ within
  | chooseOption => exact matched_bindChooseOption differ within
  | choice => exact matched_bindChoice differ within

end Invocation

/-- The same is read, with an inert node inserted. -/
inductive Reading.Padded (carried own : Settings) : Reading → Reading → Prop
  | same (reading : Reading) : Padded carried own reading reading
  | sequence {definitions others : List Value}
      (each : Padding (Value.Padded carried own) (Value.Inert own) definitions others) :
      Padded carried own (.sequence definitions) (.sequence others)
  | invocation {asked other : Invocation Value}
    (padded : Invocation.Padded carried own asked other) :
      Padded carried own (.invocation asked) (.invocation other)

theorem Reading.padded_ofBinding {kind : EffectKind}
    {bound other : Except Failure (Invocation Value)}
    (matched : Matched (Invocation.Padded carried own) bound other) :
    Reading.Padded carried own (.ofBinding kind bound) (.ofBinding kind other) := by
  cases matched with
  | ok padded => exact .invocation padded
  | failed failure => exact .same _

/-- A definition with an inert node inserted is read like the definition itself. -/
theorem Value.Padded.reading {definition other : Value}
    (padded : definition.Padded carried own other) :
    Reading.Padded carried own (Reading.ofValue definition) (Reading.ofValue other) := by
  rcases padded with rfl | inserted
  · exact .same _
  have present := inserted.isTruthy
  rcases inserted.definition_cases
    with ⟨items, others, rfl, rfl, -, -, padding⟩ | ⟨kind, params, otherParams, node⟩
  · rw [Reading.ofValue, Reading.ofValue, present.1, present.2]
    exact .sequence padding
  · obtain ⟨⟨fields, others, rfl, rfl, differ⟩, typed, within⟩ := node
    have same : (Value.object others).get "type" = (Value.object fields).get "type" :=
      differ.get_elsewhere (by simp)
    rw [Reading.ofValue, Reading.ofValue, present.1, present.2]
    dsimp only
    rw [same, typed, differ.get_eq.1, differ.get_eq.2]
    exact Reading.padded_ofBinding (Invocation.matched_bind within)

end CreatureCards
