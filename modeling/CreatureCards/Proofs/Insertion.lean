import CreatureCards.Proofs.Accord
import CreatureCards.Proofs.AuthoredFields
import CreatureCards.Reading

/-!
# Inserted nodes

A definition nests further definitions, in lists and in the parameters of its effect
types.  Into such a list a node may be inserted that amounts to nothing, or one whose
effect type does not exist if the settings that govern the list only report that.  The
settings of the resolver govern a definition; what is nested in menus and picks from
target groups is governed by those that the context carries.

Binding leaves the inserted node where it is: the invocations differ in one of their
nested definitions or in a further effect of a composite, and fail in the same way.
-/

namespace CreatureCards

/-- The lists fit item by item, up to idle items that were inserted into the second. -/
inductive Padding {α β : Type} (fits : α → β → Prop) (idle : β → Prop) : List α → List β → Prop
  | nil : Padding fits idle [] []
  | keep {item : α} {other : β} {items : List α} {others : List β} (here : fits item other)
      (later : Padding fits idle items others) : Padding fits idle (item :: items) (other :: others)
  | insert {other : β} {items : List α} {others : List β} (isIdle : idle other)
      (later : Padding fits idle items others) : Padding fits idle items (other :: others)

namespace Padding

variable {α β γ δ : Type} {fits : α → β → Prop} {idle : β → Prop} {items more : List α}
  {others otherMore : List β}

theorem of_forall₂ (each : List.Forall₂ fits items others) : Padding fits idle items others := by
  induction each with
  | nil => exact .nil
  | cons here _ ih => exact .keep here ih

theorem append (first : Padding fits idle items others) (later : Padding fits idle more otherMore) :
    Padding fits idle (items ++ more) (others ++ otherMore) := by
  induction first with
  | nil => exact later
  | keep here _ ih => exact .keep here ih
  | insert isIdle _ ih => exact .insert isIdle ih

theorem imp {wider : α → β → Prop} {idler : β → Prop} (padding : Padding fits idle items others)
    (each : ∀ item ∈ items, ∀ other, fits item other → wider item other)
    (idles : ∀ other, idle other → idler other) : Padding wider idler items others := by
  induction padding with
  | nil => exact .nil
  | keep here _ ih =>
      obtain ⟨isFit, areFit⟩ := List.forall_mem_cons.1 each
      exact .keep (isFit _ here) (ih areFit)
  | insert isIdle _ ih => exact .insert (idles _ isIdle) (ih each)

theorem map {make : γ → α} {otherMake : δ → β} {items : List γ} {others : List δ}
    (padding : Padding (fun item other => fits (make item) (otherMake other))
      (fun other => idle (otherMake other))
      items others) : Padding fits idle (items.map make) (others.map otherMake) := by
  induction padding with
  | nil => exact .nil
  | keep here _ ih => exact .keep here ih
  | insert isIdle _ ih => exact .insert isIdle ih

end Padding

/-- What a part of an authored definition stands for. -/
inductive Slot where
  /-- An effect type with its parameters, or a list of definitions. -/
  | definition
  /-- An effect type with its parameters. -/
  | node
  /-- The effects of a composite. -/
  | effects
  | options
  | option
  | choices
  | params (kind : EffectKind)

namespace Slot

/-- What the items of a list stand for. -/
inductive Item : Slot → Slot → Prop
  | definition : Item .definition .definition
  | effect : Item .effects .definition
  | option : Item .options .option
  | choice : Item .choices .node

/-- What a field of an object stands for, if its effect type exists. -/
inductive Field (object : Value) : Slot → String → Slot → Prop
  | definition {kind : EffectKind} (typed : EffectKind.ofValue? (object.get "type") = some kind) :
      Field object .definition "params" (.params kind)
  | node {kind : EffectKind} (typed : EffectKind.ofValue? (object.get "type") = some kind) :
      Field object .node "params" (.params kind)
  | composite : Field object (.params .composite) "effects" .effects
  | repeated : Field object (.params .repeated) "effect" .definition
  | whenTrue : Field object (.params .conditional) "effectIfTrue" .definition
  | whenFalse : Field object (.params .conditional) "effectIfFalse" .definition
  | selectTarget : Field object (.params .selectTarget) "effect" .definition
  | selectConsume : Field object (.params .selectConsume) "effect" .definition
  | selectFromGroup : Field object (.params .selectFromGroup) "effect" .node
  | chooseOption : Field object (.params .chooseOption) "options" .options
  | choice : Field object (.params .choice) "choices" .choices
  | option : Field object .option "effect" .definition

/-- The settings that govern the fields, of the resolver's own and those that the context
carries. -/
def governing (slot : Slot) (own carried : Settings) : Settings :=
  match slot with
  | params .selectFromGroup | params .chooseOption | params .choice => carried
  | _ => own

end Slot

namespace Value

/-- The node amounts to nothing, or its effect type does not exist and the settings only
report that. -/
def Inert (own : Settings) (node : Value) : Prop :=
  Reading.ofValue node = .nothing ∨ ∃ type, Reading.ofValue node = .unknown type ∧
    own.strict = false

/-- An inert node was inserted somewhere: into a list of definitions that is not empty, or
among the effects of a composite. -/
inductive Inserted (carried : Settings) : Slot → Settings → Value → Value → Prop
  | node {own : Settings} {node : Value} {ahead behind : List Value} (isInert : node.Inert own)
      (isList : ahead ++ behind ≠ []) :
      Inserted carried .definition own (.list (ahead ++ behind)) (.list (ahead ++ node :: behind))
  | effect {own : Settings} {node : Value} {ahead behind : List Value} (isInert : node.Inert own) :
      Inserted carried .effects own (.list (ahead ++ behind)) (.list (ahead ++ node :: behind))
  | item {slot part : Slot} {own : Settings} {value other : Value} {ahead behind : List Value}
      (isItem : slot.Item part) (within : Inserted carried part own value other) :
      Inserted carried slot own (.list (ahead ++ value :: behind))
        (.list (ahead ++ other :: behind))
  | field {slot part : Slot} {own : Settings} {key : String} {value other : Value}
    {ahead behind : Fields}
      (isField : slot.Field (.object (ahead ++ (key, value) :: behind)) key part)
      (isFirst : key ∉ ahead.map Prod.fst)
      (within : Inserted carried part (slot.governing own carried) value other) :
      Inserted carried slot own (.object (ahead ++ (key, value) :: behind))
        (.object (ahead ++ (key, other) :: behind))

/-- The definition, or the definition with an inert node inserted. -/
def Padded (carried own : Settings) (definition other : Value) : Prop :=
  other = definition ∨ definition.Inserted carried .definition own other

end Value

/-- The objects have the same under every key but one. -/
structure Fields.Differ (key : String) (value other : Value) (fields others : Fields) : Prop where
  here : fields.lookup key = some value
  there : others.lookup key = some other
  elsewhere : ∀ name, name ≠ key → others.lookup name = fields.lookup name

section Differing

variable {key : String} {value other : Value} {fields others ahead behind : Fields}

theorem Fields.differ_at (isFirst : key ∉ ahead.map Prod.fst) :
    Fields.Differ key value other (ahead ++ (key, value) :: behind)
      (ahead ++ (key, other) :: behind) := by
  have skipped (found : Value) : (ahead ++ (key, found) :: behind).lookup key = some found := by
    rw [List.lookup_append, KeyedList.lookup_eq_none_of_not_mem isFirst, List.lookup_cons_self]
    rfl
  refine ⟨skipped value, skipped other, fun name differs => ?_⟩
  have isOther : (name == key) = false := beq_eq_false_iff_ne.2 differs
  simp only [List.lookup_append, List.lookup_cons, isOther]

namespace Fields.Differ

variable (differ : Fields.Differ key value other fields others)

include differ

theorem get_eq : (Value.object fields).get key = value ∧ (Value.object others).get key = other := by
  unfold Value.get Value.get?
  dsimp only
  rw [differ.here, differ.there]
  exact ⟨rfl, rfl⟩

theorem get_elsewhere {name : String} (isOther : name ≠ key) :
    (Value.object others).get name = (Value.object fields).get name := by
  unfold Value.get Value.get?
  dsimp only
  rw [differ.elsewhere name isOther]

theorem ne_nil : fields ≠ [] ∧ others ≠ [] := by
  obtain ⟨here, there, -⟩ := differ
  refine ⟨?_, ?_⟩
  · rintro rfl
    cases here
  · rintro rfl
    cases there

theorem isTruthy :
    (Value.object fields).isTruthy = true ∧ (Value.object others).isTruthy = true := by
  simpa [Value.isTruthy] using differ.ne_nil

theorem given_eq : Invocation.given (.object fields) = .object fields ∧
    Invocation.given (.object others) = .object others := by
  unfold Invocation.given Value.orElse
  rw [differ.isTruthy.1, differ.isTruthy.2]
  exact ⟨rfl, rfl⟩

/-- The part that stands under the key. -/
theorem matched_part : Matched (fun part otherPart => part = some value ∧ otherPart = some other)
    (Invocation.part (.object fields) key) (Invocation.part (.object others) key) := by
  unfold Invocation.part
  rw [differ.given_eq.1, differ.given_eq.2]
  exact .ok ⟨differ.here, differ.there⟩

theorem part_elsewhere {name : String} (isOther : name ≠ key) :
    Invocation.part (.object others) name = Invocation.part (.object fields) name := by
  unfold Invocation.part
  rw [differ.given_eq.1, differ.given_eq.2]
  exact congrArg Except.ok (differ.elsewhere name isOther)

theorem matched_named : Matched (fun part otherPart => part = value ∧ otherPart = other)
    (Invocation.named (.object fields) key) (Invocation.named (.object others) key) := by
  unfold Invocation.named
  rw [differ.given_eq.1, differ.given_eq.2]
  dsimp only
  rw [differ.here, differ.there]
  exact .ok ⟨rfl, rfl⟩

theorem named_elsewhere {name : String} (isOther : name ≠ key) :
    Invocation.named (.object others) name = Invocation.named (.object fields) name := by
  unfold Invocation.named
  rw [differ.given_eq.1, differ.given_eq.2]
  dsimp only
  rw [differ.elsewhere name isOther]

theorem matched_mentions :
    Matched (fun mentioned otherMentioned => mentioned = true ∧ otherMentioned = true)
    (Invocation.mentions (.object fields) key) (Invocation.mentions (.object others) key) := by
  unfold Invocation.mentions
  rw [differ.given_eq.1, differ.given_eq.2]
  dsimp only
  rw [differ.here, differ.there]
  exact .ok ⟨rfl, rfl⟩

theorem mentions_elsewhere {name : String} (isOther : name ≠ key) :
    Invocation.mentions (.object others) name = Invocation.mentions (.object fields) name := by
  unfold Invocation.mentions
  rw [differ.given_eq.1, differ.given_eq.2]
  dsimp only
  rw [differ.elsewhere name isOther]

theorem find?_elsewhere {keys : List String} (isOther : key ∉ keys) :
    Shape.find? others keys = Shape.find? fields keys := by
  unfold Shape.find?
  induction keys with
  | nil => rfl
  | cons name rest ih =>
      obtain ⟨differs, areOthers⟩ := not_or.1 (mt List.mem_cons.2 isOther)
      rw [List.findSome?_cons, List.findSome?_cons, differ.elsewhere name (Ne.symm differs),
        ih areOthers]

theorem optional_elsewhere {α : Type} {keys : List String} (isOther : key ∉ keys) (fallback : α)
    (read : Shape.Reader α) :
    Shape.optional others keys fallback read = Shape.optional fields keys fallback read := by
  unfold Shape.optional
  rw [differ.find?_elsewhere isOther]

theorem required_elsewhere {α : Type} {keys : List String} (isOther : key ∉ keys)
    (read : Shape.Reader α) :
    Shape.required others keys read = Shape.required fields keys read := by
  unfold Shape.required
  rw [differ.find?_elsewhere isOther]

theorem optional_eq {α : Type} (fallback : α) (read : Shape.Reader α) :
    Shape.optional fields [key] fallback read = read value ∧
      Shape.optional others [key] fallback read = read other := by
  unfold Shape.optional Shape.find?
  rw [List.findSome?_singleton, List.findSome?_singleton, differ.here, differ.there]
  exact ⟨rfl, rfl⟩

end Fields.Differ

end Differing

namespace Value

variable {carried own : Settings} {slot : Slot} {definition value other : Value}
  {ahead behind : List Value}

theorem Padded.refl (definition : Value) : Padded carried own definition definition :=
  .inl rfl

theorem forall₂_padded (values : List Value) : List.Forall₂ (Padded carried own) values values :=
  List.forall₂_same.2 fun value _ => .refl value

theorem Padded.padding_at (here : value.Padded carried own other) :
    Padding (Padded carried own) (Inert own) (ahead ++ value :: behind)
      (ahead ++ other :: behind) :=
  .append (.of_forall₂ (forall₂_padded ahead)) (.keep here (.of_forall₂ (forall₂_padded behind)))

theorem Inert.padding_at {node : Value} (isInert : node.Inert own) :
    Padding (Padded carried own) (Inert own) (ahead ++ behind) (ahead ++ node :: behind) :=
  .append (.of_forall₂ (forall₂_padded ahead))
    (.insert isInert (.of_forall₂ (forall₂_padded behind)))

namespace Inserted

/-- The effects of a composite are a list. -/
theorem exists_effects (inserted : value.Inserted carried .effects own other) :
    ∃ items others, value = .list items ∧ other = .list others ∧
      Padding (Padded carried own) (Inert own) items others := by
  cases inserted with
  | effect isInert => exact ⟨_, _, rfl, rfl, isInert.padding_at⟩
  | item isItem within =>
      cases isItem
      exact ⟨_, _, rfl, rfl, Padded.padding_at (.inr within)⟩
  | field isField => cases isField

/-- Where no list is expected, an object differs in one of its fields. -/
theorem exists_field (inserted : value.Inserted carried slot own other)
    (single : ∀ part, ¬ slot.Item part) :
    ∃ fields others key part inner otherInner, value = .object fields ∧ other = .object others ∧
      slot.Field value key part ∧ Fields.Differ key inner otherInner fields others ∧
      inner.Inserted carried part (slot.governing own carried) otherInner := by
  cases inserted with
  | node => exact absurd .definition (single _)
  | effect => exact absurd .effect (single _)
  | item isItem => exact absurd isItem (single _)
  | field isField isFirst within =>
      exact ⟨_, _, _, _, _, _, rfl, rfl, isField, Fields.differ_at isFirst, within⟩

/-- The parameters in which two nodes differ. -/
structure Params (carried own : Settings) (node other : Value) (kind : EffectKind)
    (params otherParams : Fields) :
    Prop where
  objects : ∃ fields others, node = .object fields ∧ other = .object others ∧
    Fields.Differ "params" (.object params) (.object otherParams) fields others
  typed : EffectKind.ofValue? (node.get "type") = some kind
  within : (Value.object params).Inserted carried (.params kind) own (.object otherParams)

theorem exists_params_of_object {kind : EffectKind} {fields others : Fields}
    {params otherParams : Value} (differ : Fields.Differ "params" params otherParams fields others)
    (typed : EffectKind.ofValue? ((Value.object fields).get "type") = some kind)
    (within : params.Inserted carried (.params kind) own otherParams) :
    ∃ kind params otherParams, Params carried own (.object fields) (.object others) kind params
      otherParams := by
  obtain ⟨inner, otherInner, _, _, _, _, rfl, rfl, -⟩ :=
    within.exists_field fun _ isItem => nomatch isItem
  exact ⟨kind, inner, otherInner, ⟨fields, others, rfl, rfl, differ⟩, typed, within⟩

theorem exists_params (inserted : value.Inserted carried .node own other) :
    ∃ kind params otherParams, Params carried own value other kind params otherParams := by
  obtain ⟨fields, others, _, _, _, _, rfl, rfl, isField, differ, within⟩ :=
    inserted.exists_field fun _ isItem => nomatch isItem
  cases isField with
  | node typed => exact exists_params_of_object differ typed within

/-- A definition is a list that is not empty, or a node with parameters. -/
theorem definition_cases (inserted : definition.Inserted carried .definition own other) :
    (∃ items others, definition = .list items ∧ other = .list others ∧ items ≠ [] ∧ others ≠ [] ∧
      Padding (Padded carried own) (Inert own) items others) ∨
    ∃ kind params otherParams, Params carried own definition other kind params otherParams := by
  cases inserted with
  | node isInert isList =>
      exact .inl ⟨_, _, rfl, rfl, isList, by simp, isInert.padding_at⟩
  | item isItem within =>
      cases isItem
      exact .inl ⟨_, _, rfl, rfl, by simp, by simp, Padded.padding_at (.inr within)⟩
  | field isField isFirst within =>
      cases isField with
      | definition typed =>
          exact .inr (exists_params_of_object (Fields.differ_at isFirst) typed within)

theorem isTruthy (inserted : definition.Inserted carried .definition own other) :
    definition.isTruthy = true ∧ other.isTruthy = true := by
  rcases inserted.definition_cases
    with ⟨items, others, rfl, rfl, some, otherSome, -⟩ | ⟨_, _, _, ⟨objects, -, -⟩⟩
  · simp [Value.isTruthy, some, otherSome]
  · obtain ⟨fields, others, rfl, rfl, differ⟩ := objects
    exact differ.isTruthy

/-- A node is a definition of its own. -/
theorem definition_params {type : Value} {kind : EffectKind} {params otherParams : Fields}
    (typed : EffectKind.ofValue? type = some kind)
    (within : (Value.object params).Inserted carried (.params kind) own (.object otherParams)) :
    (Value.definition type params).Inserted carried .definition own
      (Value.definition type otherParams) := by
  have isField :
      Slot.Field (.object ([("type", type)] ++ ("params", .object params) :: []))
        .definition "params"
      (.params kind) := .definition typed
  exact .field isField (by simp) within

end Inserted

/-- Both definitions count as present, or neither does. -/
theorem Padded.present (padded : definition.Padded carried own other) :
    Option.Rel (Padded carried own) (if definition.isTruthy then some definition else none)
      (if other.isTruthy then some other else none) := by
  rcases padded with rfl | inserted
  · split
    · exact .some (.refl other)
    · exact .none
  · rw [if_pos inserted.isTruthy.1, if_pos inserted.isTruthy.2]
    exact .some (.inr inserted)

end Value

end CreatureCards
