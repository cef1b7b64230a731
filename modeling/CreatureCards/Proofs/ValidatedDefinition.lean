import CreatureCards.Proofs.CleanCheck
import CreatureCards.Proofs.UsableDefinition

/-!
# Validated definitions

What a clean check leaves open.  A check follows the nested definitions that an
effect may come to resolve, with two exceptions: an object in place of the effects
of a composite is checked as one definition but resolved as the list of its keys,
and a group effect with a shortcut is not checked for the definition that it also
nests.  Without either, a definition that passes its check is usable.
-/

namespace CreatureCards

namespace Validation

theorem isDefinition_of_isNestable {effect : Value} (nestable : effect.isNestable = true) :
    isDefinition effect = true := by
  cases effect with
  | list items => rfl
  | object fields =>
      cases found : fields.lookup "type" with
      | none =>
          rw [Value.isNestable, Value.get, Value.get?, found] at nestable
          cases nestable
      | some type => rw [isDefinition, found, Option.isSome_some]
  | _ => cases nestable

end Validation

namespace Invocation

open Validation

variable {params nested : Value} {path : String} {asked : Invocation Value}

theorem approved_of_bindComposite (clean : Clean (checkParams .composite params path))
    (closed : ∀ fields, params.get "effects" = .object fields → fields = [])
    (bound : bindComposite params = .ok asked) (member : nested ∈ asked.pursued) :
    Approved nested := by
  obtain ⟨found, taken, stepped⟩ := bind_eq_ok.1 bound
  rw [getD_of_part taken] at stepped
  rw [checkParams] at clean
  split at clean
  · rename_i present
    rw [Value.orElse, if_pos present] at stepped
    rcases clean.definition_cases with ⟨items, isList, each⟩ | ⟨fields, isObject, -⟩
    · rw [isList] at stepped
      cases stepped
      exact each nested member
    · rw [isObject, closed fields isObject] at present
      cases present
  · rename_i absent
    rw [Value.orElse, if_neg absent] at stepped
    cases stepped
    cases member

theorem approved_of_bindRepeated (clean : Clean (checkParams .repeated params path))
    (bound : bindRepeated params = .ok asked) (member : nested ∈ asked.pursued) :
    Approved nested := by
  rw [checkParams] at clean
  obtain ⟨_, _, goesOn⟩ := bind_eq_ok.1 bound
  split at goesOn
  · exact absurd goesOn throw_bind_ne_ok
  · obtain ⟨effect, taken, goesOn⟩ := bind_eq_ok.1 goesOn
    obtain ⟨_, _, goesOn⟩ := bind_eq_ok.1 goesOn
    obtain ⟨_, _, same⟩ := bind_eq_ok.1 goesOn
    cases same
    cases List.mem_singleton.1 member
    exact eq_get_of_named taken ▸ clean.nested

theorem approved_of_bindConditional (clean : Clean (checkParams .conditional params path))
    (bound : bindConditional params = .ok asked) (member : nested ∈ asked.pursued) :
    Approved nested := by
  rw [checkParams] at clean
  obtain ⟨_, checked, none⟩ := clean
  obtain ⟨condition, _, checked⟩ := bind_eq_ok.1 checked
  obtain ⟨onTrue, checkedTrue, checked⟩ := bind_eq_ok.1 checked
  obtain ⟨onFalse, checkedFalse, same⟩ := bind_eq_ok.1 checked
  cases same
  rw [Findings.errors_append, Findings.errors_append, List.append_eq_nil_iff,
    List.append_eq_nil_iff] at none
  obtain ⟨_, _, goesOn⟩ := bind_eq_ok.1 bound
  split at goesOn
  · exact absurd goesOn throw_bind_ne_ok
  obtain ⟨_, _, goesOn⟩ := bind_eq_ok.1 goesOn
  split at goesOn
  · exact absurd goesOn throw_bind_ne_ok
  obtain ⟨_, _, goesOn⟩ := bind_eq_ok.1 goesOn
  obtain ⟨_, _, goesOn⟩ := bind_eq_ok.1 goesOn
  obtain ⟨whenTrue, takenTrue, goesOn⟩ := bind_eq_ok.1 goesOn
  obtain ⟨found, takenFalse, same⟩ := bind_eq_ok.1 goesOn
  cases same
  cases List.mem_cons.1 member with
  | inl isTrue =>
      rw [isTrue, eq_get_of_named takenTrue]
      exact Clean.nested ⟨onTrue, checkedTrue, none.1.2⟩
  | inr isFalse =>
      rw [getD_of_part takenFalse] at isFalse
      split at isFalse
      · cases List.mem_singleton.1 isFalse
        exact Clean.nested ⟨onFalse, checkedFalse, none.2⟩
      · cases isFalse

theorem approved_of_bindSelectTarget (clean : Clean (checkParams .selectTarget params path))
    (bound : bindSelectTarget params = .ok asked) (member : nested ∈ asked.pursued) :
    Approved nested := by
  rw [checkParams] at clean
  obtain ⟨_, _, goesOn⟩ := bind_eq_ok.1 bound
  obtain ⟨found, taken, same⟩ := bind_eq_ok.1 goesOn
  cases same
  cases List.mem_singleton.1 member
  exact getD_of_part taken ▸ clean.nested

theorem approved_of_bindSelectConsume (clean : Clean (checkParams .selectConsume params path))
    (bound : bindSelectConsume params = .ok asked) (member : nested ∈ asked.pursued) :
    Approved nested := by
  rw [checkParams] at clean
  obtain ⟨found, taken, goesOn⟩ := bind_eq_ok.1 bound
  obtain ⟨_, _, goesOn⟩ := bind_eq_ok.1 goesOn
  obtain ⟨_, _, same⟩ := bind_eq_ok.1 goesOn
  cases same
  rw [getD_of_part taken] at member
  change nested ∈ Option.toList (if _ then _ else _) at member
  split at member
  · cases List.mem_singleton.1 member
    exact clean.nested
  · cases member

/-- The definition that a pick from a group nests comes from its group effect. -/
theorem exists_groupEffect_of_pursued (bound : bindSelectFromGroup params = .ok asked)
    (member : nested ∈ asked.pursued) :
    ∃ effect, GroupEffect.read (params.get "effect") = .ok effect ∧ effect.hasType = true ∧
      nested = effect.definition := by
  obtain ⟨shape, isShape, same⟩ := bind_eq_ok.1 bound
  cases same
  change nested ∈ Option.toList (if _ then _ else _) at member
  split at member
  case isFalse => cases member
  rename_i typed
  obtain ⟨fields, isObject, goesOn⟩ := bind_eq_ok.1 isShape
  obtain ⟨_, _, goesOn⟩ := bind_eq_ok.1 goesOn
  obtain ⟨_, _, goesOn⟩ := bind_eq_ok.1 goesOn
  obtain ⟨effect, isEffect, goesOn⟩ := bind_eq_ok.1 goesOn
  obtain ⟨_, _, same⟩ := bind_eq_ok.1 goesOn
  cases same
  rcases Shape.optional_cases isEffect with ⟨_, absent⟩ | ⟨authored, found, read⟩
  · cases absent
    cases typed
  · refine ⟨effect, ?_, typed, List.mem_singleton.1 member⟩
    rw [Value.get, ← lookup_of_given (Shape.eq_object_of_fields isObject), found]
    exact read

theorem approved_of_bindSelectFromGroup (clean : Clean (checkParams .selectFromGroup params path))
    (unshadowed : hasShortcut (params.get "effect") = true → Approved nested)
    (bound : bindSelectFromGroup params = .ok asked) (member : nested ∈ asked.pursued) :
    Approved nested := by
  obtain ⟨effect, read, typed, rfl⟩ := exists_groupEffect_of_pursued bound member
  rw [checkParams] at clean
  by_cases shadow : hasShortcut (params.get "effect") = true
  · exact unshadowed shadow
  · exact approved_of_checkGroupEffect clean.of_both.2 read typed shadow

theorem approved_of_bindChooseOption (clean : Clean (checkParams .chooseOption params path))
    (bound : bindChooseOption params = .ok asked) (member : nested ∈ asked.pursued) :
    Approved nested := by
  obtain ⟨shape, isShape, same⟩ := bind_eq_ok.1 bound
  cases same
  obtain ⟨⟨option, effect⟩, kept, rfl⟩ := List.mem_map.1 member
  obtain ⟨isOption, nestable⟩ := List.mem_filter.1 kept
  obtain ⟨option, within, same⟩ := List.mem_map.1 isOption
  cases same
  obtain ⟨fields, isObject, goesOn⟩ := bind_eq_ok.1 isShape
  obtain ⟨_, _, goesOn⟩ := bind_eq_ok.1 goesOn
  obtain ⟨options, areOptions, same⟩ := bind_eq_ok.1 goesOn
  cases same
  obtain ⟨items, item, areItems, isItem, read⟩ :=
    exists_item_of_optional_list (Shape.eq_object_of_fields isObject) areOptions within
  rw [← OptionShape.effect_of_read read] at nestable ⊢
  exact approved_of_checkOptions clean areItems isItem (isDefinition_of_isNestable nestable)

theorem approved_of_bindChoice (clean : Clean (checkParams .choice params path))
    (bound : bindChoice params = .ok asked) (member : nested ∈ asked.pursued) :
    Approved nested := by
  obtain ⟨choices, areRead, same⟩ := bind_eq_ok.1 bound
  cases same
  obtain ⟨entry, isEntry, rfl⟩ := List.mem_map.1 member
  obtain ⟨choice, within, rfl⟩ := List.mem_map.1 isEntry
  obtain ⟨fields, isObject, areChoices⟩ := bind_eq_ok.1 areRead
  obtain ⟨items, item, areItems, isItem, read⟩ :=
    exists_item_of_optional_list (Shape.eq_object_of_fields isObject) areChoices within
  exact approved_of_checkChoices clean areItems isItem read

/-- What an effect nests is approved if its parameters pass their checks and
nothing is spread or shadowed. -/
theorem approved_of_bind {kind : EffectKind} (clean : Clean (checkParams kind params path))
    (closed : kind = .composite → ∀ fields, params.get "effects" = .object fields → fields = [])
    (unshadowed : kind = .selectFromGroup → hasShortcut (params.get "effect") = true →
      Approved nested)
    (bound : bind kind params = .ok asked) (member : nested ∈ asked.pursued) :
    Approved nested := by
  have nests := mem_definitions_of_pursued member
  fun_cases bind kind params with
  | case1 | case2 | case3 =>
      obtain ⟨_, _, same⟩ := bind_eq_ok.1 bound
      cases same
      cases nests
  | case4 => exact approved_of_bindComposite clean (closed rfl) bound member
  | case5 => exact approved_of_bindRepeated clean bound member
  | case6 => exact approved_of_bindConditional clean bound member
  | case7 => exact approved_of_bindSelectTarget clean bound member
  | case8 => exact approved_of_bindSelectConsume clean bound member
  | case9 =>
      rw [definitions_of_bindSelectForBuff bound] at nests
      cases nests
  | case10 => exact approved_of_bindSelectFromGroup clean (unshadowed rfl) bound member
  | case11 => exact approved_of_bindChooseOption clean bound member
  | case12 => exact approved_of_bindChoice clean bound member
  | case13 =>
      rw [bind] at bound
      · obtain ⟨_, _, built⟩ := bind_eq_ok.1 bound
        rw [definitions_of_bindArguments built] at nests
        cases nests
      all_goals assumption

end Invocation

/-- The check of the definition does not look at everything that resolving it may
come to.  Either the effects of a composite are an object, which is resolved as
the list of its keys; or a group effect with a shortcut also nests a definition
that would not pass; or a nested definition conceals something in turn. -/
inductive Conceals : Value → Prop
  | spread {definition : Value} {fields : Fields}
      (isComposite : EffectKind.ofValue? (definition.get "type") = some .composite)
      (isObject : (definition.get "params").get "effects" = .object fields)
      (present : fields ≠ []) : Conceals definition
  | shadowed {definition nested : Value}
      (isPick : EffectKind.ofValue? (definition.get "type") = some .selectFromGroup)
      (shortcut : Validation.hasShortcut ((definition.get "params").get "effect") = true)
      (member : nested ∈ (Reading.ofValue definition).pursued)
      (disapproved : ¬ Validation.Approved nested) : Conceals definition
  | within {definition nested : Value} (member : nested ∈ (Reading.ofValue definition).pursued)
      (conceals : Conceals nested) : Conceals definition

namespace Reading

theorem isUsable_ofBinding (kind : EffectKind) (bound : Except Failure (Invocation Value)) :
    (ofBinding kind bound).IsUsable := by
  cases bound with
  | ok asked => exact trivial
  | error failure => cases failure <;> first | exact trivial | exact id

/-- An approved definition that conceals nothing is usable, and nests approved
definitions only. -/
theorem isUsable_of_approved {definition : Value} (approved : Validation.Approved definition)
    (plain : ¬ Conceals definition) :
    (ofValue definition).IsUsable ∧
      ∀ nested ∈ (ofValue definition).pursued, Validation.Approved nested := by
  by_cases present : definition.isTruthy = true
  case neg =>
    have read : ofValue definition = .nothing := by
      unfold ofValue
      exact if_pos (by simpa using present)
    rw [read]
    exact ⟨trivial, fun _ member => nomatch member⟩
  obtain ⟨path, clean⟩ := approved present
  rcases clean.definition_cases with ⟨items, rfl, each⟩ | ⟨fields, rfl, node⟩
  · rw [ofValue, if_neg (by simpa using present)]
    exact ⟨trivial, each⟩
  obtain ⟨-, kind, isKind, path, params⟩ := node.node_cases
  have read : ofValue (.object fields) =
      ofBinding kind (Invocation.bind kind ((Value.object fields).get "params")) := by
    rw [ofValue, if_neg (by simpa using present)]
    simp only [isKind]
  rw [read]
  refine ⟨isUsable_ofBinding _ _, fun nested member => ?_⟩
  rcases bound : Invocation.bind kind ((Value.object fields).get "params") with failure | asked
  · rw [bound] at member
    cases failure <;> cases member
  · have pursued := member
    rw [bound] at pursued
    refine Invocation.approved_of_bind params ?_ ?_ bound pursued
    · rintro rfl inner isObject
      by_contra notEmpty
      exact plain (.spread isKind isObject notEmpty)
    · rintro rfl shortcut
      by_contra disapproved
      exact plain (.shadowed isKind shortcut (read ▸ member) disapproved)

end Reading

/-- A definition that passes its check and conceals nothing is usable. -/
theorem usable_of_approved {definition : Value} (approved : Validation.Approved definition)
    (plain : ¬ Conceals definition) : Usable definition :=
  have ⟨here, each⟩ := Reading.isUsable_of_approved approved plain
  .intro here fun nested member =>
    usable_of_approved (each nested member) fun conceals => plain (.within member conceals)
termination_by definition.depth
decreasing_by exact depth_lt_of_mem_definitions (Reading.mem_definitions_of_pursued member)

end CreatureCards
