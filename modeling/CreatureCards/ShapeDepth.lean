import CreatureCards.EffectShape

/-!
# Depth of declared shapes

What is read from authored data against a declared shape comes from somewhere in
that data.  The definitions that a group effect, a choice or an option carries
are therefore hardly deeper than the object they were read from.
-/

namespace CreatureCards

/-- Each entry of a list that was read comes from an entry of the authored one. -/
theorem exists_of_mem_mapM {α β : Type} {read : α → Except Failure β} {items : List α}
    {values : List β} (taken : items.mapM read = .ok values) {value : β} (member : value ∈ values) :
    ∃ item ∈ items, read item = .ok value := by
  induction items generalizing values with
  | nil =>
    cases taken
    cases member
  | cons head rest ih =>
    simp only [List.mapM_cons, bind_eq_ok] at taken
    obtain ⟨first, readFirst, others, readOthers, finished⟩ := taken
    cases finished
    cases member with
    | head => exact ⟨head, List.mem_cons_self, readFirst⟩
    | tail _ later =>
      obtain ⟨item, within, found⟩ := ih readOthers later
      exact ⟨item, List.mem_cons_of_mem _ within, found⟩

namespace Shape

theorem eq_object_of_fields {value : Value} {found : Fields} (taken : fields value = .ok found) :
    value = .object found := by
  cases value <;> cases taken
  rfl

/-- An optional field is the fallback or read from a field of the object. -/
theorem eq_or_exists_of_optional {α : Type} {given : Fields} {keys : List String} {fallback : α}
    {read : Reader α} {value : α} (taken : optional given keys fallback read = .ok value) :
    value = fallback ∨ ∃ key field, given.lookup key = some field ∧ read field = .ok value := by
  rw [optional] at taken
  split at taken
  · rename_i name field found
    rw [find?, List.findSome?_eq_some_iff] at found
    obtain ⟨_, key, _, _, located, _⟩ := found
    obtain ⟨inner, present, same⟩ := Option.map_eq_some_iff.1 located
    cases same
    exact Or.inr ⟨name, field, present, taken⟩
  · cases taken
    exact Or.inl rfl

/-- A field of an object that was read is less deep than the object. -/
theorem depth_lt_of_lookup {given : Fields} {key : String} {field : Value}
    (found : given.lookup key = some field) : field.depth < (Value.object given).depth := by
  have inside : (Value.object given).get? key = some field := found
  exact Value.depth_lt_of_get? inside

end Shape

theorem depth_definition {type : Value} (flat : type.depth = 0) (params : Fields) :
    (Value.definition type params).depth = Value.depthFields params + 2 := by
  simp [Value.definition, Value.depthFields, flat]

/-- The definition of a group effect is at most one level deeper than the object
it was read from. -/
theorem GroupEffect.depth_definition_le {authored : Value} {effect : GroupEffect}
    (taken : GroupEffect.read authored = .ok effect) :
    effect.definition.depth ≤ authored.depth + 1 := by
  simp only [GroupEffect.read, bind_eq_ok] at taken
  obtain ⟨given, object, _, _, type, _, params, readParams, built⟩ := taken
  cases built
  have flat : (type.elim Value.null Value.text).depth = 0 := by cases type <;> simp
  have := Shape.eq_object_of_fields object
  subst this
  simp only [GroupEffect.definition, depth_definition flat]
  rcases Shape.eq_or_exists_of_optional readParams with same | ⟨key, field, found, inner⟩
  · simp [same, Value.depthFields]
  · have := Shape.eq_object_of_fields inner
    subst this
    have := Shape.depth_lt_of_lookup found
    simp only [Value.depth_object] at this ⊢
    omega

/-- The definition of a choice is at most one level deeper than the object it
was read from. -/
theorem ChoiceShape.depth_definition_le {authored : Value} {choice : ChoiceShape}
    (taken : ChoiceShape.read authored = .ok choice) :
    choice.definition.depth ≤ authored.depth + 1 := by
  simp only [ChoiceShape.read, bind_eq_ok] at taken
  obtain ⟨given, object, _, _, _, _, type, _, params, readParams, built⟩ := taken
  cases built
  have := Shape.eq_object_of_fields object
  subst this
  simp only [ChoiceShape.definition, depth_definition (Value.depth_text type)]
  rcases Shape.eq_or_exists_of_optional readParams with same | ⟨key, field, found, inner⟩
  · simp [same, Value.depthFields]
  · have := Shape.eq_object_of_fields inner
    subst this
    have := Shape.depth_lt_of_lookup found
    simp only [Value.depth_object] at this ⊢
    omega

/-- The effect of an option is less deep than the object it was read from. -/
theorem OptionShape.depth_effect_le {authored : Value} {option : OptionShape}
    (taken : OptionShape.read authored = .ok option) : option.effect.depth < authored.depth := by
  simp only [OptionShape.read, bind_eq_ok] at taken
  obtain ⟨given, object, _, _, _, _, effect, readEffect, built⟩ := taken
  cases built
  have := Shape.eq_object_of_fields object
  subst this
  rcases Shape.eq_or_exists_of_optional readEffect with same | ⟨key, field, found, inner⟩
  · simp [same]
  · cases inner
    exact Shape.depth_lt_of_lookup found

end CreatureCards
