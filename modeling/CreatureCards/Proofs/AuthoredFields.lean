import CreatureCards.InvocationDepth

/-!
# Fields behind what was read

What binding reads from the parameters of an effect stands under the same keys in
the authored data: in the parameters, or in the objects of options, choices and
group effects.  A field that is not there leaves what stands for an absent one.
-/

namespace CreatureCards

namespace Shape

variable {α : Type} {read : Reader α} {fields : Fields} {key : String} {value : α}

/-- An optional field under a single key is read from that key or absent. -/
theorem optional_cases {fallback : α} (taken : optional fields [key] fallback read = .ok value) :
    (fields.lookup key = none ∧ value = fallback) ∨
      ∃ field, fields.lookup key = some field ∧ read field = .ok value := by
  rw [optional, find?, List.findSome?_singleton] at taken
  cases found : fields.lookup key with
  | none =>
      rw [found] at taken
      cases taken
      exact .inl ⟨rfl, rfl⟩
  | some field =>
      rw [found] at taken
      exact .inr ⟨field, rfl, taken⟩

theorem lookup_of_required (taken : required fields [key] read = .ok value) :
    ∃ field, fields.lookup key = some field ∧ read field = .ok value := by
  rw [required, find?, List.findSome?_singleton] at taken
  cases found : fields.lookup key with
  | none =>
      rw [found] at taken
      cases taken
  | some field =>
      rw [found] at taken
      exact ⟨field, rfl, taken⟩

theorem eq_text_of_text {content : String} {value : Value} (taken : text value = .ok content) :
    value = .text content := by
  cases value <;> cases taken
  rfl

/-- A name that may be null and is there was given as a text. -/
theorem eq_text_of_orNull {content : String} {value : Value}
    (taken : orNull text value = .ok (some content)) : value = .text content := by
  unfold orNull at taken
  split at taken
  · cases taken
  · cases found : text value with
    | error failure =>
        rw [found] at taken
        cases taken
    | ok other =>
        rw [found] at taken
        cases taken
        exact eq_text_of_text found

theorem get_of_optional_any {value : Value} (taken : optional fields [key] .null any = .ok value) :
    (Value.object fields).get key = value := by
  rw [Value.get, Value.get?]
  rcases optional_cases taken with ⟨missing, rfl⟩ | ⟨field, found, same⟩
  · rw [missing]
    rfl
  · cases same
    rw [found]
    rfl

theorem get_of_optional_fields {inner : Fields}
    (taken : optional fields [key] [] Shape.fields = .ok inner) :
    (Value.object fields).get key = .object inner ∨
      (Value.object fields).get key = .null ∧ inner = [] := by
  rw [Value.get, Value.get?]
  rcases optional_cases taken with ⟨missing, absent⟩ | ⟨field, found, isInner⟩
  · rw [missing]
    exact .inr ⟨rfl, absent⟩
  · rw [found, eq_object_of_fields isInner]
    exact .inl rfl

end Shape

/-- Each entry that was given to be read was read. -/
theorem exists_of_mapM {α β : Type} {read : α → Except Failure β} {items : List α}
    {values : List β} (taken : items.mapM read = .ok values) {item : α} (member : item ∈ items) :
    ∃ value ∈ values, read item = .ok value := by
  induction items generalizing values with
  | nil => cases member
  | cons head rest ih =>
      rw [List.mapM_cons] at taken
      obtain ⟨first, readFirst, goesOn⟩ := bind_eq_ok.1 taken
      obtain ⟨others, readOthers, same⟩ := bind_eq_ok.1 goesOn
      cases same
      cases member with
      | head => exact ⟨first, List.mem_cons_self, readFirst⟩
      | tail _ later =>
          obtain ⟨value, within, found⟩ := ih readOthers later
          exact ⟨value, List.mem_cons_of_mem _ within, found⟩

/-- A group effect with a type was authored as an object with that type. -/
theorem GroupEffect.get_of_read {authored : Value} {effect : GroupEffect}
    (read : GroupEffect.read authored = .ok effect) (typed : effect.hasType = true) :
    ∃ type, effect.type = some type ∧ type ≠ "" ∧ authored.isObject = true ∧
      authored.get "type" = .text type ∧
      (authored.get "params" = .object effect.params ∨
        authored.get "params" = .null ∧ effect.params = []) := by
  obtain ⟨fields, isObject, goesOn⟩ := bind_eq_ok.1 read
  obtain ⟨_, _, goesOn⟩ := bind_eq_ok.1 goesOn
  obtain ⟨type, isType, goesOn⟩ := bind_eq_ok.1 goesOn
  obtain ⟨inner, areParams, same⟩ := bind_eq_ok.1 goesOn
  cases same
  cases Shape.eq_object_of_fields isObject
  cases type with
  | none => cases typed
  | some type =>
      refine ⟨type, rfl, by simpa [GroupEffect.hasType] using typed, rfl, ?_, ?_⟩
      · rcases Shape.optional_cases isType with ⟨_, absent⟩ | ⟨field, found, isText⟩
        · cases absent
        · rw [Value.get, Value.get?, found, Shape.eq_text_of_orNull isText]
          rfl
      · exact Shape.get_of_optional_fields areParams

theorem OptionShape.effect_of_read {authored : Value} {option : OptionShape}
    (read : OptionShape.read authored = .ok option) : authored.get "effect" = option.effect := by
  obtain ⟨fields, isObject, goesOn⟩ := bind_eq_ok.1 read
  obtain ⟨_, _, goesOn⟩ := bind_eq_ok.1 goesOn
  obtain ⟨_, _, goesOn⟩ := bind_eq_ok.1 goesOn
  obtain ⟨effect, isEffect, same⟩ := bind_eq_ok.1 goesOn
  cases same
  cases Shape.eq_object_of_fields isObject
  exact Shape.get_of_optional_any isEffect

theorem ChoiceShape.get_of_read {authored : Value} {choice : ChoiceShape}
    (read : ChoiceShape.read authored = .ok choice) :
    authored.get "type" = .text choice.type ∧
      (authored.get "params" = .object choice.params ∨
        authored.get "params" = .null ∧ choice.params = []) := by
  obtain ⟨fields, isObject, goesOn⟩ := bind_eq_ok.1 read
  obtain ⟨_, _, goesOn⟩ := bind_eq_ok.1 goesOn
  obtain ⟨_, _, goesOn⟩ := bind_eq_ok.1 goesOn
  obtain ⟨type, isType, goesOn⟩ := bind_eq_ok.1 goesOn
  obtain ⟨params, areParams, same⟩ := bind_eq_ok.1 goesOn
  cases same
  cases Shape.eq_object_of_fields isObject
  refine ⟨?_, Shape.get_of_optional_fields areParams⟩
  obtain ⟨field, found, isText⟩ := Shape.lookup_of_required isType
  rw [Value.get, Value.get?, found, Shape.eq_text_of_text isText]
  rfl

namespace Invocation

variable {params : Value}

/-- The fields of the parameters of an effect are those that were given. -/
theorem lookup_of_given {fields : Fields} (object : given params = .object fields)
    (key : String) : fields.lookup key = params.get? key := by
  rw [given, Value.orElse] at object
  split at object
  · rw [object]
    rfl
  · rename_i absent
    cases object
    cases params with
    | object fields =>
        cases fields with
        | nil => rfl
        | cons => exact absurd rfl absent
    | _ => rfl

theorem getD_of_part {key : String} {found : Option Value}
    (taken : part params key = .ok found) : found.getD .null = params.get key := by
  rw [part] at taken
  split at taken
  · rename_i fields object
    cases taken
    rw [lookup_of_given object, Value.get]
  · cases taken

theorem eq_get_of_named {found : Value} {key : String}
    (taken : named params key = .ok found) : found = params.get key := by
  rw [named] at taken
  split at taken
  · rename_i fields object
    cases taken
    rw [lookup_of_given object, Value.get]
  · cases taken

/-- What an optional list under a key holds was read from the items of a list
that is given under this key. -/
theorem exists_item_of_optional_list {α : Type} {fields : Fields} {key : String}
    {read : Shape.Reader α} {values : List α} {value : α} (object : given params = .object fields)
    (taken : Shape.optional fields [key] [] (Shape.list read) = .ok values)
    (member : value ∈ values) :
    ∃ items item, params.get key = .list items ∧ item ∈ items ∧ read item = .ok value := by
  rcases Shape.optional_cases taken with ⟨_, rfl⟩ | ⟨field, found, inner⟩
  · cases member
  · cases field with
    | list items =>
        obtain ⟨item, within, isRead⟩ := exists_of_mem_mapM inner member
        refine ⟨items, item, ?_, within, isRead⟩
        rw [Value.get, ← lookup_of_given object, found]
        rfl
    | _ => cases inner

end Invocation

end CreatureCards
