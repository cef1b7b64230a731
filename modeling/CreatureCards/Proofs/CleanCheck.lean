import CreatureCards.CatalogValidation
import CreatureCards.Proofs.AuthoredFields

/-!
# Clean checks

A check is clean if it was carried out and found no errors.  What a clean check
says about a definition is read off layer by layer: it is a list of definitions or
names a known effect type, the parameters pass the checks of the type, and the
definitions among them that are looked at pass theirs.
-/

namespace CreatureCards

namespace Findings

@[simp]
theorem errors_append (first second : Findings) :
    (first ++ second).errors = first.errors ++ second.errors :=
  rfl

theorem errors_foldl (findings : List Findings) (start : Findings) :
    (findings.foldl (· ++ ·) start).errors = start.errors ++ findings.flatMap errors := by
  induction findings generalizing start with
  | nil => simp
  | cons first rest ih =>
      rw [List.foldl_cons, ih, errors_append, List.flatMap_cons, List.append_assoc]

theorem errors_concat (findings : List Findings) :
    (concat findings).errors = findings.flatMap errors :=
  errors_foldl findings none

end Findings

namespace Validation

/-- The check was carried out and found no errors. -/
def Clean (check : Checked) : Prop :=
  ∃ findings, check = .ok findings ∧ findings.errors = []

/-- A definition passes the check that it gets wherever it stands, or is absent. -/
def Approved (definition : Value) : Prop :=
  definition.isTruthy = true → ∃ path, Clean (checkDefinition definition path)

theorem clean_of_definitionErrors {definition : Value} {path : String}
    (none : definitionErrors definition path = .ok []) :
    Clean (checkDefinition definition path) := by
  obtain ⟨findings, checked, same⟩ := bind_eq_ok.1 none
  exact ⟨findings, checked, Except.ok.inj same⟩

theorem not_clean_fault (path reason : String) :
    ¬ Clean (.ok (Findings.fault path reason)) := by
  rintro ⟨_, ⟨⟩, none⟩
  cases none

/-- Both of two checks are clean if what they find together is. -/
theorem Clean.of_both {first second : Checked}
    (clean : Clean (first >>= fun found => second >>= fun other => pure (found ++ other))) :
    Clean first ∧ Clean second := by
  obtain ⟨_, checked, none⟩ := clean
  obtain ⟨found, isFound, goesOn⟩ := bind_eq_ok.1 checked
  obtain ⟨other, isOther, same⟩ := bind_eq_ok.1 goesOn
  cases same
  obtain ⟨noneFound, noneOther⟩ := List.append_eq_nil_iff.1 none
  exact ⟨⟨found, isFound, noneFound⟩, ⟨other, isOther, noneOther⟩⟩

theorem Clean.behind {found : Findings} {check : Checked}
    (clean : Clean (check >>= fun other => pure (found ++ other))) : Clean check :=
  (@Clean.of_both (.ok found) check clean).2

/-- The check of each entry is clean if all of them together are. -/
theorem clean_of_mem {items : List Value} {check : { item // item ∈ items } × Nat → Checked}
    {findings : List Findings} (checked : items.attach.zipIdx.mapM check = .ok findings)
    (none : (Findings.concat findings).errors = []) {item : Value} (member : item ∈ items) :
    ∃ place, Clean (check (⟨item, member⟩, place)) := by
  obtain ⟨place, found⟩ := List.mem_iff_getElem?.1 (List.mem_attach items ⟨item, member⟩)
  have placed : (⟨item, member⟩, place) ∈ items.attach.zipIdx :=
    List.mem_zipIdx_iff_getElem?.2 found
  obtain ⟨finding, isFinding, isChecked⟩ := exists_of_mapM checked placed
  rw [Findings.errors_concat, List.flatMap_eq_nil_iff] at none
  exact ⟨place, finding, isChecked, none finding isFinding⟩

/-- The check of each entry is clean if they are clean together and behind other
findings. -/
theorem Clean.entry {items : List Value} {check : { item // item ∈ items } × Nat → Checked}
    {found : Findings}
    (clean : Clean (items.attach.zipIdx.mapM check >>= fun findings =>
      pure (found ++ .concat findings))) {item : Value} (member : item ∈ items) :
    ∃ place, Clean (check (⟨item, member⟩, place)) := by
  obtain ⟨_, checked, none⟩ := clean
  obtain ⟨findings, areChecked, same⟩ := bind_eq_ok.1 checked
  cases same
  exact clean_of_mem areChecked (List.append_eq_nil_iff.1 none).2 member

/-- A definition with a clean check is a list or names an effect type. -/
theorem Clean.definition_cases {definition : Value} {path : String}
    (clean : Clean (checkDefinition definition path)) :
    (∃ items, definition = .list items ∧ ∀ item ∈ items, Approved item) ∨
      ∃ fields, definition = .object fields ∧
        Clean (checkNode (definition.get "type") (definition.get "params") path) := by
  cases definition with
  | list items =>
      rw [checkDefinition] at clean
      obtain ⟨_, checked, none⟩ := clean
      obtain ⟨findings, areChecked, same⟩ := bind_eq_ok.1 checked
      cases same
      refine .inl ⟨items, rfl, fun item member _ => ?_⟩
      obtain ⟨place, isClean⟩ := clean_of_mem areChecked none member
      exact ⟨_, isClean⟩
  | object fields =>
      rw [checkDefinition] at clean
      exact .inr ⟨fields, rfl, clean⟩
  | _ =>
      rw [checkDefinition] at clean
      · exact absurd clean (not_clean_fault _ _)
      all_goals rintro _ ⟨⟩

/-- An effect with a clean check has a known type and parameters that pass the
checks of the type. -/
theorem Clean.node_cases {type params : Value} {path : String}
    (clean : Clean (checkNode type params path)) :
    type.isTruthy = true ∧ ∃ kind, EffectKind.ofValue? type = some kind ∧
      ∃ path, Clean (checkParams kind params path) := by
  rw [checkNode] at clean
  split at clean
  · exact absurd clean (not_clean_fault _ _)
  rename_i present
  split at clean
  · exact absurd clean (not_clean_fault _ _)
  rename_i kind isKind
  split at clean
  · exact absurd clean (not_clean_fault _ _)
  · exact ⟨by simpa using present, kind, isKind, _, clean.behind⟩

theorem Clean.nested {params : Value} {key path : String}
    (clean : Clean (checkNested params key path)) : Approved (params.get key) := by
  intro present
  rw [checkNested, if_pos present] at clean
  exact ⟨_, clean⟩

theorem checkNested_null (key path : String) :
    checkNested .null key path = checkNested (.object []) key path := by
  rw [checkNested, checkNested]
  rfl

theorem checkParams_null (kind : EffectKind) (path : String) :
    checkParams kind .null path = checkParams kind (.object []) path := by
  rw [checkParams.eq_def kind .null, checkParams.eq_def kind (.object [])]
  split
  case h_2 | h_3 | h_4 => exact checkNested_null "effect" path
  case h_5 => rw [checkNested_null, checkNested_null]; rfl
  all_goals rfl

/-- It makes no difference to a check whether parameters are absent or empty. -/
theorem checkNode_null (type : Value) (path : String) :
    checkNode type .null path = checkNode type (.object []) path := by
  rw [checkNode, checkNode]
  simp only [checkParams_null]
  rfl

/-- A definition that is made up of a type and parameters is approved if they pass
the check of an effect. -/
theorem approved_definition {type authored : Value} {params : Fields} {path : String}
    (clean : Clean (checkNode type authored path))
    (same : authored = .object params ∨ authored = .null ∧ params = []) :
    Approved (Value.definition type params) := by
  intro _
  refine ⟨path, ?_⟩
  rw [Value.definition, checkDefinition]
  change Clean (checkNode type (.object params) path)
  rcases same with rfl | ⟨rfl, rfl⟩
  · exact clean
  · exact checkNode_null type path ▸ clean

section Entries

variable {params : Value} {path : String}

/-- A group effect that passes its check without a shortcut nests an approved
definition, if it nests one. -/
theorem approved_of_checkGroupEffect {authored : Value} {effect : GroupEffect}
    (clean : Clean (checkGroupEffect authored path)) (read : GroupEffect.read authored = .ok effect)
    (typed : effect.hasType = true) (short : hasShortcut authored ≠ true) :
    Approved effect.definition := by
  obtain ⟨type, isType, named, object, hasType, hasParams⟩ := GroupEffect.get_of_read read typed
  have present : (authored.get "type").isTruthy = true := by
    rw [hasType]
    simpa [Value.isTruthy] using named
  have whole : authored.orElse (.object []) = authored := by
    cases authored with
    | object fields =>
        cases fields with
        | nil => cases present
        | cons => rfl
    | _ => cases object
  rw [checkGroupEffect, whole] at clean
  cases authored with
  | object fields =>
      dsimp only at clean
      rw [if_neg short, if_pos present, hasType] at clean
      rw [GroupEffect.definition, isType]
      exact approved_definition clean hasParams
  | _ => cases object

theorem entries_list {items : List Value} {item : Value} (member : item ∈ items) :
    entries (.list items) = .ok items := by
  cases items with
  | nil => cases member
  | cons => rfl

/-- An option under a clean check has a label, and its effect is approved if it
looks like a definition. -/
theorem approved_of_checkOptions {items : List Value} {item : Value}
    (clean : Clean (checkParams .chooseOption params path))
    (areItems : params.get "options" = .list items) (member : item ∈ items)
    (looks : isDefinition (item.get "effect") = true) : Approved (item.get "effect") := by
  rw [checkParams] at clean
  split at clean
  · obtain ⟨_, checked, _⟩ := clean
    cases checked
  rename_i options areOptions
  rw [areItems, entries_list member] at areOptions
  cases areOptions
  obtain ⟨place, clean⟩ := clean.entry member
  dsimp only at clean
  split at clean
  · exact fun _ => ⟨_, clean⟩
  · exact absurd clean (not_clean_fault _ _)

theorem approved_of_checkChoices {items : List Value} {item : Value} {choice : ChoiceShape}
    (clean : Clean (checkParams .choice params path))
    (areItems : params.get "choices" = .list items) (member : item ∈ items)
    (read : ChoiceShape.read item = .ok choice) : Approved choice.definition := by
  rw [checkParams] at clean
  split at clean
  · obtain ⟨_, checked, _⟩ := clean
    cases checked
  rename_i choices areChoices
  rw [areItems, entries_list member] at areChoices
  cases areChoices
  obtain ⟨place, clean⟩ := clean.entry member
  dsimp only at clean
  split at clean
  · obtain ⟨hasType, hasParams⟩ := ChoiceShape.get_of_read read
    rw [hasType] at clean
    exact approved_definition clean hasParams
  · exact absurd clean (not_clean_fault _ _)

end Entries

theorem definitionErrors_of_checkDefinition {definition : Value} {path : String} {found : Findings}
    (checked : checkDefinition definition path = .ok found) :
    definitionErrors definition path = .ok found.errors := by
  rw [definitionErrors, checked]
  rfl

theorem mapM_none {α : Type} {entries : List α} {check : α → Checked}
    (each : ∀ entry, check entry = .ok .none) :
    entries.mapM check = .ok (entries.map fun _ => .none) := by
  induction entries with
  | nil => rfl
  | cons entry rest ih =>
      rw [List.mapM_cons, each entry, ih]
      rfl

theorem concat_none {α : Type} (entries : List α) :
    Findings.concat (entries.map fun _ => .none) = .none := by
  induction entries with
  | nil => rfl
  | cons entry rest ih => exact ih

/-- There is nothing to find in a list if there is nothing in its items. -/
theorem checkDefinition_list {items : List Value}
    (each : ∀ item ∈ items, ∀ path, checkDefinition item path = .ok .none) (path : String) :
    checkDefinition (.list items) path = .ok .none := by
  rw [checkDefinition, mapM_none (by exact fun entry => each entry.1.1 entry.1.2 _)]
  exact congrArg Except.ok (concat_none _)

/-- An effect of a known type with all its parameters is checked for what its type
asks for. -/
theorem checkDefinition_of_kind {params : Fields} {type : String} {kind : EffectKind}
    {found : Findings} (isKind : EffectKind.ofValue? (.text type) = some kind) (named : type ≠ "")
    (complete : ∀ path, missingKeys kind (.object params) path = .none)
    (checked : ∀ path, checkParams kind (.object params) path = .ok found) (path : String) :
    checkDefinition (.object [("params", .object params), ("type", .text type)]) path =
      .ok found := by
  have present : (Value.text type).isTruthy = true := by simpa [Value.isTruthy] using named
  rw [checkDefinition]
  change checkNode (.text type) (.object params) path = _
  rw [checkNode]
  simp only [present, isKind, checked, complete, Value.isObject, Bool.not_true, Bool.and_false,
    Bool.false_eq_true, if_false]
  rfl

end Validation

end CreatureCards
