import CreatureCards.Invocation
import CreatureCards.ShapeDepth

/-!
# Depth of invocations

Binding never makes definitions deeper: each definition that an invocation
nests is at most as deep as the parameters it was bound from.  So resolving the
nested definitions of a definition comes to an end.
-/

namespace CreatureCards

namespace Invocation

theorem eq_object_of_lookup {params field : Value} {fields : Fields} {key : String}
    (object : given params = .object fields) (found : fields.lookup key = some field) :
    params = .object fields := by
  rw [given, Value.orElse] at object
  split at object
  · exact object
  · cases object
    cases found

theorem depth_part {params : Value} {key : String} {found : Option Value}
    (taken : part params key = .ok found) : (found.getD .null).depth ≤ params.depth := by
  rw [part] at taken
  split at taken
  · rename_i fields object
    cases taken
    cases located : fields.lookup key with
    | none => simp
    | some field =>
      rw [eq_object_of_lookup object located]
      exact Nat.le_of_lt (Shape.depth_lt_of_lookup located)
  · cases taken

/-- A part that the parameters mention is no deeper than they are. -/
theorem depth_named {params found : Value} {key : String}
    (taken : named params key = .ok found) : found.depth ≤ params.depth := by
  rw [named] at taken
  split at taken
  · rename_i fields object
    cases taken
    cases located : fields.lookup key with
    | none => simp
    | some field =>
      rw [eq_object_of_lookup object located]
      exact Nat.le_of_lt (Shape.depth_lt_of_lookup located)
  · cases taken

/-- Effects that take their arguments as given nest no definitions. -/
theorem definitions_of_bindArguments {kind : EffectKind} {arguments : List Value}
    {invocation : Invocation Value} (bound : bindArguments kind arguments = .ok invocation) :
    invocation.definitions = [] := by
  fun_cases bindArguments kind arguments with
  | case1 targetType stats =>
    simp only [bindArguments, bindBuffStats] at bound
    split at bound <;> cases bound
    rfl
  | case2 stats =>
    obtain ⟨_, _, built⟩ := bind_eq_ok.1 bound
    cases built
    rfl
  | case3 =>
    simp only [bindArguments] at bound
    cases bound
    rfl

theorem depth_le_of_bindComposite {params definition : Value} {invocation : Invocation Value}
    (bound : bindComposite params = .ok invocation)
    (member : definition ∈ invocation.definitions) : definition.depth ≤ params.depth := by
  simp only [bindComposite, bind_eq_ok] at bound
  obtain ⟨found, taken, stepped⟩ := bound
  split at stepped
  · rename_i items elements
    cases stepped
    have bounded := depth_part taken
    rw [Value.orElse] at elements
    split at elements
    · rcases Value.depth_elements? elements member with less | flat <;> omega
    · cases elements
      cases member
  · cases stepped

theorem depth_le_of_bindRepeated {params definition : Value} {invocation : Invocation Value}
    (bound : bindRepeated params = .ok invocation)
    (member : definition ∈ invocation.definitions) : definition.depth ≤ params.depth := by
  simp only [bindRepeated, bind_eq_ok] at bound
  obtain ⟨mentioned, _, rest⟩ := bound
  split at rest
  · exact absurd rest throw_bind_ne_ok
  · simp only [bind_eq_ok] at rest
    obtain ⟨effect, taken, _, _, _, _, built⟩ := rest
    cases built
    simp only [definitions, List.mem_singleton] at member
    subst member
    exact depth_named taken

theorem depth_le_of_bindConditional {params definition : Value} {invocation : Invocation Value}
    (bound : bindConditional params = .ok invocation)
    (member : definition ∈ invocation.definitions) : definition.depth ≤ params.depth := by
  simp only [bindConditional, bind_eq_ok] at bound
  obtain ⟨mentioned, _, rest⟩ := bound
  split at rest
  · exact absurd rest throw_bind_ne_ok
  · simp only [bind_eq_ok] at rest
    obtain ⟨mentioned, _, rest⟩ := rest
    split at rest
    · exact absurd rest throw_bind_ne_ok
    · simp only [bind_eq_ok] at rest
      obtain ⟨_, _, _, _, whenTrue, taken, whenFalse, takenElse, built⟩ := rest
      cases built
      simp only [definitions, List.mem_cons] at member
      rcases member with rfl | other
      · exact depth_named taken
      · split at other
        · simp only [Option.toList_some, List.mem_singleton] at other
          subst other
          exact depth_part takenElse
        · cases other

theorem depth_le_of_bindSelectTarget {params definition : Value} {invocation : Invocation Value}
    (bound : bindSelectTarget params = .ok invocation)
    (member : definition ∈ invocation.definitions) : definition.depth ≤ params.depth := by
  simp only [bindSelectTarget, bind_eq_ok] at bound
  obtain ⟨_, _, effect, taken, built⟩ := bound
  cases built
  simp only [definitions, List.mem_singleton] at member
  subst member
  exact depth_part taken

theorem depth_le_of_bindSelectConsume {params definition : Value}
    {invocation : Invocation Value} (bound : bindSelectConsume params = .ok invocation)
    (member : definition ∈ invocation.definitions) : definition.depth ≤ params.depth := by
  simp only [bindSelectConsume, bind_eq_ok] at bound
  obtain ⟨effect, taken, _, _, _, _, built⟩ := bound
  cases built
  simp only [definitions] at member
  split at member
  · simp only [Option.toList_some, List.mem_singleton] at member
    subst member
    exact depth_part taken
  · cases member

theorem definitions_of_bindSelectForBuff {params : Value} {invocation : Invocation Value}
    (bound : bindSelectForBuff params = .ok invocation) : invocation.definitions = [] := by
  simp only [bindSelectForBuff, bind_eq_ok] at bound
  obtain ⟨_, _, _, _, built⟩ := bound
  cases built
  rfl

theorem depth_le_of_bindSelectFromGroup {params definition : Value}
    {invocation : Invocation Value} (bound : bindSelectFromGroup params = .ok invocation)
    (member : definition ∈ invocation.definitions) : definition.depth ≤ params.depth := by
  simp only [bindSelectFromGroup, bind_eq_ok] at bound
  obtain ⟨shape, taken, built⟩ := bound
  cases built
  simp only [definitions] at member
  split at member
  · rename_i named
    simp only [Option.toList_some, List.mem_singleton] at member
    subst member
    simp only [GroupShape.read, bind_eq_ok] at taken
    obtain ⟨fields, object, _, _, _, _, effect, readEffect, _, _, built⟩ := taken
    cases built
    rcases Shape.eq_or_exists_of_optional readEffect with same | ⟨key, field, found, inner⟩
    · subst same
      cases named
    · have whole := eq_object_of_lookup (Shape.eq_object_of_fields object) found
      have deeper := Shape.depth_lt_of_lookup found
      have bounded := GroupEffect.depth_definition_le inner
      rw [whole]
      simp only [Value.depth_object] at deeper ⊢
      omega
  · cases member

/-- What an optional list of entries holds was read from entries that are at
least two levels below the parameters. -/
theorem exists_of_mem_optional_list {α : Type} {params : Value} {fields : Fields} {key : String}
    {read : Shape.Reader α} {values : List α} {value : α}
    (object : given params = .object fields)
    (taken : Shape.optional fields [key] [] (Shape.list read) = .ok values)
    (member : value ∈ values) :
    ∃ item, item.depth + 2 ≤ params.depth ∧ read item = .ok value := by
  rcases Shape.eq_or_exists_of_optional taken with same | ⟨name, field, found, inner⟩
  · subst same
    cases member
  · have whole := eq_object_of_lookup object found
    have deeper := Shape.depth_lt_of_lookup found
    unfold Shape.list at inner
    split at inner
    · obtain ⟨item, within, entry⟩ := exists_of_mem_mapM inner member
      have deepest := Value.depth_lt_of_mem within
      refine ⟨item, ?_, entry⟩
      rw [whole]
      omega
    · cases inner

theorem depth_le_of_bindChooseOption {params definition : Value} {invocation : Invocation Value}
    (bound : bindChooseOption params = .ok invocation)
    (member : definition ∈ invocation.definitions) : definition.depth ≤ params.depth := by
  simp only [bindChooseOption, bind_eq_ok] at bound
  obtain ⟨shape, taken, built⟩ := bound
  cases built
  simp only [definitions, List.map_map, List.mem_map] at member
  obtain ⟨option, within, rfl⟩ := member
  simp only [MenuShape.read, bind_eq_ok] at taken
  obtain ⟨fields, object, _, _, options, readOptions, built⟩ := taken
  cases built
  obtain ⟨item, bounded, entry⟩ :=
    exists_of_mem_optional_list (Shape.eq_object_of_fields object) readOptions within
  have := OptionShape.depth_effect_le entry
  simp only [Function.comp]
  omega

theorem depth_le_of_bindChoice {params definition : Value} {invocation : Invocation Value}
    (bound : bindChoice params = .ok invocation)
    (member : definition ∈ invocation.definitions) : definition.depth ≤ params.depth := by
  simp only [bindChoice, bind_eq_ok] at bound
  obtain ⟨choices, taken, built⟩ := bound
  cases built
  simp only [definitions, List.map_map, List.mem_map] at member
  obtain ⟨choice, within, rfl⟩ := member
  simp only [ChoiceShape.readAll, bind_eq_ok] at taken
  obtain ⟨fields, object, readChoices⟩ := taken
  obtain ⟨item, bounded, entry⟩ :=
    exists_of_mem_optional_list (Shape.eq_object_of_fields object) readChoices within
  have := ChoiceShape.depth_definition_le entry
  simp only [Function.comp]
  omega

/-- The definitions that an invocation nests are no deeper than the parameters
it was bound from. -/
theorem depth_le_of_bind {kind : EffectKind} {params definition : Value}
    {invocation : Invocation Value} (bound : bind kind params = .ok invocation)
    (member : definition ∈ invocation.definitions) : definition.depth ≤ params.depth := by
  fun_cases bind kind params with
  | case1 | case2 | case3 =>
    obtain ⟨_, _, built⟩ := bind_eq_ok.1 bound
    cases built
    cases member
  | case4 => exact depth_le_of_bindComposite bound member
  | case5 => exact depth_le_of_bindRepeated bound member
  | case6 => exact depth_le_of_bindConditional bound member
  | case7 => exact depth_le_of_bindSelectTarget bound member
  | case8 => exact depth_le_of_bindSelectConsume bound member
  | case9 =>
    rw [definitions_of_bindSelectForBuff bound] at member
    cases member
  | case10 => exact depth_le_of_bindSelectFromGroup bound member
  | case11 => exact depth_le_of_bindChooseOption bound member
  | case12 => exact depth_le_of_bindChoice bound member
  | case13 =>
    rw [bind] at bound
    · obtain ⟨_, _, built⟩ := bind_eq_ok.1 bound
      rw [definitions_of_bindArguments built] at member
      cases member
    all_goals assumption

end Invocation

end CreatureCards
