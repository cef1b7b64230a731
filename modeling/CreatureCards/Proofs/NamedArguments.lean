import CreatureCards.Proofs.UsableDefinition

/-!
# Arguments by position and by name

An effect type that takes a list of arguments may be given them by name as well.  The
fields then go a different way: they are picked by the keys that are registered for the
effect type, renamed, and handed over as named arguments of the effect.  Three tables
have to fit for this to come to the same as the list: the registered keys, the names made
of them, and the effect's own parameters.  They do, key by key and in the same order, so
a list and an object with the same arguments bind alike and are resolved alike.
-/

namespace CreatureCards

variable {kind : EffectKind} {formals : List Formal} {parameters : List Parameter}
  {items : List Value} {fields : Fields}

/-- The definition asks for an effect type with these parameters, whatever else it
holds. -/
structure Value.Asks (definition : Value) (kind : EffectKind) (params : Value) : Prop where
  isObject : definition.isObject = true
  typed : EffectKind.ofValue? (definition.get "type") = some kind
  given : definition.get "params" = params

theorem Value.Asks.reading {definition params : Value} (asks : definition.Asks kind params) :
    Reading.ofValue definition = .ofBinding kind (Invocation.bind kind params) := by
  obtain ⟨isObject, typed, rfl⟩ := asks
  cases definition with
  | object fields =>
    cases fields with
    | nil => cases typed
    | cons head rest =>
      rw [Reading.ofValue, if_neg (by simp [Value.isTruthy])]
      simp only [typed]
  | _ => cases isObject

namespace LetterCase

/-- Among plain letters only the capitals have another lower case. -/
theorem shifted_of_plain {code : Nat} (plain : code < 128) :
    shifted lowerRuns code = if 65 ≤ code ∧ code ≤ 90 then code + 32 else code := by
  have others : lowerRuns.tail.find? (·.covers code) = none := by
    have beyond : ∀ run ∈ lowerRuns.tail, 128 ≤ run.first := by decide +kernel
    refine List.find?_eq_none.2 fun run member covers => ?_
    have far := beyond run member
    simp only [Run.covers, Bool.and_eq_true, decide_eq_true_eq] at covers
    omega
  have runs : lowerRuns = ⟨65, 90, 1, 32⟩ :: lowerRuns.tail := rfl
  rw [shifted, runs, List.find?_cons, others]
  by_cases capital : 65 ≤ code ∧ code ≤ 90
  · simp only [Run.covers, capital, Nat.mod_one]
    simp
    omega
  · have misses : Run.covers ⟨65, 90, 1, 32⟩ code = false :=
      by simpa [Run.covers, Nat.mod_one] using capital
    simp [misses, capital]

theorem lowerChar_of_plain {letter : Char} (plain : letter.toNat < 128) :
    lowerChar letter = [letter.toLower] := by
  have each : ∀ code < 128,
      Char.ofNat (if 65 ≤ code ∧ code ≤ 90 then code + 32 else code) =
        (Char.ofNat code).toLower := by
    decide
  rw [lowerChar, if_neg (by omega), shifted_of_plain plain, each _ plain, Char.ofNat_toNat]

theorem lowerAfter_of_plain {letters : List Char} (plain : ∀ letter ∈ letters, letter.toNat < 128)
    (before : List Char) : lowerAfter before letters = letters.map Char.toLower := by
  induction letters generalizing before with
  | nil => rfl
  | cons letter rest ih =>
    have isPlain := plain letter (.head _)
    have notSigma : letter ≠ 'Σ' := by
      rintro rfl
      exact absurd isPlain (by decide)
    rw [lowerAfter, ih fun other member => plain other (.tail _ member)]
    simp [notSigma, lowerChar_of_plain isPlain]

end LetterCase

/-- The name that is made of a key of plain letters. -/
theorem snakeCase_of_plain {key : String}
    (plain : (key.toList.all fun letter => letter.toNat < 128) = true) :
    snakeCase key = match key.toList with
      | [] => ""
      | first :: rest => String.ofList ((first :: rest.flatMap fun letter =>
          if letter.isUpper then ['_', letter] else [letter]).map Char.toLower) := by
  rw [snakeCase]
  cases spelled : key.toList with
  | nil => rfl
  | cons first rest =>
    simp only
    rw [lowerCase, String.toList_ofList, LetterCase.lowerAfter_of_plain]
    intro letter member
    simp only [spelled, List.all_eq_true, decide_eq_true_eq] at plain
    rcases List.mem_cons.1 member with rfl | later
    · exact plain _ (.head _)
    obtain ⟨source, isSource, within⟩ := List.mem_flatMap.1 later
    have isPlain := plain source (.tail _ isSource)
    split at within
    · rcases List.mem_cons.1 within with rfl | same
      · decide
      · rwa [List.mem_singleton.1 same]
    · rwa [List.mem_singleton.1 within]

/-- Keys that stand beside items are looked up as the items in their places. -/
theorem KeyedList.lookup_zip_append {keys : List String} (distinct : keys.Nodup)
    (items : List Value) {others : Fields} (unknown : ∀ key ∈ keys, key ∉ KeyedList.keys others)
    (place : Nat) (inside : place < keys.length) :
    (keys.zip items ++ others).lookup keys[place] = items[place]? := by
  induction keys generalizing items place with
  | nil => cases inside
  | cons key rest ih =>
    obtain ⟨fresh, distinct⟩ := List.nodup_cons.1 distinct
    cases items with
    | nil => exact lookup_eq_none_of_not_mem (unknown _ (List.getElem_mem inside))
    | cons item items =>
      cases place with
      | zero => exact List.lookup_cons_self
      | succ place =>
        have isPlace : place < rest.length := by simpa using inside
        have differs : (rest[place] == key) = false := by
          rw [beq_eq_false_iff_ne]
          intro same
          exact fresh (same ▸ List.getElem_mem isPlace)
        have others :=
          ih distinct items (fun key member => unknown key (.tail _ member)) place isPlace
        simpa [List.lookup_cons, differs] using others

namespace EffectKind

/-- The effect type takes a list of arguments.  The other ones declare a shape of their
own or nest definitions. -/
def takesArguments : EffectKind → Bool
  | .destroy | .addKeyword | .buff | .composite | .repeated | .conditional | .selectTarget
  | .selectConsume | .selectCreatureForBuff | .selectFromGroup | .chooseOption | .choice => false
  | _ => true

theorem bind_of_takesArguments (takes : kind.takesArguments = true) (params : Value) :
    Invocation.bind kind params = (kind.arguments params).bind (Invocation.bindArguments kind) := by
  cases kind <;> first | rfl | cases takes

theorem plain_argumentKeys (kind : EffectKind) :
    (kind.argumentKeys.all fun key => key.toList.all fun letter => letter.toNat < 128) = true := by
  cases kind <;> decide

/-- The names made of the registered keys are those of the effect's own parameters. -/
theorem names_formals (kind : EffectKind) :
    kind.formals.map Formal.name = kind.parameters.map Parameter.name := by
  have plain := List.all_eq_true.1 kind.plain_argumentKeys
  rw [parameters, List.map_map]
  refine .trans ?_ (List.map_congr_left fun key isKey => snakeCase_of_plain (plain key isKey)).symm
  cases kind <;> decide +kernel

theorem nodup_names (kind : EffectKind) : (kind.parameters.map Parameter.name).Nodup := by
  rw [← names_formals]
  cases kind <;> decide

theorem nodup_argumentKeys (kind : EffectKind) : kind.argumentKeys.Nodup := by
  cases kind <;> decide

end EffectKind

namespace Parameter

/-- The fields that are picked, before they are put together. -/
theorem keys_picked (parameters : List Parameter) (fields : Fields) :
    (KeyedList.keys (parameters.filterMap fun parameter =>
      (fields.lookup parameter.key).map fun value => (parameter.name, value))).Sublist
      (parameters.map Parameter.name) := by
  induction parameters with
  | nil => exact .slnil
  | cons parameter rest ih =>
    cases found : fields.lookup parameter.key with
    | none => simpa [found] using ih.cons parameter.name
    | some value => simpa [found, KeyedList.keys] using ih.cons_cons parameter.name

theorem keywords_eq (distinct : (parameters.map name).Nodup) (fields : Fields) :
    keywords parameters fields = parameters.filterMap fun parameter =>
      (fields.lookup parameter.key).map fun value => (parameter.name, value) := by
  rw [keywords, KeyedList.putAll_of_disjoint (distinct.sublist (keys_picked parameters fields))]
  · rfl
  · exact fun _ _ isMember => nomatch isMember

/-- Only names of parameters are handed over. -/
theorem mem_names_of_mem_keywords (distinct : (parameters.map name).Nodup)
    {keyword : String × Value} (member : keyword ∈ keywords parameters fields) :
    keyword.1 ∈ parameters.map name := by
  rw [keywords_eq distinct] at member
  exact (keys_picked parameters fields).subset (List.mem_map_of_mem member)

/-- Under the name of a parameter stands what was given under its key. -/
theorem lookup_keywords (distinct : (parameters.map name).Nodup) (fields : Fields)
    {parameter : Parameter} (member : parameter ∈ parameters) :
    (keywords parameters fields).lookup parameter.name = fields.lookup parameter.key := by
  rw [keywords_eq distinct]
  induction parameters with
  | nil => cases member
  | cons first rest ih =>
    obtain ⟨fresh, others⟩ := List.nodup_cons.1 distinct
    rcases List.mem_cons.1 member with rfl | later
    · cases found : fields.lookup parameter.key with
      | some value => simp [found]
      | none =>
        rw [List.filterMap_cons_none (by rw [found]; rfl)]
        exact KeyedList.lookup_eq_none_of_not_mem fun isKey =>
          fresh ((keys_picked rest fields).subset isKey)
    · have differs : (parameter.name == first.name) = false := by
        rw [beq_eq_false_iff_ne]
        intro same
        exact fresh (same ▸ List.mem_map_of_mem later)
      cases found : fields.lookup first.key with
      | none => rw [List.filterMap_cons_none (by rw [found]; rfl), ih others later]
      | some value =>
        rw [List.filterMap_cons_some (by rw [found]; rfl), List.lookup_cons, differs]
        exact ih others later

end Parameter

theorem length_of_mapM {α β : Type} {read : α → Except Failure β} {entries : List α}
    {values : List β} (taken : entries.mapM read = .ok values) :
    values.length = entries.length := by
  induction entries generalizing values with
  | nil =>
    cases taken
    rfl
  | cons entry rest ih =>
    rw [List.mapM_cons] at taken
    obtain ⟨first, -, taken⟩ := bind_eq_ok.1 taken
    obtain ⟨others, areRead, same⟩ := bind_eq_ok.1 taken
    cases same
    rw [List.length_cons, List.length_cons, ih areRead]

namespace Formal

/-- By position, each parameter takes the item in its place. -/
theorem fromItems_eq (short : items.length ≤ formals.length) (given : Formal → Option Value)
    (each : ∀ place (inside : place < formals.length), given formals[place] = items[place]?) :
    fromItems formals items = formals.mapM fun formal => formal.argument (given formal) := by
  induction formals generalizing items with
  | nil =>
    rw [List.length_nil, Nat.le_zero, List.length_eq_zero_iff] at short
    subst short
    rfl
  | cons formal rest ih =>
    have first : given formal = items.head? := (each 0 (by simp)).trans List.head?_eq_getElem?.symm
    have shorter : items.tail.length ≤ rest.length := by
      rw [List.length_cons] at short
      rw [List.length_tail]
      omega
    have others := ih shorter fun place inside =>
      (each (place + 1) (by simpa using inside)).trans List.getElem?_tail.symm
    rw [fromItems, List.mapM_cons, first, others]

/-- By name, each parameter takes what is given under the key that its name was made of. -/
theorem fromKeywords_eq (named : formals.map name = parameters.map Parameter.name)
    (distinct : (parameters.map Parameter.name).Nodup) (fields : Fields) :
    fromKeywords formals (Parameter.keywords parameters fields) = formals.mapM fun formal =>
      formal.argument ((Parameter.keywords parameters fields).lookup formal.name) := by
  have known : ((Parameter.keywords parameters fields).any fun keyword =>
      !formals.any fun formal => formal.name == keyword.1) = false := by
    rw [List.any_eq_false]
    intro keyword member
    have isName := Parameter.mem_names_of_mem_keywords distinct member
    rw [← named] at isName
    obtain ⟨formal, isFormal, same⟩ := List.mem_map.1 isName
    simpa using ⟨formal, isFormal, same⟩
  rw [fromKeywords, known]
  rfl

theorem length_of_fromItems {arguments : List Value}
    (made : fromItems formals items = .ok arguments) :
    arguments.length = formals.length := by
  fun_induction fromItems formals items generalizing arguments with
  | case1 =>
    cases made
    rfl
  | case2 => cases made
  | case3 formal rest items ih =>
    obtain ⟨first, -, made⟩ := bind_eq_ok.1 made
    obtain ⟨others, areMade, same⟩ := bind_eq_ok.1 made
    cases same
    rw [List.length_cons, List.length_cons, ih areMade]

theorem length_of_fromKeywords {keywords : Fields} {arguments : List Value}
    (made : fromKeywords formals keywords = .ok arguments) : arguments.length = formals.length := by
  unfold fromKeywords at made
  split at made
  · cases made
  · exact length_of_mapM made

end Formal

namespace EffectKind

/-- Each parameter has its argument. -/
theorem length_arguments {params : Value} {arguments : List Value}
    (made : kind.arguments params = .ok arguments) : arguments.length = kind.formals.length := by
  unfold EffectKind.arguments at made
  split at made
  · exact Formal.length_of_fromItems made
  · exact Formal.length_of_fromKeywords made
  all_goals
    split at made
    · cases made
    · exact Formal.length_of_fromKeywords made

/-- The fields give these arguments by name and no further ones; fields that the effect
type knows nothing of do not count. -/
def Names (kind : EffectKind) (fields : Fields) (items : List Value) : Prop :=
  ∀ place (inside : place < kind.argumentKeys.length),
    fields.lookup kind.argumentKeys[place] = items[place]?

/-- Such fields are, for one, each item under its key, with anything behind them under
other keys. -/
theorem names_zip (kind : EffectKind) (items : List Value) {others : Fields}
    (unknown : ∀ key ∈ kind.argumentKeys, key ∉ KeyedList.keys others) :
    kind.Names (kind.argumentKeys.zip items ++ others) items :=
  KeyedList.lookup_zip_append kind.nodup_argumentKeys items unknown

theorem length_formals (kind : EffectKind) : kind.formals.length = kind.argumentKeys.length := by
  simpa [parameters] using congrArg List.length kind.names_formals

/-- What is given under a registered key goes to the parameter in the place of the key. -/
theorem lookup_formal (fields : Fields) {place : Nat} (inside : place < kind.formals.length)
    (isKey : place < kind.argumentKeys.length) :
    (Parameter.keywords kind.parameters fields).lookup kind.formals[place].name =
      fields.lookup kind.argumentKeys[place] := by
  have isParameter : place < kind.parameters.length := by
    simpa [parameters, length_formals] using inside
  have sameName : kind.formals[place].name = kind.parameters[place].name := by
    simpa [inside, isParameter] using congrArg (·[place]?) kind.names_formals
  rw [sameName, Parameter.lookup_keywords kind.nodup_names fields (List.getElem_mem _)]
  simp [parameters, Parameter.ofKey]

/-- Arguments come to the same by position and by name. -/
theorem arguments_list_eq_object (short : items.length ≤ kind.argumentKeys.length)
    (names : kind.Names fields items) :
    kind.arguments (.list items) = kind.arguments (.object fields) := by
  rw [arguments, arguments, Formal.fromKeywords_eq kind.names_formals kind.nodup_names]
  refine Formal.fromItems_eq (kind.length_formals ▸ short) _ fun place inside => ?_
  have isKey := kind.length_formals ▸ inside
  exact (lookup_formal fields inside isKey).trans (names place isKey)

end EffectKind

/-- An effect type that takes a list of arguments takes them by name as well: with the same
arguments, binding fails either way or yields the same invocation, and definitions that
ask for it in the one way and the other are resolved alike, in every context and on every
board. -/
theorem arguments_bind_alike_by_position_and_by_name (takes : kind.takesArguments = true)
    (short : items.length ≤ kind.argumentKeys.length) (names : kind.Names fields items) :
    Invocation.bind kind (.list items) = Invocation.bind kind (.object fields) ∧
    ∀ {byPosition byName : Value}, byPosition.Asks kind (.list items) →
      byName.Asks kind (.object fields) →
      ∀ react settings context board session,
        resolveWith react byPosition settings context board session =
          resolveWith react byName settings context board session := by
  have alike : Invocation.bind kind (.list items) = Invocation.bind kind (.object fields) := by
    rw [EffectKind.bind_of_takesArguments takes, EffectKind.bind_of_takesArguments takes,
      EffectKind.arguments_list_eq_object short names]
  refine ⟨alike, fun {byPosition byName} asks asksToo react settings context board session => ?_⟩
  have read : Reading.ofValue byPosition = Reading.ofValue byName := by
    rw [asks.reading, asksToo.reading, alike]
  rw [resolveWith_congr read]

/-- Damage to the acting creature, with its first two arguments in order, and by name: each
under its key in the same order, and out of order as well, both times beside a field that
means nothing.  The label is left out everywhere. -/
theorem damage_binds_by_position_and_by_name :
    let items : List Value := [.text "self", .int 0]
    let others : Fields := [("note", .text "x")]
    let inOrder : Fields := EffectKind.damageCreature.argumentKeys.zip items ++ others
    let fields : Fields := [("amount", .int 0), ("note", .text "x"), ("targetType", .text "self")]
    let byPosition : Value := .object [("type", .text "damageCreature"), ("params", .list items)]
    let byName : Value := .object [("type", .text "damageCreature"), ("params", .object fields)]
    (EffectKind.damageCreature.takesArguments = true ∧
      items.length ≤ EffectKind.damageCreature.argumentKeys.length ∧
      EffectKind.damageCreature.Names inOrder items ∧
      EffectKind.damageCreature.Names fields items ∧
      byPosition.Asks .damageCreature (.list items) ∧
        byName.Asks .damageCreature (.object fields)) ∧
    Invocation.bind .damageCreature (.list items) =
      Invocation.bind .damageCreature (.object inOrder) ∧
    Invocation.bind .damageCreature (.list items) =
      Invocation.bind .damageCreature (.object fields) ∧
    ∀ react settings context board session,
      resolveWith react byPosition settings context board session =
        resolveWith react byName settings context board session := by
  intro items others inOrder fields byPosition byName
  have unknown : ∀ key ∈ EffectKind.damageCreature.argumentKeys, key ∉ KeyedList.keys others := by
    decide
  have namesInOrder : EffectKind.damageCreature.Names inOrder items :=
    EffectKind.damageCreature.names_zip items unknown
  have names : EffectKind.damageCreature.Names fields items
    | 0, _ => rfl
    | 1, _ => rfl
    | 2, _ => rfl
  have asks : byPosition.Asks .damageCreature (.list items) := ⟨rfl, rfl, rfl⟩
  have asksToo : byName.Asks .damageCreature (.object fields) := ⟨rfl, rfl, rfl⟩
  have short : items.length ≤ EffectKind.damageCreature.argumentKeys.length := by decide
  have boundInOrder :=
    (arguments_bind_alike_by_position_and_by_name rfl short namesInOrder).1
  obtain ⟨bound, resolved⟩ := arguments_bind_alike_by_position_and_by_name rfl short names
  exact ⟨⟨rfl, short, namesInOrder, names, asks, asksToo⟩, boundInOrder, bound,
    resolved asks asksToo⟩

end CreatureCards
