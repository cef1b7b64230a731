import CreatureCards.Proofs.CleanCheck
import CreatureCards.Proofs.UnusableDefinition

/-!
# Checks that get stuck

A check of card data meets values of every kind.  It gets stuck where it looks up a list
or an object among names, and where it steps through options that cannot be stepped
through; wherever it does not, it comes to an end with its findings.  So a definition is
checked to the end exactly if no such value stands where the check looks.
-/

namespace CreatureCards

namespace Validation

/-- The check fails exactly under the condition, and otherwise answers. -/
structure FailsIff {α : Type} (stuck : Prop) (check : Except Failure α) : Prop where
  fails : stuck → check = .error .wrongKind
  answers : ¬ stuck → ∃ found, check = .ok found

namespace FailsIff

variable {α β : Type} {stuck other : Prop}

theorem ok (found : α) : FailsIff False (.ok found : Except Failure α) :=
  ⟨False.elim, fun _ => ⟨found, rfl⟩⟩

theorem wrongKind : FailsIff True (.error .wrongKind : Except Failure α) :=
  ⟨fun _ => rfl, fun free => absurd trivial free⟩

theorem congr {check : Except Failure α} (law : FailsIff stuck check) (same : stuck ↔ other) :
    FailsIff other check :=
  ⟨fun holds => law.fails (same.2 holds), fun free => law.answers fun holds => free (same.1 holds)⟩

theorem bind {first : Except Failure α} {next : α → Except Failure β} (law : FailsIff stuck first)
    (later : ∀ found, FailsIff other (next found)) : FailsIff (stuck ∨ other) (first >>= next) := by
  by_cases holds : stuck
  · exact ⟨fun _ => by rw [law.fails holds]; rfl, fun free => absurd (.inl holds) free⟩
  · obtain ⟨found, answered⟩ := law.answers holds
    rw [answered]
    exact (later found).congr (by simp [holds])

/-- What follows has no part in it if it always answers. -/
theorem before {first : Except Failure α} {next : α → Except Failure β} (law : FailsIff stuck first)
    (later : ∀ found, FailsIff False (next found)) : FailsIff stuck (first >>= next) :=
  (law.bind later).congr (or_iff_left not_false)

theorem andThen {first : Except Failure α} (law : FailsIff stuck first) (make : α → β) :
    FailsIff stuck (first >>= fun found => pure (make found)) :=
  law.before fun found => ok (make found)

theorem mapM (stuck : α → Prop) {entries : List α} {check : α → Except Failure β}
    (each : ∀ entry ∈ entries, FailsIff (stuck entry) (check entry)) :
    FailsIff (∃ entry ∈ entries, stuck entry) (entries.mapM check) := by
  induction entries with
  | nil => exact (ok []).congr (by simp)
  | cons first rest ih =>
      rw [List.mapM_cons]
      have here := each first List.mem_cons_self
      have later := ih fun entry member => each entry (List.mem_cons_of_mem first member)
      exact (here.bind fun found => later.andThen (found :: ·)).congr (by simp)

/-- Entries that are checked together with their places. -/
theorem mapM_zipIdx (stuck : α → Prop) {items : List α}
    {check : { item // item ∈ items } × Nat → Except Failure β}
    (each : ∀ item member place, FailsIff (stuck item) (check (⟨item, member⟩, place))) :
    FailsIff (∃ item ∈ items, stuck item) (items.attach.zipIdx.mapM check) := by
  refine (mapM (fun entry => stuck entry.1.1)
    fun entry _ => each entry.1.1 entry.1.2 entry.2).congr ⟨?_, ?_⟩
  · rintro ⟨entry, -, holds⟩
    exact ⟨entry.1.1, entry.1.2, holds⟩
  · rintro ⟨item, member, holds⟩
    obtain ⟨place, found⟩ := List.mem_iff_getElem?.1 (List.mem_attach items ⟨item, member⟩)
    exact ⟨(⟨item, member⟩, place), List.mem_zipIdx_iff_getElem?.2 found, holds⟩

end FailsIff

/-- The check of the parameters of an effect gets stuck on what it looks up itself. -/
def Obstructs (kind : EffectKind) (params : Value) : Prop :=
  match kind with
  | .conditional => (params.get "condition").isObject = true ∧
      ((params.get "condition").get "type").isContainer = true
  | .selectFromGroup => (params.get "targetGroup").isContainer = true
  | .chooseOption => entries (params.get "options") = .error .wrongKind
  | .choice => entries (params.get "choices") = .error .wrongKind
  | .destroy | .addKeyword | .buff =>
    ∃ target, params.get? "target" = some target ∧ target.isContainer = true
  | _ => False

/-- An effect by its type and parameters. -/
def node (type params : Value) : Value :=
  .object [("type", type), ("params", params)]

/-- The check of the parameters of an effect goes on to a definition among them. -/
def Examines (kind : EffectKind) (params nested : Value) : Prop :=
  match kind with
  | .composite => (params.get "effects").isTruthy = true ∧ nested = params.get "effects"
  | .repeated | .selectTarget | .selectConsume =>
    (params.get "effect").isTruthy = true ∧ nested = params.get "effect"
  | .conditional =>
    ∃ key ∈ ["effectIfTrue", "effectIfFalse"],
      (params.get key).isTruthy = true ∧ nested = params.get key
  | .selectFromGroup =>
    (params.get "effect").isObject = true ∧ hasShortcut (params.get "effect") = false ∧
      ((params.get "effect").get "type").isTruthy = true ∧
      nested = node ((params.get "effect").get "type") ((params.get "effect").get "params")
  | .chooseOption =>
    ∃ options, entries (params.get "options") = .ok options ∧ ∃ option ∈ options,
      isLabelled option = true ∧ isDefinition (option.get "effect") = true ∧
      nested = option.get "effect"
  | .choice =>
    ∃ choices, entries (params.get "choices") = .ok choices ∧ ∃ choice ∈ choices,
      isLabelled choice = true ∧ nested = node (choice.get "type") (choice.get "params")
  | _ => False

/-- The check of a definition gets to the parameters of an effect. -/
def Opens (definition : Value) (kind : EffectKind) : Prop :=
  definition.isObject = true ∧ EffectKind.ofValue? (definition.get "type") = some kind ∧
    ((definition.get "params").isTruthy = true → (definition.get "params").isObject = true)

/-- Somewhere the check of the definition gets stuck. -/
inductive Stuck : Value → Prop
  | here {definition : Value} {kind : EffectKind} (opens : Opens definition kind)
      (obstructs : Obstructs kind (definition.get "params")) : Stuck definition
  | within {definition nested : Value} {kind : EffectKind} (opens : Opens definition kind)
      (examines : Examines kind (definition.get "params") nested) (stuck : Stuck nested) :
      Stuck definition
  | item {items : List Value} {item : Value} (member : item ∈ items) (stuck : Stuck item) :
      Stuck (.list items)

theorem failsIff_isNamed (value : Value) (names : List String) :
    FailsIff (value.isContainer = true) (isNamed value names) := by
  unfold isNamed
  cases value.isContainer with
  | true => exact ⟨fun _ => rfl, fun free => absurd rfl free⟩
  | false => exact (FailsIff.ok _).congr (by simp)

theorem failsIff_checkName (value : Value) (allowed : List String) (key path : String) :
    FailsIff (value.isContainer = true) (checkName value allowed key path) := by
  refine (failsIff_isNamed value allowed).before fun named => ?_
  cases named <;> exact FailsIff.ok _

theorem failsIff_checkOptionalName (params : Value) (allowed : List String) (key path : String) :
    FailsIff (∃ value, params.get? key = some value ∧ value.isContainer = true)
      (checkOptionalName params allowed key path) := by
  unfold checkOptionalName
  cases found : params.get? key with
  | none => exact (FailsIff.ok _).congr (by simp)
  | some value => exact (failsIff_checkName value allowed key path).congr (by simp)

theorem failsIff_checkCondition (condition : Value) (path : String) :
    FailsIff (condition.isObject = true ∧ (condition.get "type").isContainer = true)
      (checkCondition condition path) := by
  cases condition with
  | object fields =>
      refine ((failsIff_isNamed _ _).before fun named => ?_).congr
        (by simp [Value.isObject])
      cases named <;> exact FailsIff.ok _
  | _ => exact (FailsIff.ok _).congr (by simp [Value.isObject])

theorem failsIff_checkTargetGroup (group : Value) (path : String) :
    FailsIff (group.isContainer = true) (checkTargetGroup group path) := by
  cases group with
  | null => exact (FailsIff.ok _).congr (by simp [Value.isContainer])
  | _ =>
      refine (failsIff_isNamed _ _).before fun named => ?_
      cases named <;> exact FailsIff.ok _

theorem checkDefinition_node (type params : Value) (path : String) :
    checkDefinition (node type params) path = checkNode type params path := by
  rw [node, checkDefinition]
  rfl

/-- A nested definition that is checked if it is present. -/
theorem failsIff_checkNested {params : Value} {key : String}
    (known : (params.get key).isTruthy = true → ∀ path,
      FailsIff (Stuck (params.get key)) (checkDefinition (params.get key) path)) (path : String) :
    FailsIff ((params.get key).isTruthy = true ∧ Stuck (params.get key))
      (checkNested params key path) := by
  rw [checkNested]
  split
  · rename_i present
    exact (known present _).congr (by simp [present])
  · rename_i absent
    exact (FailsIff.ok _).congr (by simp [absent])

/-- Only objects have parts that are present. -/
theorem isObject_of_get {value : Value} {key : String} (present : (value.get key).isTruthy = true) :
    value.isObject = true := by
  cases value with
  | object fields => rfl
  | _ => cases present

/-- A group effect leads to a nested definition if it has no shortcut. -/
theorem failsIff_checkGroupEffect {effect : Value}
    (known : effect.isObject = true → hasShortcut effect = false →
      (effect.get "type").isTruthy = true → ∀ path,
        FailsIff (Stuck (node (effect.get "type") (effect.get "params")))
          (checkDefinition (node (effect.get "type") (effect.get "params")) path)) (path : String) :
    FailsIff (effect.isObject = true ∧ hasShortcut effect = false ∧
        (effect.get "type").isTruthy = true ∧
        Stuck (node (effect.get "type") (effect.get "params")))
      (checkGroupEffect effect path) := by
  rw [checkGroupEffect]
  split
  · split
    · rename_i short
      exact (FailsIff.ok _).congr (by simp [short])
    rename_i bare
    split
    · rename_i present
      have isObject := isObject_of_get present
      rw [← checkDefinition_node]
      exact (known isObject (by simpa using bare) present _).congr
        (by simp [isObject, bare, present])
    · rename_i absent
      exact (FailsIff.ok _).congr (by simp [absent])
  · rename_i noObject
    refine (FailsIff.ok _).congr ⟨False.elim, fun ⟨isObject, _⟩ => ?_⟩
    cases effect with
    | object fields =>
        cases fields with
        | nil => exact noObject [] rfl
        | cons first rest => exact noObject (first :: rest) rfl
    | _ => cases isObject

/-- Entries that are checked each for itself. -/
theorem failsIff_entries (stuck : Value → Prop) {entries : List Value} {count : Findings}
    {check : { entry // entry ∈ entries } × Nat → Checked}
    (each : ∀ entry member place, FailsIff (stuck entry) (check (⟨entry, member⟩, place))) :
    FailsIff (∃ entry ∈ entries, stuck entry)
      (entries.attach.zipIdx.mapM check >>= fun findings =>
        pure (count ++ Findings.concat findings)) :=
  (FailsIff.mapM_zipIdx stuck each).andThen fun findings => count ++ Findings.concat findings

theorem failsIff_checkConditional {params : Value}
    (known : ∀ key ∈ ["effectIfTrue", "effectIfFalse"], (params.get key).isTruthy = true → ∀ path,
      FailsIff (Stuck (params.get key)) (checkDefinition (params.get key) path)) (path : String) :
    FailsIff (((params.get "condition").isObject = true ∧
        ((params.get "condition").get "type").isContainer = true) ∨
        ∃ key ∈ ["effectIfTrue", "effectIfFalse"],
          (params.get key).isTruthy = true ∧ Stuck (params.get key))
      (checkParams .conditional params path) := by
  rw [checkParams]
  refine ((failsIff_checkCondition _ _).bind fun _ =>
    (failsIff_checkNested (known "effectIfTrue" (by simp)) _).bind fun _ =>
      (failsIff_checkNested (known "effectIfFalse" (by simp)) _).andThen _).congr ?_
  simp

/-- Options or choices that cannot be stepped through stop the check of the menu. -/
theorem entries_cases (value : Value) :
    entries value = .error .wrongKind ∨ ∃ found, entries value = .ok found := by
  unfold entries
  split
  · cases value.elements? with
    | none => exact .inl rfl
    | some items => exact .inr ⟨items, rfl⟩
  · exact .inr ⟨[], rfl⟩

theorem failsIff_checkOptions {params : Value}
    (known : ∀ options, entries (params.get "options") = .ok options → ∀ option ∈ options,
      isLabelled option = true → isDefinition (option.get "effect") = true → ∀ path,
        FailsIff (Stuck (option.get "effect")) (checkDefinition (option.get "effect") path))
    (path : String) :
    FailsIff (entries (params.get "options") = .error .wrongKind ∨
        ∃ options, entries (params.get "options") = .ok options ∧ ∃ option ∈ options,
          isLabelled option = true ∧ isDefinition (option.get "effect") = true ∧
          Stuck (option.get "effect"))
      (checkParams .chooseOption params path) := by
  rw [checkParams]
  split
  · rename_i failure failed
    rcases entries_cases (params.get "options") with stuck | ⟨options, given⟩
    · obtain rfl := Except.error.inj (failed.symm.trans stuck)
      exact FailsIff.wrongKind.congr (by simp [stuck])
    · rw [given] at failed
      cases failed
  · rename_i options given
    refine (failsIff_entries (fun option => isLabelled option = true ∧
      isDefinition (option.get "effect") = true ∧ Stuck (option.get "effect"))
      fun option member place => ?_).congr (by simp [given])
    dsimp only
    split
    · rename_i labelled
      split
      · rename_i looks
        exact (known options given option member labelled looks _).congr (by simp [labelled, looks])
      · rename_i shorthand
        exact (FailsIff.ok _).congr (by simp [shorthand])
    · rename_i unlabelled
      exact (FailsIff.ok _).congr (by simp [unlabelled])

theorem failsIff_checkChoices {params : Value}
    (known : ∀ choices, entries (params.get "choices") = .ok choices → ∀ choice ∈ choices,
      isLabelled choice = true → ∀ path,
        FailsIff (Stuck (node (choice.get "type") (choice.get "params")))
          (checkDefinition (node (choice.get "type") (choice.get "params")) path))
    (path : String) :
    FailsIff (entries (params.get "choices") = .error .wrongKind ∨
        ∃ choices, entries (params.get "choices") = .ok choices ∧ ∃ choice ∈ choices,
          isLabelled choice = true ∧ Stuck (node (choice.get "type") (choice.get "params")))
      (checkParams .choice params path) := by
  rw [checkParams]
  split
  · rename_i failure failed
    rcases entries_cases (params.get "choices") with stuck | ⟨choices, given⟩
    · obtain rfl := Except.error.inj (failed.symm.trans stuck)
      exact FailsIff.wrongKind.congr (by simp [stuck])
    · rw [given] at failed
      cases failed
  · rename_i choices given
    refine (failsIff_entries (fun choice => isLabelled choice = true ∧
      Stuck (node (choice.get "type") (choice.get "params")))
      fun choice member place => ?_).congr (by simp [given])
    dsimp only
    split
    · rename_i labelled
      rw [← checkDefinition_node]
      exact (known choices given choice member labelled _).congr (by simp [labelled])
    · rename_i unlabelled
      exact (FailsIff.ok _).congr (by simp [unlabelled])

theorem failsIff_checkDestroy (params : Value) (path : String) :
    FailsIff (∃ target, params.get? "target" = some target ∧ target.isContainer = true)
      (checkParams .destroy params path) := by
  rw [checkParams]
  refine (failsIff_checkName _ _ _ _).congr ?_
  cases params.get? "target" with
  | none => simp [Value.isContainer]
  | some target => simp

/-- The check of the parameters of an effect fails exactly if it gets stuck there or in a
definition that it goes on to. -/
theorem failsIff_checkParams {kind : EffectKind} {params : Value}
    (known : ∀ nested, Examines kind params nested → ∀ path,
      FailsIff (Stuck nested) (checkDefinition nested path)) (path : String) :
    FailsIff (Obstructs kind params ∨ ∃ nested, Examines kind params nested ∧ Stuck nested)
      (checkParams kind params path) := by
  cases kind
  case composite =>
    rw [checkParams]
    split
    · rename_i present
      exact (known _ ⟨present, rfl⟩ _).congr (by simp [Obstructs, Examines, present])
    · rename_i absent
      exact (FailsIff.ok _).congr (by simp [Obstructs, Examines, absent])
  case repeated | selectTarget | selectConsume =>
    rw [checkParams]
    exact (failsIff_checkNested (fun present => known _ ⟨present, rfl⟩) _).congr
      (by simp [Obstructs, Examines, and_assoc])
  case conditional =>
    refine (failsIff_checkConditional
      (fun key isBranch present => known _ ⟨key, isBranch, present, rfl⟩) path).congr
      (or_congr_right ⟨?_, ?_⟩)
    · rintro ⟨key, isBranch, present, stuck⟩
      exact ⟨_, ⟨key, isBranch, present, rfl⟩, stuck⟩
    · rintro ⟨_, ⟨key, isBranch, present, rfl⟩, stuck⟩
      exact ⟨key, isBranch, present, stuck⟩
  case selectFromGroup =>
    rw [checkParams]
    exact ((failsIff_checkTargetGroup _ _).bind fun _ =>
      (failsIff_checkGroupEffect (fun isObject bare present =>
        known _ ⟨isObject, bare, present, rfl⟩) _).andThen _).congr
      (by simp [Obstructs, Examines, and_assoc])
  case chooseOption =>
    refine (failsIff_checkOptions (fun options given option member labelled looks =>
      known _ ⟨options, given, option, member, labelled, looks, rfl⟩) path).congr
      (or_congr_right ⟨?_, ?_⟩)
    · rintro ⟨options, given, option, member, labelled, looks, stuck⟩
      exact ⟨_, ⟨options, given, option, member, labelled, looks, rfl⟩, stuck⟩
    · rintro ⟨_, ⟨options, given, option, member, labelled, looks, rfl⟩, stuck⟩
      exact ⟨options, given, option, member, labelled, looks, stuck⟩
  case choice =>
    refine (failsIff_checkChoices (fun choices given choice member labelled =>
      known _ ⟨choices, given, choice, member, labelled, rfl⟩) path).congr
      (or_congr_right ⟨?_, ?_⟩)
    · rintro ⟨choices, given, choice, member, labelled, stuck⟩
      exact ⟨_, ⟨choices, given, choice, member, labelled, rfl⟩, stuck⟩
    · rintro ⟨_, ⟨choices, given, choice, member, labelled, rfl⟩, stuck⟩
      exact ⟨choices, given, choice, member, labelled, stuck⟩
  case destroy =>
    exact (failsIff_checkDestroy params path).congr (by simp [Obstructs, Examines])
  case addKeyword | buff =>
    rw [checkParams]
    exact (failsIff_checkOptionalName _ _ _ _).congr (by simp [Obstructs, Examines])
  all_goals
    rw [checkParams]
    · exact (FailsIff.ok _).congr (by simp [Obstructs, Examines])
    all_goals simp

/-- An effect is no deeper than an object that holds its type and parameters. -/
theorem depth_node_le {value : Value} (isObject : value.isObject = true) :
    (node (value.get "type") (value.get "params")).depth ≤ value.depth := by
  cases value with
  | object fields =>
      have type := Value.depth_get_object_lt fields "type"
      have params := Value.depth_get_object_lt fields "params"
      rw [node, Value.depth_object]
      simp only [Value.depthFields]
      omega
  | _ => cases isObject

/-- What the check of an effect goes on to is no deeper than the parameters. -/
theorem depth_le_of_examines {kind : EffectKind} {params nested : Value}
    (examines : Examines kind params nested) : nested.depth ≤ params.depth := by
  unfold Examines at examines
  split at examines
  case h_1 | h_2 | h_3 | h_4 =>
    obtain ⟨-, rfl⟩ := examines
    exact Value.depth_get_le _ _
  case h_5 =>
    obtain ⟨key, -, -, rfl⟩ := examines
    exact Value.depth_get_le _ _
  case h_6 =>
    obtain ⟨isObject, -, -, rfl⟩ := examines
    exact (depth_node_le isObject).trans (Value.depth_get_le _ _)
  case h_7 =>
    obtain ⟨options, given, option, member, -, -, rfl⟩ := examines
    exact ((Value.depth_get_le _ _).trans (depth_le_of_mem_entries given member)).trans
      (Value.depth_get_le _ _)
  case h_8 =>
    obtain ⟨choices, given, choice, member, labelled, rfl⟩ := examines
    exact ((depth_node_le (isObject_of_get labelled)).trans
      (depth_le_of_mem_entries given member)).trans (Value.depth_get_le _ _)
  case h_9 => exact examines.elim

theorem stuck_object_iff {fields : Fields} :
    Stuck (.object fields) ↔ ∃ kind, Opens (.object fields) kind ∧
      (Obstructs kind ((Value.object fields).get "params") ∨
        ∃ nested, Examines kind ((Value.object fields).get "params") nested ∧ Stuck nested) := by
  constructor
  · rintro (⟨opens, obstructs⟩ | ⟨opens, examines, stuck⟩)
    · exact ⟨_, opens, .inl obstructs⟩
    · exact ⟨_, opens, .inr ⟨_, examines, stuck⟩⟩
  · rintro ⟨kind, opens, obstructs | ⟨nested, examines, stuck⟩⟩
    · exact .here opens obstructs
    · exact .within opens examines stuck

/-- Nothing absent names an effect type. -/
theorem ofValue?_of_absent {type : Value} (absent : ¬ type.isTruthy = true) :
    EffectKind.ofValue? type = none := by
  cases type with
  | text content =>
      obtain rfl : content = "" := by simpa [Value.isTruthy] using absent
      rfl
  | _ => rfl

/-- The check of an effect fails exactly if it gets to the parameters and stuck there. -/
theorem failsIff_object {fields : Fields}
    (known : ∀ kind nested, Examines kind ((Value.object fields).get "params") nested → ∀ path,
      FailsIff (Stuck nested) (checkDefinition nested path)) (path : String) :
    FailsIff (Stuck (.object fields)) (checkDefinition (.object fields) path) := by
  have unopened {found : Findings} (shut : ∀ kind, ¬ Opens (.object fields) kind) :
      FailsIff (Stuck (.object fields)) (.ok found : Checked) :=
    (FailsIff.ok _).congr (by simp [stuck_object_iff, shut])
  rw [checkDefinition, checkNode]
  split
  · rename_i absent
    have unnamed := ofValue?_of_absent (by simpa using absent)
    exact unopened fun kind opens => by simpa [unnamed] using opens.2.1
  split
  · rename_i unknown
    exact unopened fun kind opens => by simpa [unknown] using opens.2.1
  rename_i kind isKind
  split
  · rename_i partless
    refine unopened fun other opens => ?_
    obtain ⟨present, noObject⟩ : _ ∧ _ := by simpa using partless
    rw [opens.2.2 present] at noObject
    cases noObject
  · rename_i fits
    have opens : Opens (.object fields) kind := ⟨rfl, isKind, by simpa using fits⟩
    refine ((failsIff_checkParams (known kind) _).andThen _).congr ?_
    rw [stuck_object_iff]
    refine ⟨fun stuck => ⟨kind, opens, stuck⟩, ?_⟩
    rintro ⟨other, others, stuck⟩
    obtain rfl := Option.some.inj (isKind.symm.trans others.2.1)
    exact stuck

/-- The check of a definition fails exactly if it gets stuck. -/
theorem failsIff_checkDefinition (definition : Value) (path : String) :
    FailsIff (Stuck definition) (checkDefinition definition path) := by
  induction depth : definition.depth using Nat.strong_induction_on generalizing definition path with
  | _ depth ih =>
    subst depth
    cases definition with
    | list items =>
        rw [checkDefinition]
        refine ((FailsIff.mapM_zipIdx Stuck fun item member place =>
          ih _ (Value.depth_lt_of_mem member) item _ rfl).andThen _).congr ⟨?_, ?_⟩
        · rintro ⟨item, member, stuck⟩
          exact .item member stuck
        · rintro (⟨opens, -⟩ | ⟨opens, -, -⟩ | ⟨member, stuck⟩)
          · cases opens.1
          · cases opens.1
          · exact ⟨_, member, stuck⟩
    | object fields =>
        refine failsIff_object (fun kind nested examines path => ?_) path
        exact ih _ (Nat.lt_of_le_of_lt (depth_le_of_examines examines)
          (Value.depth_get_object_lt fields "params")) nested path rfl
    | _ =>
        rw [checkDefinition]
        · refine (FailsIff.ok _).congr ⟨False.elim, ?_⟩
          rintro (⟨opens, -⟩ | ⟨opens, -, -⟩) <;> cases opens.1
        all_goals rintro _ ⟨⟩

theorem Stuck.isTruthy {definition : Value} (stuck : Stuck definition) :
    definition.isTruthy = true := by
  have inhabited {other : Value} {kind : EffectKind} (opens : Opens other kind) :
      other.isTruthy = true := by
    obtain ⟨isObject, isKind, -⟩ := opens
    cases other with
    | object fields =>
        cases fields with
        | nil => cases isKind
        | cons first rest => rfl
    | _ => cases isObject
  cases stuck with
  | here opens _ => exact inhabited opens
  | within opens _ _ => exact inhabited opens
  | @item items item member _ =>
      cases items with
      | nil => cases member
      | cons first rest => rfl

/-- The check of a trigger fails exactly if its definition gets stuck. -/
theorem failsIff_checkTrigger (card trigger : String) (definition : Value) :
    FailsIff (Stuck definition) (checkTrigger card trigger definition) := by
  unfold checkTrigger
  dsimp only
  split
  · rename_i absent
    exact (FailsIff.ok _).congr ⟨False.elim, fun stuck => by simp [stuck.isTruthy] at absent⟩
  · exact (failsIff_checkDefinition definition _).andThen _

/-- The check of the card gets stuck in a definition under one of its triggers. -/
def StuckCard (card : Value) : Prop :=
  ∃ effects, card.get "effects" = .object effects ∧ ∃ entry ∈ effects, Stuck entry.2

/-- The check of a card fails exactly if one of its definitions gets stuck. -/
theorem failsIff_checkCard (fields : Fields) :
    FailsIff (StuckCard (.object fields)) (checkCard (.object fields)) := by
  have eachTrigger (id : String) (effects : Fields) :=
    (FailsIff.mapM (fun entry => Stuck entry.2)
      fun (entry : String × Value) (_ : entry ∈ effects) =>
        failsIff_checkTrigger id entry.1 entry.2).andThen Findings.concat
  unfold checkCard StuckCard
  cases given : (Value.object fields).get "effects" with
  | object effects =>
      have whole : (Value.object effects).orElse (.object []) = .object effects := by
        cases effects <;> rfl
      rw [whole]
      exact (eachTrigger _ effects).congr (by simp)
  | _ =>
      dsimp only [Value.orElse]
      split
      · rename_i empty
        split at empty <;> cases empty
        exact (eachTrigger _ []).congr (by simp)
      · exact (FailsIff.ok _).congr (by simp)

/-- The id of the card is a list or an object. -/
def ContainerId (card : Value) : Prop :=
  (card.get "id").isTruthy = true ∧ (card.get "id").isContainer = true

theorem failsIff_checkId (seen : List Value) (fields : Fields) :
    FailsIff (ContainerId (.object fields)) (checkId seen (.object fields)) := by
  unfold checkId ContainerId
  generalize (Value.object fields).get "id" = id
  by_cases present : id.isTruthy = true
  · by_cases container : id.isContainer = true
    · simp only [Value.isObject, present, container, Bool.not_true, Bool.false_eq_true, if_false,
        if_true]
      exact FailsIff.wrongKind.congr (by simp)
    · simp only [Value.isObject, present, container, Bool.not_true, Bool.false_eq_true, if_false]
      cases seen.any id.sameMember <;> exact (FailsIff.ok _).congr (by simp)
  · simp only [Value.isObject, present, Bool.not_true, Bool.not_false, Bool.false_eq_true, if_false,
      if_true]
    exact (FailsIff.ok _).congr (by simp)

/-- The check of cards fails exactly if it gets stuck in one of them, or on its id. -/
theorem failsIff_checkCards (cards : List Fields) (seen : List Value) :
    FailsIff (∃ card ∈ cards, ContainerId (.object card) ∨ StuckCard (.object card))
      (checkCards seen (cards.map .object)) := by
  induction cards generalizing seen with
  | nil => exact (FailsIff.ok _).congr (by simp)
  | cons card rest ih =>
      rw [List.map_cons, checkCards]
      refine ((failsIff_checkId seen card).bind fun noted =>
        (failsIff_checkCard card).bind fun _ => (ih noted.2).andThen _).congr ?_
      simp [or_assoc]

/-- What checks of card data come to.  The check of a definition fails exactly if it gets
stuck, that of a card if it gets stuck under a trigger, and that of a catalog if it gets
stuck in a card or meets an id that is a list or an object.  All other checks answer. -/
theorem checks_fail_iff_stuck (definition : Value) (path : String) (card : Fields)
    (cards : List Fields) :
    FailsIff (Stuck definition) (definitionErrors definition path) ∧
    FailsIff (StuckCard (.object card)) (checkCard (.object card)) ∧
    FailsIff (∃ fields ∈ cards, ContainerId (.object fields) ∨ StuckCard (.object fields))
      (checkCatalog (.list (cards.map .object))) :=
  ⟨(failsIff_checkDefinition definition path).andThen Findings.errors, failsIff_checkCard card,
    failsIff_checkCards cards []⟩

/-- A destroying effect that is aimed at a list. -/
def listedTarget : Value :=
  invocationOf "destroy" (.object [("target", .list [])])

/-- A menu with a number for its options. -/
def numberedOptions : Value :=
  invocationOf "chooseOption" (.object [("options", .int 5)])

theorem stuck_listedTarget : Stuck listedTarget :=
  .here ⟨rfl, rfl, fun _ => rfl⟩ (show Obstructs .destroy _ from ⟨_, rfl, rfl⟩)

theorem stuck_numberedOptions : Stuck numberedOptions :=
  .here ⟨rfl, rfl, fun _ => rfl⟩ (show Obstructs .chooseOption _ from rfl)

/-- Checks of a definition, of a card and of a catalog that fail. -/
theorem checks_that_fail :
    definitionErrors listedTarget "effect" = .error .wrongKind ∧
    definitionErrors numberedOptions "effect" = .error .wrongKind ∧
    checkCard (.object [("id", .text "wolf"), ("effects", .object [("onPlay", listedTarget)])]) =
      .error .wrongKind ∧
    checkCatalog (.list [.object [("id", .list [.int 1])]]) = .error .wrongKind := by
  have stuckCard : StuckCard
      (.object [("id", .text "wolf"), ("effects", .object [("onPlay", listedTarget)])]) :=
    ⟨_, rfl, _, List.mem_singleton_self _, stuck_listedTarget⟩
  refine ⟨?_, ?_, (failsIff_checkCard _).fails stuckCard,
    (failsIff_checkCards [[("id", .list [.int 1])]] []).fails
      ⟨_, List.mem_singleton_self _, .inl ⟨rfl, rfl⟩⟩⟩
  · rw [definitionErrors, (failsIff_checkDefinition _ _).fails stuck_listedTarget]
    rfl
  · rw [definitionErrors, (failsIff_checkDefinition _ _).fails stuck_numberedOptions]
    rfl

end Validation

end CreatureCards
