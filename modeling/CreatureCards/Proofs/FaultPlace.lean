import CreatureCards.Proofs.QuotedEnding
import CreatureCards.Proofs.StuckCheck
import Mathlib

/-!
# Where faults are reported

The check of a definition reports each fault with the place where it found it.  The places
are told from where the definition itself stands, so a definition has the same faults
wherever it is checked.  No such report reads like the report of an id that is used twice.
-/

namespace CreatureCards

namespace Validation

/-- The report that the id of a card was used before. -/
def repeatReport (id : String) : String :=
  "duplicate card id " ++ quoted id

/-- No text that ends in the reason reports a repeated id. -/
def TellsNoRepeat (reason : String) : Prop :=
  ∀ front id, front ++ reason ≠ repeatReport id

theorem tellsNoRepeat_of_endsBare {reason : String} (bare : EndsBare reason) :
    TellsNoRepeat reason := by
  intro front id same
  exact not_endsBare_append_quoted _ id (same ▸ bare.behind front)

/-- Behind other words than those of the report, a text may be quoted. -/
theorem tellsNoRepeat_quoted (words : String) (letter : Char)
    (isLast : words.toList.getLast? = some letter) (differs : letter ≠ 'd') (text : String) :
    TellsNoRepeat (words ++ " " ++ quoted text) := by
  intro front id same
  have split : front ++ words ++ " " ++ quoted text = "duplicate card id" ++ " " ++ quoted id := by
    rw [← String.append_assoc, ← String.append_assoc] at same
    exact same
  have lasts := congrArg (fun text => text.toList.getLast?) (eq_of_append_quoted split)
  rw [String.toList_append, List.getLast?_append, isLast, Option.some_or] at lasts
  exact differs (Option.some.inj lasts)

theorem tellsNoRepeat_quotedForm (words : String) (letter : Char)
    (isLast : words.toList.getLast? = some letter) (differs : letter ≠ 'd') (value : Value) :
    TellsNoRepeat (words ++ " " ++ value.quotedForm) := by
  by_cases other : ∀ content, value ≠ .text content
  · exact tellsNoRepeat_of_endsBare ((endsBare_quotedForm other).behind _)
  · obtain ⟨content, rfl⟩ := not_forall_not.1 other
    rw [Value.quotedForm]
    exact tellsNoRepeat_quoted words letter isLast differs content

/-- A fault: the place, told from where the check began, and the reason. -/
structure Fault where
  place : String
  reason : String

/-- How a fault is reported in a check that began on the path. -/
def Fault.report (path : String) (fault : Fault) : String :=
  path ++ fault.place ++ ": " ++ fault.reason

/-- Wherever the check begins, it reports the same faults, and no repeated id. -/
def Localized (check : String → Checked) : Prop :=
  ∃ faults : List Fault, (∀ fault ∈ faults, TellsNoRepeat fault.reason) ∧
    ∀ path findings, check path = .ok findings → findings.errors = faults.map (Fault.report path)

namespace Localized

variable {check first second : String → Checked}

theorem clean (none : ∀ path findings, check path = .ok findings → findings.errors = []) :
    Localized check :=
  ⟨[], List.forall_mem_nil _, none⟩

theorem ok {findings : String → Findings} (none : ∀ path, (findings path).errors = []) :
    Localized fun path => .ok (findings path) :=
  clean fun path _ checked => Except.ok.inj checked ▸ none path

theorem nothing : Localized fun _ => .ok .none :=
  ok fun _ => rfl

theorem failing (failure : Failure) : Localized fun _ => .error failure :=
  clean fun _ _ checked => nomatch checked

theorem fault {reason : String} (tells : TellsNoRepeat reason) :
    Localized fun path => .ok (.fault path reason) := by
  refine ⟨[⟨"", reason⟩], by simpa using tells, fun path findings checked => ?_⟩
  cases checked
  simp [Findings.fault, Fault.report]

/-- The reason is a plain sentence. -/
theorem sentence (reason : String) (letter : Char) (isLast : reason.toList.getLast? = some letter)
    (bare : QuotedText.isMark letter = false) : Localized fun path => .ok (.fault path reason) :=
  fault (tellsNoRepeat_of_endsBare ⟨letter, isLast, bare⟩)

theorem congr (localized : Localized first) (same : ∀ path, second path = first path) :
    Localized second :=
  funext same ▸ localized

/-- A check that begins further inside reports places further inside. -/
theorem inside (localized : Localized check) (place : String) :
    Localized fun path => check (path ++ place) := by
  obtain ⟨faults, tell, reports⟩ := localized
  refine ⟨faults.map fun fault => { fault with place := place ++ fault.place }, ?_, ?_⟩
  · intro fault member
    obtain ⟨inner, isFault, rfl⟩ := List.mem_map.1 member
    exact tell inner isFault
  · intro path findings checked
    rw [reports _ findings checked, List.map_map]
    refine List.map_congr_left fun fault _ => ?_
    simp only [Fault.report, Function.comp_apply, String.append_assoc]

/-- A check that begins at an entry of a list. -/
theorem entry (localized : Localized check) (opening : String) (place : Nat) :
    Localized fun path => check (path ++ opening ++ toString place ++ "]") := by
  refine (localized.inside (opening ++ toString place ++ "]")).congr fun path => ?_
  simp only [String.append_assoc]

theorem both (localized : Localized first) (behind : Localized second) :
    Localized fun path => first path >>= fun found => second path >>= fun other =>
      pure (found ++ other) := by
  obtain ⟨faults, tell, reports⟩ := localized
  obtain ⟨others, tellOthers, reportsOthers⟩ := behind
  refine ⟨faults ++ others, List.forall_mem_append.2 ⟨tell, tellOthers⟩, ?_⟩
  intro path findings checked
  obtain ⟨found, isFound, goesOn⟩ := bind_eq_ok.1 checked
  obtain ⟨other, isOther, same⟩ := bind_eq_ok.1 goesOn
  cases same
  rw [Findings.errors_append, reports path found isFound, reportsOthers path other isOther,
    List.map_append]

/-- Entries that are checked each for itself. -/
theorem mapM {α : Type} {entries : List α} {check : α → String → Checked}
    (each : ∀ entry ∈ entries, Localized (check entry)) :
    Localized fun path => entries.mapM (check · path) >>= fun findings =>
      pure (Findings.concat findings) := by
  induction entries with
  | nil => exact ok fun _ => rfl
  | cons entry rest ih =>
      obtain ⟨faults, tell, reports⟩ := each entry List.mem_cons_self
      obtain ⟨others, tellOthers, reportsOthers⟩ :=
        ih fun other member => each other (List.mem_cons_of_mem entry member)
      refine ⟨faults ++ others, List.forall_mem_append.2 ⟨tell, tellOthers⟩, ?_⟩
      intro path findings checked
      obtain ⟨all, areChecked, same⟩ := bind_eq_ok.1 checked
      rw [List.mapM_cons] at areChecked
      obtain ⟨found, isFound, goesOn⟩ := bind_eq_ok.1 areChecked
      obtain ⟨later, areLater, together⟩ := bind_eq_ok.1 goesOn
      cases together
      cases same
      have behind := reportsOthers path (Findings.concat later) (by dsimp only; rw [areLater]; rfl)
      rw [Findings.errors_concat] at behind ⊢
      rw [List.flatMap_cons, reports path found isFound, behind, List.map_append]

end Localized

/-- What is looked up among names is reported if it is none of them. -/
theorem localized_lookUp (value : Value) (names : List String) {reason : String}
    (tells : TellsNoRepeat reason) :
    Localized fun path => isNamed value names >>= fun named =>
      if named then pure .none else pure (.fault path reason) := by
  cases isNamed value names with
  | error failure => exact .failing failure
  | ok named =>
      cases named with
      | true => exact .nothing
      | false => exact .fault tells

theorem localized_checkName (value : Value) (allowed : List String) (key : String) :
    Localized (checkName value allowed key) := by
  have names : EndsBare (Value.list (allowed.map .text)).quotedForm :=
    endsBare_quotedForm fun content => nofun
  exact localized_lookUp value allowed (tellsNoRepeat_of_endsBare (names.behind _))

theorem localized_checkOptionalName (params : Value) (allowed : List String) (key : String) :
    Localized (checkOptionalName params allowed key) := by
  unfold checkOptionalName
  cases params.get? key with
  | none => exact .nothing
  | some value => exact localized_checkName value allowed key

theorem localized_checkCondition (condition : Value) : Localized (checkCondition condition) := by
  cases condition with
  | object fields =>
      exact localized_lookUp _ _
        (tellsNoRepeat_quotedForm "unknown condition type" 'e' rfl (by decide) _)
  | _ => exact .sentence "condition must be an object" 't' rfl rfl

theorem localized_checkTargetGroup (group : Value) : Localized (checkTargetGroup group) := by
  have tells := tellsNoRepeat_quotedForm "unknown target group" 'p' rfl (by decide) group
  cases group with
  | null => exact .nothing
  | _ => exact localized_lookUp _ _ tells

theorem localized_checkNested {params : Value} {key : String}
    (known : (params.get key).isTruthy = true → Localized (checkDefinition (params.get key))) :
    Localized (checkNested params key) := by
  by_cases present : (params.get key).isTruthy = true
  · refine ((known present).inside ("." ++ key)).congr fun path => ?_
    rw [checkNested, if_pos present, ← String.append_assoc]
    rfl
  · exact Localized.nothing.congr fun path => by rw [checkNested, if_neg present]; rfl

theorem localized_checkGroupEffect {effect : Value}
    (known : effect.isObject = true → hasShortcut effect = false →
      (effect.get "type").isTruthy = true →
        Localized (checkDefinition (node (effect.get "type") (effect.get "params")))) :
    Localized (checkGroupEffect effect) := by
  cases whole : effect.orElse (.object []) with
  | object fields =>
      by_cases short : hasShortcut effect = true
      · refine Localized.nothing.congr fun path => ?_
        rw [checkGroupEffect, whole]
        exact if_pos short
      by_cases present : (effect.get "type").isTruthy = true
      · refine (known (isObject_of_get present) (by simpa using short) present).congr fun path => ?_
        rw [checkGroupEffect, whole, checkDefinition_node]
        exact (if_neg short).trans (if_pos present)
      · refine Localized.clean fun path findings checked => ?_
        rw [checkGroupEffect, whole] at checked
        cases ((if_neg short).trans (if_neg present)).symm.trans checked
        rfl
  | _ =>
      refine (Localized.sentence "must be an object" 't' rfl rfl).congr fun path => ?_
      rw [checkGroupEffect, whole]
      rfl

/-- Options or choices that are counted and checked each for itself. -/
theorem localized_entries {entries : List Value} (noun : String) (bare : EndsBare noun)
    {check : { entry // entry ∈ entries } × Nat → String → Checked}
    (each : ∀ entry, Localized (check entry)) :
    Localized fun path => entries.attach.zipIdx.mapM (check · path) >>= fun findings =>
      pure (checkCount entries noun path ++ Findings.concat findings) := by
  have count : Localized fun path => .ok (checkCount entries noun path) := by
    unfold checkCount
    split
    · exact .fault (tellsNoRepeat_of_endsBare (bare.behind _))
    · exact .ok fun _ => rfl
    · exact .ok fun _ => rfl
  have apart : Localized fun path => entries.attach.zipIdx.mapM (check · path) >>= fun findings =>
      pure (Findings.concat findings) := .mapM fun entry _ => each entry
  refine (count.both apart).congr fun path => ?_
  cases entries.attach.zipIdx.mapM (check · path) <;> rfl

theorem localized_missingKeys (kind : EffectKind) (params : Value) :
    Localized fun path => .ok (missingKeys kind params path) := by
  refine ⟨(kind.requiredKeys.filter fun key => !params.has key).map fun key =>
    ⟨"", "missing required param " ++ quoted key⟩, ?_, fun path findings checked => ?_⟩
  · intro fault member
    obtain ⟨key, -, rfl⟩ := List.mem_map.1 member
    exact tellsNoRepeat_quoted "missing required param" 'm' rfl (by decide) key
  · cases checked
    rw [missingKeys, Findings.errors_concat, List.flatMap_map, List.map_map, List.map_eq_flatMap]
    simp [Findings.fault, Fault.report]

/-- Where the entries cannot be read, nothing is reported. -/
theorem localized_read {value : Value}
    {check : ∀ found, entries value = .ok found → String → Checked}
    (each : ∀ found isFound, Localized (check found isFound)) :
    Localized fun path =>
      match isFound : entries value with
      | .error failure => .error failure
      | .ok found => check found isFound path := by
  have read : (∃ failure, entries value = .error failure) ∨ ∃ found, entries value = .ok found := by
    cases entries value <;> simp
  obtain ⟨failure, failed⟩ | ⟨found, isFound⟩ := read
  · refine (Localized.failing failure).congr fun path => ?_
    split
    · cases failed.symm.trans ‹_›
      rfl
    · cases failed.symm.trans ‹_›
  · refine (each found isFound).congr fun path => ?_
    split
    · cases isFound.symm.trans ‹_›
    · cases isFound.symm.trans ‹_›
      rfl

theorem localized_checkOptions {params : Value}
    (known : ∀ options, entries (params.get "options") = .ok options → ∀ option ∈ options,
      isLabelled option = true → isDefinition (option.get "effect") = true →
        Localized (checkDefinition (option.get "effect"))) :
    Localized (checkParams .chooseOption params) := by
  have each {options : List Value} (given : entries (params.get "options") = .ok options)
      (entry : { option // option ∈ options } × Nat) :
      Localized fun here => if isLabelled entry.1.1 then
        if isDefinition (entry.1.1.get "effect") then
          checkDefinition (entry.1.1.get "effect") (here ++ ".effect")
        else return .none
      else return .fault here "option needs a label" := by
    by_cases labelled : isLabelled entry.1.1 = true
    · by_cases looks : isDefinition (entry.1.1.get "effect") = true
      · simp only [if_pos labelled, if_pos looks]
        exact (known options given entry.1.1 entry.1.2 labelled looks).inside ".effect"
      · simp only [if_pos labelled, if_neg looks]
        exact .nothing
    · simp only [if_neg labelled]
      exact .sentence "option needs a label" 'l' rfl rfl
  have whole := localized_read fun options given =>
    localized_entries "options" ⟨'s', rfl, rfl⟩ fun entry =>
      (each given entry).entry ".options[" entry.2
  refine whole.congr fun path => ?_
  rw [checkParams]
  rfl

theorem localized_checkChoices {params : Value}
    (known : ∀ choices, entries (params.get "choices") = .ok choices → ∀ choice ∈ choices,
      isLabelled choice = true →
        Localized (checkDefinition (node (choice.get "type") (choice.get "params")))) :
    Localized (checkParams .choice params) := by
  have each {choices : List Value} (given : entries (params.get "choices") = .ok choices)
      (entry : { choice // choice ∈ choices } × Nat) :
      Localized fun here => if isLabelled entry.1.1 then
        checkNode (entry.1.1.get "type") (entry.1.1.get "params") here
      else return .fault here "choice needs a label" := by
    by_cases labelled : isLabelled entry.1.1 = true
    · simp only [if_pos labelled, ← checkDefinition_node]
      exact known choices given entry.1.1 entry.1.2 labelled
    · simp only [if_neg labelled]
      exact .sentence "choice needs a label" 'l' rfl rfl
  have whole := localized_read fun choices given =>
    localized_entries "choices" ⟨'s', rfl, rfl⟩ fun entry =>
      (each given entry).entry ".choices[" entry.2
  refine whole.congr fun path => ?_
  rw [checkParams]
  rfl

theorem localized_checkParams {kind : EffectKind} {params : Value}
    (known : ∀ nested, Examines kind params nested → Localized (checkDefinition nested)) :
    Localized (checkParams kind params) := by
  cases kind
  case composite =>
    by_cases present : (params.get "effects").isTruthy = true
    · refine ((known _ ⟨present, rfl⟩).inside ".effects").congr fun path => ?_
      rw [checkParams, if_pos present]
    · refine Localized.clean fun path findings checked => ?_
      rw [checkParams, if_neg present] at checked
      cases checked
      rfl
  case repeated | selectTarget | selectConsume =>
    refine (localized_checkNested fun present => known _ ⟨present, rfl⟩).congr fun path => ?_
    rw [checkParams]
  case conditional =>
    have whenTrue := localized_checkNested fun present =>
      known _ ⟨"effectIfTrue", by simp, present, rfl⟩
    have whenFalse := localized_checkNested fun present =>
      known _ ⟨"effectIfFalse", by simp, present, rfl⟩
    have condition := (localized_checkCondition (params.get "condition")).inside ".condition"
    refine ((condition.both whenTrue).both whenFalse).congr fun path => ?_
    rw [checkParams]
    simp only [bind_assoc, pure_bind]
  case selectFromGroup =>
    have group := localized_checkTargetGroup (params.get "targetGroup")
    have effect := (localized_checkGroupEffect fun isObject bare present =>
      known _ ⟨isObject, bare, present, rfl⟩).inside ".effect"
    refine (group.both effect).congr fun path => ?_
    rw [checkParams]
  case chooseOption =>
    exact localized_checkOptions fun options given option member labelled looks =>
      known _ ⟨options, given, option, member, labelled, looks, rfl⟩
  case choice =>
    exact localized_checkChoices fun choices given choice member labelled =>
      known _ ⟨choices, given, choice, member, labelled, rfl⟩
  case destroy =>
    exact (localized_checkName _ _ _).congr fun path => by rw [checkParams]
  case addKeyword | buff =>
    exact (localized_checkOptionalName _ _ _).congr fun path => by rw [checkParams]
  all_goals
    refine Localized.nothing.congr fun path => ?_
    rw [checkParams]
    · rfl
    all_goals simp

theorem localized_object {fields : Fields}
    (known : ∀ kind nested, Examines kind ((Value.object fields).get "params") nested →
      Localized (checkDefinition nested)) : Localized (checkDefinition (.object fields)) := by
  have opened (path : String) : checkDefinition (.object fields) path =
      checkNode ((Value.object fields).get "type") ((Value.object fields).get "params") path := by
    rw [checkDefinition]
  generalize (Value.object fields).get "type" = type at opened
  generalize (Value.object fields).get "params" = params at opened known
  by_cases present : type.isTruthy = true
  case neg =>
    refine (Localized.sentence "missing type" 'e' rfl rfl).congr fun path => ?_
    rw [opened, checkNode]
    exact if_pos (by simpa using present)
  have named : ¬ (!type.isTruthy) = true := by simp [present]
  cases isKind : EffectKind.ofValue? type with
  | none =>
      refine (Localized.fault (tellsNoRepeat_quotedForm "unknown effect type" 'e' rfl (by decide)
        type)).congr fun path => ?_
      rw [opened, checkNode, if_neg named, isKind]
      rfl
  | some kind =>
      by_cases partless : (params.isTruthy && !params.isObject) = true
      · refine (Localized.sentence "params must be an object" 't' rfl rfl).congr fun path => ?_
        rw [opened, checkNode, if_neg named, isKind]
        exact if_pos partless
      · have inner := (localized_missingKeys kind params).both (localized_checkParams (known kind))
        refine (inner.inside ("<" ++ kind.name ++ ">")).congr fun path => ?_
        rw [opened, checkNode, if_neg named, isKind, ← String.append_assoc, ← String.append_assoc]
        exact if_neg partless

/-- A definition has the same faults wherever it is checked. -/
theorem localized_checkDefinition (definition : Value) :
    Localized (checkDefinition definition) := by
  -- The check goes on to definitions that are less deep, not to parts of this one only.
  induction depth : definition.depth using Nat.strong_induction_on generalizing definition with
  | _ depth ih =>
    subst depth
    cases definition with
    | list items =>
        have each (entry : { item // item ∈ items } × Nat) :
            Localized fun path => checkDefinition entry.1.1 s!"{path}[{entry.2}]" :=
          (ih _ (Value.depth_lt_of_mem entry.1.2) entry.1.1 rfl).entry "[" entry.2
        have whole : Localized fun path =>
            (items.attach.zipIdx.mapM fun entry =>
              checkDefinition entry.1.1 s!"{path}[{entry.2}]") >>= fun findings =>
                pure (Findings.concat findings) := .mapM fun entry _ => each entry
        exact whole.congr fun path => by rw [checkDefinition]
    | object fields =>
        refine localized_object fun kind nested examines => ?_
        exact ih _ (Nat.lt_of_le_of_lt (depth_le_of_examines examines)
          (Value.depth_get_object_lt fields "params")) nested rfl
    | _ =>
        refine (Localized.sentence "definition must be an object or a list" 't' rfl rfl).congr
          fun path => ?_
        rw [checkDefinition]
        · rfl
        all_goals rintro _ ⟨⟩

end Validation

end CreatureCards
