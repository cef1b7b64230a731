import CreatureCards.Proofs.Harmless
import CreatureCards.Reading

/-!
# Faults of binding

Binding parameters fails in ways that resolving reckons with, but for two
oversights: effect types that look for the parts of something without parts, and
a repetition without end.  Which of them a definition meets can be read off its
parameters.

Whether an effect type exists is settled before its parameters are bound.  So
binding never finds that a type is unknown, however the parameters look; and what
it reports about parameters is never mistaken for the report of a value that is
no definition.
-/

namespace CreatureCards

/-- Resolving reckons with the failure when it binds parameters. -/
def Failure.IsForeseen : Failure → Prop
  | .invalidDefinition _ | .wrongKind | .badValue | .missingField | .invalidShape => True
  | _ => False

/-- The computation succeeds, or fails in a way that resolving reckons with. -/
abbrev FailsForeseen {α : Type} (made : Except Failure α) : Prop :=
  FailsOnly Failure.IsForeseen made

namespace Shape

variable {α : Type} {read : Reader α}

theorem foreseen_fields (value : Value) : FailsForeseen (fields value) := by
  cases value with
  | object entries => exact .ok entries
  | _ => exact .error trivial

theorem foreseen_text (value : Value) : FailsForeseen (text value) := by
  cases value with
  | text content => exact .ok content
  | _ => exact .error trivial

theorem foreseen_whole (value : Value) : FailsForeseen (whole value) := by
  unfold whole
  split
  · exact .ok _
  · exact .ok _
  · split
    · exact .ite (.ok _) (.error trivial)
    · exact .error trivial
  · rename_i content
    cases Numeral.parameter? content with
    | none => exact .error trivial
    | some number => exact .ok number
  · exact .error trivial

theorem foreseen_flag (value : Value) : FailsForeseen (flag value) := by
  unfold flag
  split
  · exact .ok _
  · exact .ok _
  · exact .ok _
  · exact .ite (.ok _) <| .ite (.ok _) (.error trivial)
  · exact .ite (.ok _) <| .ite (.ok _) (.error trivial)
  · exact .error trivial

theorem foreseen_orNull (each : ∀ value, FailsForeseen (read value)) (value : Value) :
    FailsForeseen (orNull read value) := by
  unfold orNull
  split
  · exact .ok none
  · exact (each value).map some

theorem foreseen_list (each : ∀ value, FailsForeseen (read value)) (value : Value) :
    FailsForeseen (list read value) := by
  cases value with
  | list items => exact .mapM fun item _ => each item
  | _ => exact .error trivial

theorem foreseen_required (fields : Fields) (keys : List String)
    (each : ∀ value, FailsForeseen (read value)) : FailsForeseen (required fields keys read) := by
  unfold required
  split
  · exact each _
  · exact .error trivial

theorem foreseen_optional (fields : Fields) (keys : List String) (fallback : α)
    (each : ∀ value, FailsForeseen (read value)) :
    FailsForeseen (optional fields keys fallback read) := by
  unfold optional
  split
  · exact each _
  · exact .ok fallback

end Shape

open Shape

theorem Stats.foreseen_read (value : Value) : FailsForeseen (Stats.read value) :=
  (foreseen_fields value).bind fun _ _ =>
    (foreseen_optional _ _ _ foreseen_whole).bind fun _ _ =>
    (foreseen_optional _ _ _ foreseen_whole).bind fun _ _ => .ok _

theorem DestroyShape.foreseen_read (value : Value) : FailsForeseen (DestroyShape.read value) :=
  (foreseen_fields value).bind fun _ _ =>
    (foreseen_optional _ _ _ foreseen_text).bind fun _ _ => .ok _

theorem AddKeywordShape.foreseen_read (value : Value) :
    FailsForeseen (AddKeywordShape.read value) :=
  (foreseen_fields value).bind fun _ _ =>
    (foreseen_required _ _ foreseen_text).bind fun _ _ =>
    (foreseen_optional _ _ _ (foreseen_orNull foreseen_text)).bind fun _ _ => .ok _

theorem BuffShape.foreseen_read (value : Value) : FailsForeseen (BuffShape.read value) :=
  (foreseen_fields value).bind fun _ _ =>
    (Stats.foreseen_read value).bind fun _ _ =>
    (foreseen_optional _ _ _ (foreseen_orNull foreseen_text)).bind fun _ _ => .ok _

theorem Shortcuts.foreseen_read (fields : Fields) : FailsForeseen (Shortcuts.read fields) :=
  have flag (keys : List String) : FailsForeseen (optional fields keys false Shape.flag) :=
    foreseen_optional _ _ _ foreseen_flag
  have amount (keys : List String) : FailsForeseen (optional fields keys none (orNull whole)) :=
    foreseen_optional _ _ _ (foreseen_orNull foreseen_whole)
  have name (keys : List String) : FailsForeseen (optional fields keys none (orNull Shape.text)) :=
    foreseen_optional _ _ _ (foreseen_orNull foreseen_text)
  (amount _).bind fun _ _ => (amount _).bind fun _ _ => (flag _).bind fun _ _ =>
    (foreseen_optional _ _ _ (foreseen_orNull Stats.foreseen_read)).bind fun _ _ =>
    (name _).bind fun _ _ => (flag _).bind fun _ _ => (flag _).bind fun _ _ =>
    (flag _).bind fun _ _ => (flag _).bind fun _ _ => (flag _).bind fun _ _ =>
    (flag _).bind fun _ _ => (flag _).bind fun _ _ => (flag _).bind fun _ _ =>
    (flag _).bind fun _ _ => (flag _).bind fun _ _ => (flag _).bind fun _ _ =>
    (amount _).bind fun _ _ => (name _).bind fun _ _ => .ok _

theorem GroupEffect.foreseen_read (value : Value) : FailsForeseen (GroupEffect.read value) :=
  (foreseen_fields value).bind fun fields _ =>
    (Shortcuts.foreseen_read fields).bind fun _ _ =>
    (foreseen_optional _ _ _ (foreseen_orNull foreseen_text)).bind fun _ _ =>
    (foreseen_optional _ _ _ foreseen_fields).bind fun _ _ => .ok _

theorem GroupShape.foreseen_read (value : Value) : FailsForeseen (GroupShape.read value) :=
  (foreseen_fields value).bind fun _ _ =>
    (foreseen_required _ _ foreseen_text).bind fun _ _ =>
    (foreseen_optional _ _ _ (foreseen_orNull foreseen_text)).bind fun _ _ =>
    (foreseen_optional _ _ _ GroupEffect.foreseen_read).bind fun _ _ =>
    (foreseen_optional _ _ _ foreseen_flag).bind fun _ _ => .ok _

theorem OptionShape.foreseen_read (value : Value) : FailsForeseen (OptionShape.read value) :=
  (foreseen_fields value).bind fun _ _ =>
    (foreseen_required _ _ foreseen_text).bind fun _ _ =>
    (foreseen_optional _ _ _ foreseen_text).bind fun _ _ =>
    (foreseen_optional _ _ _ fun value => .ok value).bind fun _ _ => .ok _

theorem MenuShape.foreseen_read (value : Value) : FailsForeseen (MenuShape.read value) :=
  (foreseen_fields value).bind fun _ _ =>
    (foreseen_optional _ _ _ (foreseen_orNull foreseen_text)).bind fun _ _ =>
    (foreseen_optional _ _ _ (foreseen_list OptionShape.foreseen_read)).bind fun _ _ => .ok _

theorem ChoiceShape.foreseen_read (value : Value) : FailsForeseen (ChoiceShape.read value) :=
  (foreseen_fields value).bind fun _ _ =>
    (foreseen_required _ _ foreseen_text).bind fun _ _ =>
    (foreseen_optional _ _ _ foreseen_text).bind fun _ _ =>
    (foreseen_required _ _ foreseen_text).bind fun _ _ =>
    (foreseen_optional _ _ _ foreseen_fields).bind fun _ _ => .ok _

theorem ChoiceShape.foreseen_readAll (value : Value) : FailsForeseen (ChoiceShape.readAll value) :=
  (foreseen_fields value).bind fun _ _ =>
    foreseen_optional _ _ _ (foreseen_list ChoiceShape.foreseen_read)

theorem ConditionShape.foreseen_read (value : Value) : FailsForeseen (ConditionShape.read value) :=
  have kind (type : Value) : FailsForeseen
      ((ConditionKind.ofValue? type).elim (.error .invalidShape) .ok) := by
    cases ConditionKind.ofValue? type with
    | none => exact .error trivial
    | some kind => exact .ok kind
  (foreseen_fields value).bind fun _ _ =>
    (foreseen_required _ _ kind).bind fun _ _ =>
    (foreseen_optional _ _ _ foreseen_fields).bind fun _ _ => .ok _

theorem Condition.foreseen_build (supported : List ConditionKind) (node : Value) :
    FailsForeseen (Condition.build supported node) :=
  (ConditionShape.foreseen_read node).bind fun _ _ => .ite (.error trivial) <|
    .ite (.ok _) (.error trivial)

namespace Value

/-- A number beyond all others. -/
def isEndless : Value → Bool
  | float number => (Binary.ofBits? number.toBits).isNone && !number.isNaN
  | _ => false

theorem toCount_of_isEndless {value : Value} (endless : value.isEndless = true) :
    value.toCount = .error .tooLarge := by
  cases value with
  | float number =>
      rw [isEndless, Bool.and_eq_true, Option.isNone_iff_eq_none, Bool.not_eq_true'] at endless
      obtain ⟨unread, isNumber⟩ := endless
      rw [toCount, unread]
      exact congrArg Except.error (if_neg (ne_true_of_eq_false isNumber))
  | _ => cases endless

theorem foreseen_toCount {value : Value} (ends : value.isEndless = false) :
    FailsForeseen value.toCount := by
  cases value with
  | int number => exact .ok number
  | bool flag => exact .ok _
  | float number =>
      rw [toCount]
      cases read : Binary.ofBits? number.toBits with
      | some fraction => exact .ok _
      | none =>
          have undefined : number.isNaN = true := by simpa [isEndless, read] using ends
          simp only [undefined, if_true]
          exact .error trivial
  | text content =>
      rw [toCount]
      cases Numeral.count? content with
      | none => exact .error trivial
      | some count => exact .ok count
  | null | list _ | object _ => exact .error trivial

end Value

namespace Formal

theorem foreseen_argument (formal : Formal) (given : Option Value) :
    FailsForeseen (formal.argument given) := by
  unfold argument
  cases given <|> formal.fallback? with
  | none => exact .error trivial
  | some argument => exact .ok argument

theorem foreseen_fromItems (formals : List Formal) (items : List Value) :
    FailsForeseen (fromItems formals items) := by
  fun_induction fromItems formals items with
  | case1 => exact .ok []
  | case2 => exact .error trivial
  | case3 formal rest items ih =>
    exact (foreseen_argument formal _).bind fun _ _ => ih.bind fun _ _ => .ok _

theorem foreseen_fromKeywords (formals : List Formal) (keywords : Fields) :
    FailsForeseen (fromKeywords formals keywords) :=
  .ite (.error trivial) (.mapM fun formal _ => foreseen_argument formal _)

end Formal

theorem EffectKind.foreseen_arguments (kind : EffectKind) (params : Value) :
    FailsForeseen (kind.arguments params) := by
  unfold arguments
  split
  · exact Formal.foreseen_fromItems _ _
  · exact Formal.foreseen_fromKeywords _ _
  · exact .ite (.error trivial) (Formal.foreseen_fromKeywords _ _)
  · exact .ite (.error trivial) (Formal.foreseen_fromKeywords _ _)

namespace Invocation

/-- What becomes of looking for parts in this value. -/
def partless? (value : Value) : Option Failure :=
  if (given value).isObject then none else some .missingPart

/-- What becomes of looking for the parts of changes that are given as an argument. -/
def partlessStats? (params : Value) : Option Failure :=
  match EffectKind.buffStats.arguments params with
  | .ok [_, stats] => partless? stats
  | _ => none

/-- What becomes of counting how often an effect is repeated. -/
def endless? (params : Value) : Option Failure :=
  match given params with
  | .object fields =>
    if (fields.lookup "effect").isSome && (fields.lookup "count").any Value.isEndless then
      some .tooLarge
    else none
  | _ => none

/-- What binding these parameters does not reckon with: parts are looked for in
something that is no object, or a repetition has no end. -/
def oversight? (kind : EffectKind) (params : Value) : Option Failure :=
  match kind with
  | .composite | .selectTarget | .selectConsume | .selectCreatureForBuff => partless? params
  | .buffStats => partlessStats? params
  | .repeated => endless? params
  | _ => none

theorem isObject_of_partless? {value : Value} (whole : partless? value = none) :
    (given value).isObject = true := by
  unfold partless? at whole
  split at whole
  · assumption
  · cases whole

theorem partless?_eq_some {value : Value} {failure : Failure}
    (partless : partless? value = some failure) :
    (given value).isObject = false ∧ failure = .missingPart := by
  unfold partless? at partless
  split at partless
  · cases partless
  · rename_i other
    exact ⟨Bool.eq_false_iff.2 other, (Option.some.inj partless).symm⟩

theorem part_of_object {params : Value} {fields : Fields} (same : given params = .object fields)
    (key : String) : part params key = .ok (fields.lookup key) := by
  rw [part, same]

theorem foreseen_part {params : Value} (isObject : (given params).isObject = true) (key : String) :
    FailsForeseen (part params key) := by
  unfold part
  cases same : given params with
  | object fields => exact .ok _
  | _ =>
      rw [same] at isObject
      cases isObject

/-- Looking for a part first breaks off where there are no parts. -/
theorem part_bind_of_partless {α : Type} {params : Value} {failure : Failure}
    (partless : partless? params = some failure) (key : String)
    (next : Option Value → Except Failure α) : (part params key >>= next) = .error failure := by
  obtain ⟨notObject, rfl⟩ := partless?_eq_some partless
  unfold part
  cases same : given params with
  | object fields =>
      rw [same] at notObject
      cases notObject
  | _ => rfl

theorem foreseen_mentions (params : Value) (key : String) :
    FailsForeseen (mentions params key) := by
  unfold mentions
  split
  · exact .ok _
  · exact .ok _
  · exact .ok _
  · exact .error trivial

theorem foreseen_named (params : Value) (key : String) : FailsForeseen (named params key) := by
  unfold named
  split
  · exact .ok _
  · exact .error trivial

/-- Parameters with a part that is named are an object. -/
theorem exists_object_of_named {params found : Value} {key : String}
    (read : named params key = .ok found) : ∃ fields, given params = .object fields := by
  unfold named at read
  split at read
  · rename_i fields same
    exact ⟨fields, same⟩
  · cases read

theorem foreseen_bindComposite {params : Value} (isObject : (given params).isObject = true) :
    FailsForeseen (bindComposite params) := by
  refine (foreseen_part isObject "effects").bind fun found _ => ?_
  dsimp only
  split
  · exact .ok _
  · exact .error trivial

theorem foreseen_bindRepeated {params : Value} (ends : endless? params = none) :
    FailsForeseen (bindRepeated params) := by
  refine (foreseen_mentions params "effect").bind fun mentioned mentions => ?_
  cases mentioned with
  | false => exact .error trivial
  | true =>
      refine (foreseen_named params "effect").bind fun effect named => ?_
      obtain ⟨fields, same⟩ := exists_object_of_named named
      simp only [Invocation.mentions, same] at mentions
      simp only [endless?, same, Except.ok.inj mentions, Bool.true_and] at ends
      rw [part_of_object same]
      refine (Value.foreseen_toCount ?_).bind fun _ _ => .ok _
      cases count : fields.lookup "count" with
      | none => rfl
      | some number =>
          cases endless : number.isEndless with
          | false => exact endless
          | true => simp [count, endless] at ends

theorem foreseen_bindConditional (params : Value) : FailsForeseen (bindConditional params) := by
  refine (foreseen_mentions params "condition").bind fun _ _ => .ite (.error trivial) ?_
  refine (foreseen_mentions params "effectIfTrue").bind fun _ _ => .ite (.error trivial) ?_
  refine (foreseen_named params "condition").bind fun _ named => ?_
  obtain ⟨fields, same⟩ := exists_object_of_named named
  refine (Condition.foreseen_build _ _).bind fun _ _ => ?_
  refine (foreseen_named params "effectIfTrue").bind fun _ _ => ?_
  rw [part_of_object same]
  exact .ok _

theorem foreseen_bindArguments {kind : EffectKind} {params : Value}
    (seen : oversight? kind params = none) {arguments : List Value}
    (read : kind.arguments params = .ok arguments) :
    FailsForeseen (bindArguments kind arguments) := by
  unfold bindArguments
  split
  · rename_i targetType stats
    unfold bindBuffStats
    split
    · exact .ok _
    · rename_i other
      have seen : partlessStats? params = none := seen
      rw [partlessStats?, read] at seen
      have isObject := isObject_of_partless? seen
      cases same : given stats with
      | object fields => exact absurd same (other fields)
      | _ =>
          rw [same] at isObject
          cases isObject
  · exact (Stats.foreseen_read _).bind fun _ _ => .ok _
  · exact .ok _

/-- Where nothing was overlooked, binding fails only in ways that resolving
reckons with. -/
theorem foreseen_bind {kind : EffectKind} {params : Value} (seen : oversight? kind params = none) :
    FailsForeseen (bind kind params) := by
  unfold bind
  split
  · exact (DestroyShape.foreseen_read _).bind fun _ _ => .ok _
  · exact (AddKeywordShape.foreseen_read _).bind fun _ _ => .ok _
  · exact (BuffShape.foreseen_read _).bind fun _ _ => .ok _
  · exact foreseen_bindComposite (isObject_of_partless? seen)
  · exact foreseen_bindRepeated seen
  · exact foreseen_bindConditional params
  · have found := foreseen_part (isObject_of_partless? seen)
    exact (found _).bind fun _ _ => (found _).bind fun _ _ => .ok _
  · have found := foreseen_part (isObject_of_partless? seen)
    exact (found _).bind fun _ _ => (found _).bind fun _ _ => (found _).bind fun _ _ => .ok _
  · exact (foreseen_part (isObject_of_partless? seen) _).bind fun _ _ =>
      (Stats.foreseen_read _).bind fun _ _ => .ok _
  · exact (GroupShape.foreseen_read _).bind fun _ _ => .ok _
  · exact (MenuShape.foreseen_read _).bind fun _ _ => .ok _
  · exact (ChoiceShape.foreseen_readAll _).bind fun _ _ => .ok _
  · exact (EffectKind.foreseen_arguments _ params).bind fun _ read =>
      foreseen_bindArguments seen read

theorem bindRepeated_of_endless {params : Value} {failure : Failure}
    (endless : endless? params = some failure) : bindRepeated params = .error failure := by
  unfold endless? at endless
  split at endless
  · rename_i fields same
    split at endless
    · rename_i both
      cases endless
      obtain ⟨hasEffect, endless⟩ := Bool.and_eq_true_iff.1 both
      obtain ⟨count, found, endless⟩ := (Option.any_eq_true _ _).1 endless
      have mentioned : mentions params "effect" = .ok true := by
        simp only [mentions, same, hasEffect]
      have named : named params "effect" = .ok ((fields.lookup "effect").getD .null) := by
        rw [Invocation.named, same]
      rw [bindRepeated, mentioned, named, part_of_object same, found]
      change (count.toCount >>= fun _ => _) = _
      rw [Value.toCount_of_isEndless endless]
      rfl
    · cases endless
  · cases endless

theorem bind_buffStats_of_partless {params : Value} {failure : Failure}
    (partless : partlessStats? params = some failure) :
    bind .buffStats params = .error failure := by
  unfold partlessStats? at partless
  split at partless
  · rename_i targetType stats read
    obtain ⟨notObject, rfl⟩ := partless?_eq_some partless
    change (EffectKind.buffStats.arguments params >>= _) = _
    rw [read]
    change bindBuffStats targetType stats = _
    unfold bindBuffStats
    cases same : given stats with
    | object fields =>
        rw [same] at notObject
        cases notObject
    | _ => rfl
  · cases partless

/-- What was overlooked breaks binding off. -/
theorem bind_of_oversight {kind : EffectKind} {params : Value} {failure : Failure}
    (missed : oversight? kind params = some failure) : bind kind params = .error failure := by
  cases kind with
  | composite | selectTarget | selectConsume | selectCreatureForBuff =>
      exact part_bind_of_partless missed _ _
  | repeated => exact bindRepeated_of_endless missed
  | buffStats => exact bind_buffStats_of_partless missed
  | _ => cases missed

theorem eq_of_oversight {kind : EffectKind} {params : Value} {failure : Failure}
    (missed : oversight? kind params = some failure) :
    failure = .missingPart ∨ failure = .tooLarge := by
  have partless {value : Value} (missed : partless? value = some failure) :
      failure = .missingPart ∨ failure = .tooLarge := .inl (partless?_eq_some missed).2
  cases kind with
  | composite | selectTarget | selectConsume | selectCreatureForBuff => exact partless missed
  | repeated =>
      have missed : endless? params = some failure := missed
      unfold endless? at missed
      split at missed
      · split at missed
        · exact .inr (Option.some.inj missed).symm
        · cases missed
      · cases missed
  | buffStats =>
      have missed : partlessStats? params = some failure := missed
      unfold partlessStats? at missed
      split at missed
      · exact partless missed
      · cases missed
  | _ => cases missed

/-- Binding fails in a way that resolving reckons with, or by an oversight. -/
theorem isForeseen_or_oversight {kind : EffectKind} {params : Value} {failure : Failure}
    (failed : bind kind params = .error failure) :
    failure.IsForeseen ∨ oversight? kind params = some failure := by
  cases missed : oversight? kind params with
  | none => exact .inl (foreseen_bind missed failure failed)
  | some oversight =>
      rw [bind_of_oversight missed] at failed
      cases failed
      exact .inr rfl

end Invocation

namespace Malformation

/-- The letter behind the first word of a report and the blank. -/
def letterBehind (report : String) : Option Char :=
  report.toList[10]?

theorem letterBehind_notDefinition (kind : String) :
    letterBehind (notDefinition kind).text = some 'e' := by
  dsimp only [letterBehind, text, toString]
  rw [String.toList_append, List.getElem?_append_left (by decide)]
  decide

theorem letterBehind_quoted (type ending : String) :
    letterBehind ("Malformed " ++ quoted type ++ ending) =
      some (QuotedText.quoteFor type.toList) := by
  rw [letterBehind, quoted, QuotedText.encode, String.append_assoc, String.toList_append,
    String.toList_append, String.toList_ofList, List.getElem?_append_right (by decide)]
  simp

theorem quoteFor_ne (letters : List Char) : QuotedText.quoteFor letters ≠ 'e' := by
  unfold QuotedText.quoteFor
  split <;> decide

/-- A report that quotes an effect type does not read like the report of a value
that is no definition. -/
theorem quoted_ne_text (type ending kind : String) :
    "Malformed " ++ quoted type ++ ending ≠ (notDefinition kind).text := by
  intro same
  have letters := letterBehind_quoted type ending
  rw [same, letterBehind_notDefinition] at letters
  exact quoteFor_ne _ (Option.some.inj letters).symm

/-- The value is neither an object nor a list. -/
def DeniesDefinition : Malformation → Prop
  | notDefinition _ => True
  | breaksRule _ _ | unfit _ => False

theorem not_blames_report {cause : Malformation} (isOther : ¬ cause.DeniesDefinition) :
    ¬ (Warning.malformed cause).BlamesDefinition := by
  cases cause with
  | notDefinition kind => exact absurd trivial isOther
  | breaksRule type rule => exact id
  | unfit type => exact id

theorem not_blames_refusal {cause : Malformation} (isOther : ¬ cause.DeniesDefinition) :
    ¬ (Failure.invalidDefinition [cause.text]).BlamesDefinition := by
  rintro ⟨kind, same⟩
  have text := List.singleton_inj.1 same
  cases cause with
  | notDefinition _ => exact isOther trivial
  | breaksRule type rule =>
      refine quoted_ne_text type (" effect: " ++ rule) kind (Eq.trans ?_ text)
      dsimp only [Malformation.text]
      rw [String.append_assoc, String.append_assoc, String.append_assoc]
  | unfit type =>
      refine quoted_ne_text type " effect" kind (Eq.trans ?_ text)
      dsimp only [Malformation.text]

end Malformation

/-- The report of parameters that do not fit the effect type. -/
def EffectKind.malformation (kind : EffectKind) : Failure → Malformation
  | .invalidDefinition errors => .breaksRule kind.name ("; ".intercalate errors)
  | _ => .unfit kind.name

namespace Reading

theorem ofBinding_of_isForeseen (kind : EffectKind) {failure : Failure}
    (foreseen : failure.IsForeseen) :
    ofBinding kind (.error failure) = .malformed (kind.malformation failure) := by
  cases failure <;> first | rfl | exact foreseen.elim

theorem ofBinding_of_oversight (kind : EffectKind) {failure : Failure}
    (missed : failure = .missingPart ∨ failure = .tooLarge) :
    ofBinding kind (.error failure) = .unreadable failure := by
  obtain rfl | rfl := missed <;> rfl

/-- Parameters are unreadable for want of parts, or because a count has no end. -/
theorem eq_of_unreadable {definition : Value} {failure : Failure}
    (read : ofValue definition = .unreadable failure) :
    failure = .missingPart ∨ failure = .tooLarge := by
  unfold ofValue at read
  split at read
  · cases read
  split at read
  · cases read
  · rename_i fields _
    dsimp only at read
    split at read
    · rename_i kind _
      rcases bound : Invocation.bind kind ((Value.object fields).get "params") with fault | asked
      · rw [bound] at read
        obtain foreseen | missed := Invocation.isForeseen_or_oversight bound
        · rw [ofBinding_of_isForeseen kind foreseen] at read
          cases read
        · have overlooked := Invocation.eq_of_oversight missed
          rw [ofBinding_of_oversight kind overlooked] at read
          cases read
          exact overlooked
      · rw [bound] at read
        cases read
    · cases read
  · cases read

/-- Failing to read a definition does not refuse it. -/
theorem not_refuses_of_unreadable {definition : Value} {failure : Failure}
    (read : ofValue definition = .unreadable failure) : ¬ failure.RefusesDefinition := by
  obtain rfl | rfl := eq_of_unreadable read <;> exact id

end Reading

end CreatureCards
