import CreatureCards.Proofs.NamedArguments
import CreatureCards.Proofs.StuckCheck

/-!
# Required arguments

Which arguments an effect type cannot do without is written down twice: the check for card
authors has a table of required keys, and the effect itself has parameters without a
default.  The two tables say the same, so the check reports a missing parameter exactly if
binding breaks off for want of an argument.
-/

namespace CreatureCards

open Validation

variable {kind : EffectKind} {fields : Fields}

namespace EffectKind

/-- A parameter without a default is left out. -/
def Lacks (kind : EffectKind) (fields : Fields) : Prop :=
  ∃ formal ∈ kind.formals, formal.fallback? = none ∧
    (Parameter.keywords kind.parameters fields).lookup formal.name = none

/-- The required keys are those in whose places the parameters have no default. -/
theorem requiredKeys_eq (takes : kind.takesArguments = true) :
    kind.requiredKeys =
      ((kind.argumentKeys.zip kind.formals).filter fun entry => entry.2.fallback?.isNone).map
        Prod.fst := by
  cases kind <;> first | rfl | cases takes

/-- Each parameter stands beside the key that it is given under. -/
theorem exists_key (kind : EffectKind) {formal : Formal} (member : formal ∈ kind.formals) :
    ∃ key, (key, formal) ∈ kind.argumentKeys.zip kind.formals := by
  rw [← List.map_snd_zip (Nat.le_of_eq kind.length_formals)] at member
  obtain ⟨⟨key, formal⟩, paired, rfl⟩ := List.mem_map.1 member
  exact ⟨key, paired⟩

theorem lookup_paired {key : String} {formal : Formal}
    (paired : (key, formal) ∈ kind.argumentKeys.zip kind.formals) :
    (Parameter.keywords kind.parameters fields).lookup formal.name = fields.lookup key := by
  obtain ⟨place, inside, same⟩ := List.mem_iff_getElem.1 paired
  rw [List.length_zip, Nat.lt_min] at inside
  rw [List.getElem_zip, Prod.mk.injEq] at same
  rw [← same.1, ← same.2]
  exact lookup_formal fields inside.2 inside.1

/-- An argument is missing exactly if a required key is. -/
theorem lacks_iff (takes : kind.takesArguments = true) :
    kind.Lacks fields ↔ ∃ key ∈ kind.requiredKeys, fields.lookup key = none := by
  rw [requiredKeys_eq takes]
  constructor
  · rintro ⟨formal, member, noDefault, leftOut⟩
    obtain ⟨key, paired⟩ := kind.exists_key member
    refine ⟨key, ?_, lookup_paired paired ▸ leftOut⟩
    exact List.mem_map.2 ⟨(key, formal), List.mem_filter.2 ⟨paired, by simp [noDefault]⟩, rfl⟩
  · rintro ⟨key, required, absent⟩
    obtain ⟨⟨key, formal⟩, kept, rfl⟩ := List.mem_map.1 required
    obtain ⟨paired, noDefault⟩ := List.mem_filter.1 kept
    refine ⟨formal, (List.of_mem_zip paired).2, by simpa using noDefault, ?_⟩
    rw [lookup_paired paired, absent]

end EffectKind

theorem Formal.failsIff_argument (formal : Formal) (given : Option Value) :
    FailsIff (formal.fallback? = none ∧ given = none) (formal.argument given) := by
  unfold argument
  cases given with
  | some argument => exact (FailsIff.ok argument).congr (by simp)
  | none =>
    cases formal.fallback? with
    | some fallback => exact (FailsIff.ok fallback).congr (by simp)
    | none => exact FailsIff.wrongKind.congr (by simp)

/-- Named arguments are put together unless one is missing. -/
theorem EffectKind.failsIff_arguments (kind : EffectKind) (fields : Fields) :
    FailsIff (kind.Lacks fields) (kind.arguments (.object fields)) := by
  rw [arguments, Formal.fromKeywords_eq kind.names_formals kind.nodup_names]
  exact .mapM _ fun formal _ => formal.failsIff_argument _

namespace Validation

/-- The report that an effect lacks a required parameter. -/
def missingReport (kind : EffectKind) (path key : String) : String :=
  s!"{path}<{kind.name}>" ++ ": " ++ ("missing required param " ++ quoted key)

theorem errors_missingKeys (kind : EffectKind) (params : Value) (path : String) :
    (missingKeys kind params s!"{path}<{kind.name}>").errors =
      (kind.requiredKeys.filter fun key => !params.has key).map (missingReport kind path) := by
  rw [missingKeys, Findings.errors_concat, List.flatMap_map, List.map_eq_flatMap]
  rfl

theorem checkParams_of_takesArguments (takes : kind.takesArguments = true) (params : Value)
    (path : String) :
    checkParams kind params path = .ok .none := by
  unfold checkParams
  split <;> first | rfl | cases takes

/-- Of an effect that takes arguments only the required keys are checked. -/
theorem exists_checkDefinition_eq (takes : kind.takesArguments = true) {definition : Value}
    (asks : definition.Asks kind (.object fields)) (path : String) :
    ∃ findings, checkDefinition definition path = .ok findings ∧ findings.errors =
      (kind.requiredKeys.filter fun key => !(Value.object fields).has key).map
        (missingReport kind path) := by
  obtain ⟨isObject, typed, given⟩ := asks
  have present : (definition.get "type").isTruthy = true := by
    by_contra absent
    rw [ofValue?_of_absent absent] at typed
    cases typed
  refine ⟨missingKeys kind (.object fields) s!"{path}<{kind.name}>" ++ .none, ?checked, ?errors⟩
  case checked =>
    cases definition with
    | object node =>
      rw [checkDefinition, checkNode, given, typed, present]
      simp only [checkParams_of_takesArguments takes, Value.isObject, Bool.not_true, Bool.and_false,
        Bool.false_eq_true, if_false]
      rfl
    | _ => cases isObject
  case errors =>
    rw [Findings.errors_append, errors_missingKeys]
    exact List.append_nil _

end Validation

/-- The check for card authors and binding agree on what an effect type requires.  For an
effect that takes arguments and is given an object, whatever it holds, the check reports a
missing parameter exactly if an argument without a default is left out, which is the case
exactly if a required key is not there; then binding breaks off.  Otherwise it has all its
arguments, whatever else becomes of them. -/
theorem check_and_binding_require_the_same_arguments (takes : kind.takesArguments = true)
    {definition : Value} (asks : definition.Asks kind (.object fields)) (path : String) :
    ∃ findings, checkDefinition definition path = .ok findings ∧
      ((∃ key, missingReport kind path key ∈ findings.errors) ↔ kind.Lacks fields) ∧
      (kind.Lacks fields ↔ ∃ key ∈ kind.requiredKeys, fields.lookup key = none) ∧
      (kind.Lacks fields → kind.arguments (.object fields) = .error .wrongKind ∧
        Invocation.bind kind (.object fields) = .error .wrongKind) ∧
      (¬ kind.Lacks fields → ∃ arguments, kind.arguments (.object fields) = .ok arguments ∧
        Invocation.bind kind (.object fields) = Invocation.bindArguments kind arguments) := by
  have bound := EffectKind.bind_of_takesArguments takes (.object fields)
  have collected := kind.failsIff_arguments fields
  obtain ⟨findings, checked, errors⟩ := exists_checkDefinition_eq takes asks path
  refine ⟨findings, checked, ?reported, EffectKind.lacks_iff takes, ?lacking, ?complete⟩
  case reported =>
    rw [EffectKind.lacks_iff takes, errors]
    constructor
    · rintro ⟨_, reported⟩
      obtain ⟨key, missing, -⟩ := List.mem_map.1 reported
      obtain ⟨required, absent⟩ := List.mem_filter.1 missing
      exact ⟨key, required, by simpa [Value.has, Value.get?] using absent⟩
    · rintro ⟨key, required, absent⟩
      refine ⟨key, List.mem_map_of_mem (List.mem_filter.2 ⟨required, ?_⟩)⟩
      simpa [Value.has, Value.get?] using absent
  case lacking =>
    intro lacks
    have missing := collected.fails lacks
    exact ⟨missing, by rw [bound, missing]; rfl⟩
  case complete =>
    intro complete
    obtain ⟨arguments, found⟩ := collected.answers complete
    exact ⟨arguments, found, by rw [bound, found]; rfl⟩

/-- A transformation that does not say whom it transforms. -/
theorem transforming_nobody_is_reported_and_not_bound :
    let fields : Fields := [("newCardId", .text "frog")]
    let definition := invocationOf "transformCard" (.object fields)
    (EffectKind.transformCard.takesArguments = true ∧
      definition.Asks .transformCard (.object fields)) ∧
    ∃ findings, checkDefinition definition "resolve" = .ok findings ∧
      (∃ key, missingReport .transformCard "resolve" key ∈ findings.errors) ∧
      Invocation.bind .transformCard (.object fields) = .error .wrongKind := by
  intro fields definition
  have asks : definition.Asks .transformCard (.object fields) := ⟨rfl, rfl, rfl⟩
  obtain ⟨findings, checked, reported, required, lacking, -⟩ :=
    check_and_binding_require_the_same_arguments rfl asks "resolve"
  have lacks : EffectKind.transformCard.Lacks fields := required.2 ⟨"targetType", by decide, rfl⟩
  exact ⟨⟨rfl, asks⟩, findings, checked, reported.2 lacks, (lacking lacks).2⟩

end CreatureCards
