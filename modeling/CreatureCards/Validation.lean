import CreatureCards.CardTrigger
import CreatureCards.Findings
import CreatureCards.ValueArithmetic

/-!
# Validation of card data

Checks for card authors: each definition names a known effect type, gives what
the type requires, and nests definitions that pass the same checks; target
groups, conditions and options are usable.  Checking a card covers the
definitions under its triggers, and checking a catalog also looks for missing
and repeated card ids.

Card data may hold values that cannot be looked through or compared at all; a
check that meets one of those fails instead of reporting.
-/

namespace CreatureCards

/-- Findings, or the failure of a check. -/
abbrev Checked := Except Failure Findings

namespace Validation

/-- Keys of a group effect that make something happen directly. -/
def shortcutKeys : List String :=
  ["damage", "heal", "kill", "buff", "keyword", "regen", "consume", "removeAbilities", "steal",
    "copyAbilities", "copyStats", "copyAbilitiesFrom", "play", "paralyze", "addToHand",
    "sacrifice"]

/-- Where a destroying effect may be aimed, in alphabetical order. -/
def destroyTargets : List String := ["allCreatures", "enemyCreatures", "targetEnemy"]

/-- Where an added keyword may go, in alphabetical order. -/
def addKeywordTargets : List String := ["friendlyCreatures", "self", "targetCreature"]

/-- Where a buff may go, in alphabetical order. -/
def buffTargets : List String :=
  ["friendlyCreatures", "self", "targetCreature", "targetEnemy", "targetPredator"]

/-- The value is one of these names; lists and objects are never looked up. -/
def isNamed (value : Value) (names : List String) : Except Failure Bool :=
  if value.isContainer then .error .wrongKind else .ok (names.any value.isText)

def missingKeys (kind : EffectKind) (params : Value) (path : String) : Findings :=
  .concat ((kind.requiredKeys.filter fun key => !params.has key).map fun key =>
    .fault path ("missing required param " ++ quoted key))

/-- The value under a key is one of the allowed names. -/
def checkName (value : Value) (allowed : List String) (key path : String) : Checked := do
  if ← isNamed value allowed then return .none
  let names := (Value.list (allowed.map .text)).quotedForm
  return .fault path s!"{key} {value.quotedForm} is not one of {names}"

def checkOptionalName (params : Value) (allowed : List String) (key path : String) : Checked :=
  match params.get? key with
  | some value => checkName value allowed key path
  | none => return .none

/-- A conditional effect refers to a known condition. -/
def checkCondition (condition : Value) (path : String) : Checked :=
  match condition with
  | .object _ => do
    let type := condition.get "type"
    if ← isNamed type (ConditionKind.all.map ConditionKind.name) then return .none
    return .fault path ("unknown condition type " ++ type.quotedForm)
  | _ => return .fault path "condition must be an object"

/-- A pick names a known target group, if it names one. -/
def checkTargetGroup (group : Value) (path : String) : Checked :=
  match group with
  | .null => return .none
  | group => do
    if ← isNamed group (TargetGroup.all.map TargetGroup.name) then return .none
    return .fault path ("unknown target group " ++ group.quotedForm)

/-- There is something to choose. -/
def checkCount (entries : List Value) (noun path : String) : Findings :=
  match entries with
  | [] => .fault path ("no " ++ noun)
  | [_] => .notice path s!"only one of {noun}, nothing to choose"
  | _ => .none

/-- Entries of a list of options or choices; absent ones count as none. -/
def entries (value : Value) : Except Failure (List Value) :=
  if value.isTruthy then value.elements?.elim (.error .wrongKind) .ok else .ok []

def hasShortcut (effect : Value) : Bool :=
  (shortcutKeys.any fun key => (effect.get key).isTruthy) || effect.has "draw"

def isLabelled (entry : Value) : Bool :=
  (entry.get "label").isTruthy

/-- The effect of an option is a definition and not a shortcut. -/
def isDefinition : Value → Bool
  | .list _ => true
  | .object fields => (fields.lookup "type").isSome
  | _ => false

theorem depth_le_of_mem_entries {value entry : Value} {found : List Value}
    (taken : entries value = .ok found) (member : entry ∈ found) : entry.depth ≤ value.depth := by
  rw [entries] at taken
  split at taken
  · cases stepped : value.elements? with
    | none => simp [stepped] at taken
    | some items =>
      simp only [stepped, Option.elim_some, Except.ok.injEq] at taken
      subst taken
      rcases Value.depth_elements? stepped member with less | flat <;> omega
  · cases taken
    cases member

theorem lex_of_le {first second low high : Nat} (le : first ≤ second) (lt : low < high) :
    Prod.Lex (· < ·) (· < ·) (first, low) (second, high) := by
  rcases Nat.lt_or_eq_of_le le with less | same
  · exact Prod.Lex.left _ _ less
  · subst same
    exact Prod.Lex.right _ lt

mutual

def checkDefinition (definition : Value) (path : String) : Checked :=
  match definition with
  | .list items => do
    let findings ← items.attach.zipIdx.mapM fun (⟨item, _⟩, place) =>
      checkDefinition item s!"{path}[{place}]"
    return .concat findings
  | .object fields =>
    checkNode ((Value.object fields).get "type") ((Value.object fields).get "params") path
  | _ => return .fault path "definition must be an object or a list"
termination_by (definition.depth, 0)
decreasing_by
  · exact Prod.Lex.left _ _ (Value.depth_lt_of_mem ‹_›)
  · exact Prod.Lex.left _ _ (Value.depth_get_object_lt fields "params")

def checkNode (type params : Value) (path : String) : Checked :=
  if !type.isTruthy then return .fault path "missing type"
  else match EffectKind.ofValue? type with
    | none => return .fault path ("unknown effect type " ++ type.quotedForm)
    | some kind =>
      if params.isTruthy && !params.isObject then
        return .fault path "params must be an object"
      else do
        let path := s!"{path}<{kind.name}>"
        return missingKeys kind params path ++ (← checkParams kind params path)
termination_by (params.depth, 2)
decreasing_by exact Prod.Lex.right _ (by decide)

def checkParams (kind : EffectKind) (params : Value) (path : String) : Checked :=
  match kind with
  | .composite =>
    if (params.get "effects").isTruthy then
      checkDefinition (params.get "effects") (path ++ ".effects")
    else return .notice path "composite has no effects"
  | .repeated | .selectTarget | .selectConsume => checkNested params "effect" path
  | .conditional => do
    let condition ← checkCondition (params.get "condition") (path ++ ".condition")
    let whenTrue ← checkNested params "effectIfTrue" path
    let whenFalse ← checkNested params "effectIfFalse" path
    return condition ++ whenTrue ++ whenFalse
  | .selectFromGroup => do
    let group ← checkTargetGroup (params.get "targetGroup") path
    return group ++ (← checkGroupEffect (params.get "effect") (path ++ ".effect"))
  | .chooseOption =>
    match _ : entries (params.get "options") with
    | .error failure => throw failure
    | .ok options => do
      let findings ← options.attach.zipIdx.mapM fun (⟨option, _⟩, place) =>
        let here := s!"{path}.options[{place}]"
        if isLabelled option then
          if isDefinition (option.get "effect") then
            checkDefinition (option.get "effect") (here ++ ".effect")
          else return .none
        else return .fault here "option needs a label"
      return checkCount options "options" path ++ .concat findings
  | .choice =>
    match _ : entries (params.get "choices") with
    | .error failure => throw failure
    | .ok choices => do
      let findings ← choices.attach.zipIdx.mapM fun (⟨choice, _⟩, place) =>
        let here := s!"{path}.choices[{place}]"
        if isLabelled choice then checkNode (choice.get "type") (choice.get "params") here
        else return .fault here "choice needs a label"
      return checkCount choices "choices" path ++ .concat findings
  | .destroy =>
    checkName ((params.get? "target").getD (.text "targetEnemy")) destroyTargets "target" path
  | .addKeyword => checkOptionalName params addKeywordTargets "target" path
  | .buff => checkOptionalName params buffTargets "target" path
  | _ => return .none
termination_by (params.depth, 1)
decreasing_by
  · exact Prod.Lex.left _ _ (Value.depth_get_lt ‹_› "effects")
  · exact Prod.Lex.right _ (by decide)
  · exact Prod.Lex.right _ (by decide)
  · exact Prod.Lex.right _ (by decide)
  · exact lex_of_le (Value.depth_get_le params "effect") (by decide)
  · have labelled : isLabelled option := ‹_›
    have entry := depth_le_of_mem_entries ‹entries (params.get "options") = _› ‹option ∈ options›
    have whole := Value.depth_get_le params "options"
    have deeper := Value.depth_get_lt labelled "effect"
    exact Prod.Lex.left _ _ (by omega)
  · have labelled : isLabelled choice := ‹_›
    have entry := depth_le_of_mem_entries ‹entries (params.get "choices") = _› ‹choice ∈ choices›
    have whole := Value.depth_get_le params "choices"
    have deeper := Value.depth_get_lt labelled "params"
    exact Prod.Lex.left _ _ (by omega)

def checkNested (params : Value) (key path : String) : Checked :=
  if (params.get key).isTruthy then checkDefinition (params.get key) s!"{path}.{key}"
  else return .none
termination_by (params.depth, 0)
decreasing_by exact Prod.Lex.left _ _ (Value.depth_get_lt ‹_› key)

def checkGroupEffect (effect : Value) (path : String) : Checked :=
  match effect.orElse (.object []) with
  | .object _ =>
    if hasShortcut effect then return .none
    else if (effect.get "type").isTruthy then
      checkNode (effect.get "type") (effect.get "params") path
    else return .notice path "selection has no effect"
  | _ => return .fault path "must be an object"
termination_by (effect.depth, 0)
decreasing_by exact Prod.Lex.left _ _ (Value.depth_get_lt ‹_› "params")

end

end Validation

end CreatureCards
