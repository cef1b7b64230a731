import CreatureCards.Condition
import CreatureCards.EffectShape
import CreatureCards.Parameter

/-!
# Invocations

A definition names an effect type and gives it parameters.  Binding checks the
parameters and yields an invocation: the effect type with its arguments, where
nested definitions are kept as they are.  Nothing happens yet; binding does not
look at the board.

Nested definitions are no deeper than the parameters they come from, so whoever
resolves an invocation may resolve them in turn.
-/

namespace CreatureCards

/-- An effect type with its arguments; `α` stands for nested definitions. -/
inductive Invocation (α : Type) where
  /-- An effect that takes its arguments as they were given. -/
  | direct (kind : EffectKind) (arguments : List Value)
  | buffStats (targetType attack health : Value)
  | selectForBuff (preyOnly : Bool) (stats : Stats)
  | destroy (shape : DestroyShape)
  | addKeyword (shape : AddKeywordShape)
  | buff (shape : BuffShape)
  | composite (effects : List α)
  | repeated (effect : α) (count : Int)
  | conditional (condition : Condition) (whenTrue : α) (whenFalse : Option α)
  | selectTarget (pool : Value) (effect : α)
  | selectConsume (cardType count : Value) (effect : Option α)
  /-- A pick of a creature with which nothing can be done. -/
  | selectTargetIdly (pool : Value)
  /-- A consumption with a note in place of what follows it. -/
  | selectConsumeNoting (cardType count note : Value)
  | selectFromGroup (shape : GroupShape) (nested : Option α)
  | chooseOption (title : Option String) (options : List (OptionShape × α))
  | choice (choices : List (ChoiceShape × α))

namespace Invocation

def definitions {α : Type} : Invocation α → List α
  | composite effects => effects
  | repeated effect _ => [effect]
  | conditional _ whenTrue whenFalse => whenTrue :: whenFalse.toList
  | selectTarget _ effect => [effect]
  | selectConsume _ _ effect => effect.toList
  | selectFromGroup _ nested => nested.toList
  | chooseOption _ options => options.map Prod.snd
  | choice choices => choices.map Prod.snd
  | _ => []

/-- Replaces each nested definition by what a function makes of it. -/
def mapDefinitions {α β : Type} (invocation : Invocation α)
    (make : (definition : α) → definition ∈ invocation.definitions → β) : Invocation β :=
  match invocation with
  | direct kind arguments => direct kind arguments
  | buffStats targetType attack health => buffStats targetType attack health
  | selectForBuff preyOnly stats => selectForBuff preyOnly stats
  | destroy shape => destroy shape
  | addKeyword shape => addKeyword shape
  | buff shape => buff shape
  | composite effects => composite (effects.attach.map fun entry => make entry.1 entry.2)
  | repeated effect count => repeated (make effect (by simp [definitions])) count
  | conditional condition whenTrue whenFalse =>
    conditional condition (make whenTrue (by simp [definitions]))
      (whenFalse.attach.map fun entry =>
        make entry.1 (by simp [definitions, entry.2]))
  | selectTarget pool effect => selectTarget pool (make effect (by simp [definitions]))
  | selectConsume cardType count effect =>
    selectConsume cardType count (effect.attach.map fun entry =>
      make entry.1 (by simp [definitions, entry.2]))
  | selectTargetIdly pool => selectTargetIdly pool
  | selectConsumeNoting cardType count note => selectConsumeNoting cardType count note
  | selectFromGroup shape nested =>
    selectFromGroup shape (nested.attach.map fun entry =>
      make entry.1 (by simp [definitions, entry.2]))
  | chooseOption title options =>
    chooseOption title (options.attach.map fun entry =>
      (entry.1.1, make entry.1.2 (List.mem_map_of_mem entry.2)))
  | choice choices =>
    choice (choices.attach.map fun entry =>
      (entry.1.1, make entry.1.2 (List.mem_map_of_mem entry.2)))

/-- Absent parameters count as an empty object. -/
def given (params : Value) : Value :=
  params.orElse (.object [])

/-- A part of the parameters of an effect with nested definitions. -/
def part (params : Value) (key : String) : Except Failure (Option Value) :=
  match given params with
  | .object fields => .ok (fields.lookup key)
  | _ => .error .missingPart

def mentions (params : Value) (key : String) : Except Failure Bool :=
  match given params with
  | .object fields => .ok (fields.lookup key).isSome
  | .list items => .ok (items.any fun item => item.isText key)
  | .text content => .ok (Value.occursIn key.toList content.toList)
  | _ => .error .wrongKind

/-- A part that the parameters are known to mention; lists and texts have no
parts by name. -/
def named (params : Value) (key : String) : Except Failure Value :=
  match given params with
  | .object fields => .ok ((fields.lookup key).getD .null)
  | _ => .error .wrongKind

def bindComposite (params : Value) : Except Failure (Invocation Value) := do
  let effects := ((← part params "effects").getD .null).orElse (.list [])
  match effects.elements? with
  | some items => return composite items
  | none => throw .wrongKind

def bindRepeated (params : Value) : Except Failure (Invocation Value) := do
  if !(← mentions params "effect") then
    throw (.invalidDefinition ["repeat requires 'effect'"])
  let effect ← named params "effect"
  let count ← ((← part params "count").getD (.int 1)).toCount
  return repeated effect count

def bindConditional (params : Value) : Except Failure (Invocation Value) := do
  let refused := Failure.invalidDefinition
    ["conditional requires 'condition' and 'effectIfTrue'"]
  if !(← mentions params "condition") then throw refused
  if !(← mentions params "effectIfTrue") then throw refused
  let condition ← Condition.build ConditionKind.all (← named params "condition")
  let whenTrue ← named params "effectIfTrue"
  let whenFalse := ((← part params "effectIfFalse").getD .null)
  return conditional condition whenTrue (if whenFalse.isTruthy then some whenFalse else none)

def bindSelectTarget (params : Value) : Except Failure (Invocation Value) := do
  let pool := (← part params "selectionType").getD (.text "any")
  let effect := (← part params "effect").getD .null
  return selectTarget pool effect

def bindSelectConsume (params : Value) : Except Failure (Invocation Value) := do
  let effect := (← part params "effect").getD .null
  let cardType := (← part params "cardType").getD (.text "any")
  let count := (← part params "count").getD (.int 1)
  return selectConsume cardType count (if effect.isTruthy then some effect else none)

/-- Binds a pick that is buffed; the changes may stand for all the parameters. -/
def bindSelectForBuff (params : Value) : Except Failure (Invocation Value) := do
  let stats := (← part params "stats").getD (given params)
  return selectForBuff false (← Stats.read (given stats))

def bindBuffStats (targetType stats : Value) : Except Failure (Invocation Value) :=
  match given stats with
  | .object fields =>
    .ok (buffStats targetType ((fields.lookup "attack").getD (.int 0))
      ((fields.lookup "health").getD (.int 0)))
  | _ => .error .missingPart

def bindSelectFromGroup (params : Value) : Except Failure (Invocation Value) := do
  let shape ← GroupShape.read (given params)
  return selectFromGroup shape
    (if shape.effect.hasType then some shape.effect.definition else none)

def bindChooseOption (params : Value) : Except Failure (Invocation Value) := do
  let shape ← MenuShape.read (given params)
  return chooseOption shape.title (shape.options.map fun option => (option, option.effect))

def bindChoice (params : Value) : Except Failure (Invocation Value) := do
  let choices ← ChoiceShape.readAll (given params)
  return choice (choices.map fun entry => (entry, entry.definition))

/-- Binds the arguments of an effect that takes them by position or by name. -/
def bindArguments (kind : EffectKind) (arguments : List Value) :
    Except Failure (Invocation Value) :=
  match kind, arguments with
  | .buffStats, [targetType, stats] => bindBuffStats targetType stats
  | .selectPreyForBuff, [stats] => do return selectForBuff true (← Stats.read (given stats))
  | _, _ => .ok (direct kind arguments)

def bind (kind : EffectKind) (params : Value) : Except Failure (Invocation Value) :=
  match kind with
  | .destroy => do return destroy (← DestroyShape.read (given params))
  | .addKeyword => do return addKeyword (← AddKeywordShape.read (given params))
  | .buff => do return buff (← BuffShape.read (given params))
  | .composite => bindComposite params
  | .repeated => bindRepeated params
  | .conditional => bindConditional params
  | .selectTarget => bindSelectTarget params
  | .selectConsume => bindSelectConsume params
  | .selectCreatureForBuff => bindSelectForBuff params
  | .selectFromGroup => bindSelectFromGroup params
  | .chooseOption => bindChooseOption params
  | .choice => bindChoice params
  | other => do bindArguments other (← other.arguments params)

/-- Checks the arguments of an effect type that is asked for by itself.  An
effect type with declared parameters takes them as a single argument.  Arguments
are data and not effects: a pick of a creature cannot go on with one, and a
consumption passes it on.  Effect types that only run others cannot be asked for
in this way. -/
def ofArguments (kind : EffectKind) (arguments : List Value) : Except Failure (Invocation Value) :=
  match kind with
  | .destroy => do
    match ← Formal.fromItems [.optional "params" .null] arguments with
    | [params] => bind kind params
    | _ => throw .wrongKind
  | .addKeyword | .buff | .selectFromGroup | .chooseOption | .choice =>
    match arguments with
    | [params] => bind kind params
    | _ => throw .wrongKind
  | .selectCreatureForBuff => do
    match ← Formal.fromItems [.optional "stats" .null] arguments with
    | [stats] => return selectForBuff false (← Stats.read (given stats))
    | _ => throw .wrongKind
  | .selectTarget =>
    match arguments with
    | [pool, _] => return selectTargetIdly pool
    | _ => throw .wrongKind
  | .selectConsume => do
    match ← Formal.fromItems
        [.optional "card_type" (.text "any"), .optional "count" (.int 1),
          .optional "effect" .null] arguments with
    | [cardType, count, note] => return selectConsumeNoting cardType count note
    | _ => throw .wrongKind
  | .composite | .repeated | .conditional => throw .missingPart
  | other => do bindArguments other (← Formal.fromItems other.formals arguments)

end Invocation

end CreatureCards
