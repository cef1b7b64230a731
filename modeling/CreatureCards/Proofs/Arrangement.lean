import CreatureCards.Proofs.AskedInOrder
import CreatureCards.Resolver

/-!
# Arrangements

A definition arranges its questions: some stand one after the other in a list,
some side by side in a composite or repeated effect, and some only come up when
another one is answered.  An arrangement is what is found when a definition is
resolved and nothing is merged yet.  Merging its lists and collecting what
stands side by side gives what the definition is resolved to.

In authored order the questions of an arrangement are asked from left to right,
and those that an answer opens before all later ones.
-/

namespace CreatureCards

open Engine Outcome

/-- The key under which a question is asked. -/
def Inquiry.key : Inquiry → String
  | pick _ => "select_target"
  | menu _ => "select_option"

theorem Inquiry.key_mem (inquiry : Inquiry) : inquiry.key ∈ questionKeys := by
  cases inquiry with
  | pick asked => exact List.mem_cons_self ..
  | menu asked => exact List.mem_cons_of_mem _ (List.mem_cons_self ..)

/-- What a definition is made of: an effect with its result, a question with what
its answers lead to, a list, or effects side by side. -/
inductive Arrangement where
  | effect (result : Outcome)
  | asking (inquiry : Inquiry)
      (answer : Choice → Engine Arrangement)
  | inSequence (parts : List Arrangement)
  | sideBySide (parts : List Arrangement)

namespace Arrangement

mutual

/-- What an arrangement comes to when it is merged. -/
def outcome : Arrangement → Except Failure Outcome
  | effect result => .ok result
  | asking inquiry answer =>
    .ok (.descriptor inquiry.key (.question inquiry fun choice => following (answer choice)))
  | inSequence parts => outcomes parts >>= merge
  | sideBySide parts => do return collect (← outcomes parts)

def outcomes : List Arrangement → Except Failure (List Outcome)
  | [] => .ok []
  | part :: rest => do return (← outcome part) :: (← outcomes rest)

/-- What follows an answer, on a board that stays as it is and in a game. -/
def following : Engine Arrangement → Engine Outcome
  | ⟨seen, play⟩ =>
    { seen := fun board session => answerOutcome (seen board session)
      play := fun game => playedOutcome (play game) }

/-- What an answer comes to, with the session that it leaves. -/
def answerOutcome : Except Failure Arrangement × Session → Except Failure Outcome × Session
  | (answered, after) => (answeredOutcome answered, after)

/-- What an answer comes to, with the game that it leaves. -/
def playedOutcome : Except Failure Arrangement × Game → Except Failure Outcome × Game
  | (answered, after) => (answeredOutcome answered, after)

def answeredOutcome : Except Failure Arrangement → Except Failure Outcome
  | .ok next => outcome next
  | .error failure => .error failure

end

theorem following_apply (arranging : Engine Arrangement) (board : Board) (session : Session) :
    following arranging board session = answerOutcome (arranging board session) := by
  cases arranging
  rfl

mutual

/-- The questions of an arrangement in authored order. -/
def authored : Arrangement → Play Unit
  | effect result => result.script
  | asking inquiry answer =>
    .asks () inquiry (fun moment => (answer moment.choice moment.board moment.session).2)
      fun moment => authoredFollowing (answer moment.choice) moment.board moment.session
  | inSequence parts => authoredParts parts
  | sideBySide parts => authoredParts parts

def authoredParts : List Arrangement → Play Unit
  | [] => .skip
  | part :: rest => (authored part).andThen (authoredParts rest)

/-- The questions that an answer opens on a board. -/
def authoredFollowing : Engine Arrangement → Board → Session → Play Unit
  | ⟨answered, _⟩, board, session => authoredAnswer (answered board session)

/-- The questions that an answer opens, with the session that it leaves. -/
def authoredAnswer : Except Failure Arrangement × Session → Play Unit
  | (answered, _) => authoredAnswered answered

def authoredAnswered : Except Failure Arrangement → Play Unit
  | .ok next => authored next
  | .error failure => .broken () failure

end

theorem authored_asking (inquiry : Inquiry) (answer : Choice → Engine Arrangement) :
    authored (.asking inquiry answer) =
      .asks () inquiry (fun moment => (answer moment.choice moment.board moment.session).2)
        fun moment => authoredAnswer (answer moment.choice moment.board moment.session) := by
  have each (moment : Moment) :
      authoredFollowing (answer moment.choice) moment.board moment.session =
        authoredAnswer (answer moment.choice moment.board moment.session) := by
    rcases answer moment.choice with ⟨answered, _⟩
    rfl
  rw [authored]
  simp only [each]

/-- The arrangement itself unless it is an effect that comes to nothing. -/
def orNothing : Arrangement → Arrangement
  | effect result => effect result.orNothing
  | other => other

end Arrangement

abbrev Layout := Context → Engine Arrangement

abbrev Plan := Settings → Layout

/-- Arranges a definition with the resolver that the context carries. -/
def Plan.withOwnResolver (plan : Plan) : Layout := fun context => do
  let settings ← context.settings
  plan settings (← context.adopt settings)

namespace Layout

def composite (layouts : List Layout) : Layout := fun context => do
  return .sideBySide (← layouts.mapM fun layout => layout context)

def conditional (condition : Condition) (whenTrue : Layout) (whenFalse : Option Layout) :
    Layout := fun context => do
  if ← orFail (condition.holds context (← board)) then whenTrue context
  else match whenFalse with
    | some layout => layout context
    | none => return .effect .nothing

def pickOne (style : PickStyle) (title : String) (candidates : List Candidate)
    (answer : Choice → Engine Arrangement) : Engine Arrangement :=
  match candidates with
  | [] => return .effect .nothing
  | [only] => return (← answer only.value).orNothing
  | _ => return .asking (.pick (style.pick title (.listed candidates))) answer

/-- A picked creature is what a nested definition is aimed at. -/
def selectTarget (pool : Value) (layout : Layout) : Layout := fun context => do
  let board ← board
  let targets :=
    if pool.isText "friendly" then board.friendlyCreatures context
    else if pool.isText "enemy" then board.targetableEnemies context anyCard
    else if pool.isText "any" then board.mixedTargets context anyCard
    else []
  if targets.isEmpty then
    announce "No valid targets."
    return .effect .nothing
  pickOne {} "Choose a target" (board.cardCandidates (some context) false targets)
    (onCard fun target => do
      let derived ← context.derived
      return (← layout { derived with target := some (.card target) }).orNothing)

/-- A declarative effect for what was picked: shortcuts, or else the nested
definition. -/
def applyGroupEffect (selection : TargetRef) (effect : GroupEffect) (nested : Option Plan) :
    Layout := fun context => do
  let taken := Effect.steps (← board) context selection effect.shortcuts
  taken.forM fun step => announce step.message
  let result := taken.map (fun step => (step.key, step.payload)) ++
    Effect.sacrificeDraw selection effect.shortcuts
  if !result.isEmpty then return .effect (.record result)
  match nested with
  | some plan =>
    let derived ← context.derived
    plan.withOwnResolver
      { derived with target := (Effect.pickedCreature selection).map .card }
  | none => return .effect .nothing

def selectFromGroup (react : Reactor) (shape : GroupShape) (nested : Option Plan) : Layout :=
  fun context => do
    let candidates ← groupTargets (.text shape.targetGroup) context
    if candidates.isEmpty then
      announce "No valid targets available."
      return .effect .nothing
    let renderCards := shape.renderCards && candidates.any fun candidate => candidate.card.isSome
    pickOne { renderCards } ((Effect.presentText shape.title).getD "Choose a target") candidates
      (onRef fun selection => do
        match Effect.pickedCreature selection with
        | some creature =>
          let response ← reactionOf react creature none context
          if response.isTruthy then return .effect response
        | none => pure ()
        applyGroupEffect selection shape.effect nested context)

/-- The effect of an authored option is a definition. -/
def isDefinition (effect : Value) (context : Context) : Bool :=
  match effect with
  | .list items => !items.isEmpty
  | .object _ =>
    !(effect.get "summonTokens").isTruthy &&
      !((effect.get "buff").isTruthy && context.creature.isSome) &&
      !(effect.get "heal").isTruthy && !(effect.get "draw").isTruthy &&
      !(effect.get "damage").isTruthy && (effect.get "type").isTruthy
  | _ => false

/-- An authored option: a definition, or something short of one. -/
def option (effect : Value) (plan : Plan) : Layout := fun context => do
  if isDefinition effect context then plan.withOwnResolver context
  else return .effect (← Effect.resolveOption effect (fun _ _ => return .nothing) context)

/-- One of several options, asked for unless there is only one. -/
def offer (title : String) (entries : List MenuEntry) (layouts : List Layout) : Layout :=
  fun context => do
    match entries, layouts with
    | [only], [layout] =>
      announce only.label
      layout context
    | _, _ => return .asking (.menu { title, entries }) (Effect.onOption entries layouts context)

def chooseOption (title : Option String) (options : List (OptionShape × Plan)) : Layout :=
  fun context => do
    if options.isEmpty then
      announce "No options available."
      return .effect .nothing
    let title := match title with
      | some "" | none => "Choose an option"
      | some given => given
    let entries := Effect.numbered (options.map Prod.fst) OptionShape.label
      OptionShape.description OptionShape.effect
    offer title entries (options.map fun (shape, plan) => option shape.effect plan) context

def chooseDefinition (choices : List (ChoiceShape × Plan)) : Layout := fun context => do
  if choices.isEmpty then
    announce "No choices available."
    return .effect .nothing
  let entries := Effect.numbered (choices.map Prod.fst) ChoiceShape.label ChoiceShape.description
    ChoiceShape.definition
  offer "Choose an option" entries (choices.map fun (_, plan) => plan.withOwnResolver) context

end Layout

/-- The layout of an invocation whose nested definitions may be asked for. -/
def Invocation.layout? (react : Reactor) (settings : Settings) :
    Invocation Plan → Option Layout
  | composite plans => some (Layout.composite (plans.map fun plan => plan settings))
  | repeated plan count => some (Layout.composite (List.replicate count.toNat (plan settings)))
  | conditional condition whenTrue whenFalse =>
    some (Layout.conditional condition (whenTrue settings)
      (whenFalse.map fun plan => plan settings))
  | selectTarget pool plan => some (Layout.selectTarget pool (plan settings))
  | selectFromGroup shape plan => some (Layout.selectFromGroup react shape plan)
  | chooseOption title options => some (Layout.chooseOption title options)
  | choice choices => some (Layout.chooseDefinition choices)
  | _ => none

/-- Arranges a definition.  What nests no definition that a player gets to is an
effect with its result; and a list that cannot be merged fails. -/
def arrangeWith (react : Reactor) (definition : Value) : Plan := fun settings context => do
  match _ : Reading.ofValue definition with
  | .sequence definitions =>
    let context ← context.adopt settings
    let parts ← definitions.attach.mapM fun ⟨nested, _⟩ =>
      arrangeWith react nested settings context
    let _ ← orFail (Arrangement.inSequence parts).outcome
    return .inSequence parts
  | .invocation asked =>
    let ready := asked.mapDefinitions fun nested _ => arrangeWith react nested
    match ready.layout? react settings with
    | some layout => return (← layout (← context.adopt settings)).orNothing
    | none => return .effect (← resolveWith react definition settings context)
  | _ => return .effect (← resolveWith react definition settings context)
termination_by definition.depth
decreasing_by
  all_goals
    apply depth_lt_of_mem_definitions
    rw [‹Reading.ofValue definition = _›]
    assumption

end CreatureCards
