import CreatureCards.Proofs.BrokenAnswer
import CreatureCards.Proofs.ProcedureTable

/-!
# Reactions that are honoured

A creature that an ability picks may react, and what it answers with replaces the
result.  Here a procedure is followed to each of its picks: where a creature was
picked, its reaction is asked for once, after nothing but messages, and decides what
the pick comes to.  Prey that is eaten instead of an attack decides in one case only:
if it returns to hand.
-/

namespace CreatureCards

open Engine

/-- The session after some messages were told. -/
def Session.telling (session : Session) (messages : List String) : Session :=
  { session with log := session.log ++ messages }

theorem Session.telling_append (session : Session) (messages others : List String) :
    session.telling (messages ++ others) = (session.telling messages).telling others := by
  simp only [telling, List.append_assoc]

theorem Session.telling_nil (session : Session) : session.telling [] = session := by
  simp only [telling, List.append_nil]

/-- The run succeeds and does nothing but tell messages. -/
def Tells {α : Type} (running : Engine α) : Prop :=
  ∀ board session, ∃ messages value, running board session = (.ok value, session.telling messages)

/-- The answer of the picked creature decides what the run comes to: the creature is
asked once, after nothing but messages, and unless its answer is empty, nothing else
is done. -/
def DecidedByReaction (react : Reactor) (context : Context) (target : CardId)
    (running : Engine Outcome) :
    Prop :=
  ∀ board session, ∃ messages, ∀ response after,
    reactionOf react target none context board (session.telling messages) = (.ok response, after) →
      response.isTruthy = true → running board session = (.ok response, after)

/-- The picked prey is asked once.  It decides if it answers with a return to hand, and
is eaten after any other answer. -/
def EatenUnlessReturned (react : Reactor) (context : Context) (target : CardId)
    (running : Engine Outcome) : Prop :=
  ∀ board session response after,
    reactionOf react target context.creature context board session = (.ok response, after) →
      response.isTruthy = true →
        (response.mentions "return_to_hand" = .ok true →
          running board session = (.ok response, after)) ∧
        (response.mentions "return_to_hand" = .ok false →
          running board session = Effect.eat context target board after)

namespace Tells

variable {α β : Type}

theorem pure (value : α) : Tells (Pure.pure value : Engine α) :=
  fun _ session => ⟨[], value, by rw [session.telling_nil]; rfl⟩

theorem bind {running : Engine α} {next : α → Engine β} (first : Tells running)
    (each : ∀ value, Tells (next value)) : Tells (running >>= next) := by
  intro board session
  obtain ⟨messages, value, ran⟩ := first board session
  obtain ⟨others, result, goesOn⟩ := each value board (session.telling messages)
  refine ⟨messages ++ others, result, ?_⟩
  rw [session.telling_append, ← goesOn]
  exact bind_of_ok ran

theorem board : Tells Engine.board :=
  fun board session => ⟨[], board, by rw [session.telling_nil]; rfl⟩

theorem announce (message : String) : Tells (Engine.announce message) :=
  fun _ _ => ⟨[message], (), rfl⟩

end Tells

namespace DecidedByReaction

variable {react : Reactor} {context : Context} {target : CardId}

theorem after {α : Type} {running : Engine α} {next : α → Engine Outcome} (first : Tells running)
    (each : ∀ value, DecidedByReaction react context target (next value)) :
    DecidedByReaction react context target (running >>= next) := by
  intro board session
  obtain ⟨messages, value, ran⟩ := first board session
  obtain ⟨others, decided⟩ := each value board (session.telling messages)
  refine ⟨messages ++ others, fun response after reacted truthy => ?_⟩
  rw [session.telling_append] at reacted
  rw [← decided response after reacted truthy]
  exact bind_of_ok ran

theorem ite {condition : Prop} [Decidable condition] {running otherwise : Engine Outcome}
    (whenTrue : DecidedByReaction react context target running)
    (whenFalse : DecidedByReaction react context target otherwise) :
    DecidedByReaction react context target (if condition then running else otherwise) := by
  split
  · exact whenTrue
  · exact whenFalse

/-- What comes after an answer is done only if the answer is empty. -/
theorem of_reactionOf {next : Outcome → Engine Outcome}
    (replaced : ∀ response, response.isTruthy = true → next response = Pure.pure response) :
    DecidedByReaction react context target (reactionOf react target none context >>= next) := by
  intro board session
  refine ⟨[], fun response after reacted truthy => ?_⟩
  rw [session.telling_nil] at reacted
  rw [bind_of_ok reacted, replaced response truthy]
  rfl

theorem reactionOr (result : Outcome) :
    DecidedByReaction react context target (CreatureCards.reactionOr react target result context) :=
  of_reactionOf fun response truthy => by rw [if_pos truthy]

end DecidedByReaction

namespace Procedure

variable {react : Reactor} {given : Effect → Prop}

/-- Wherever creatures of the rival are offered, as the demand of the pick tells, and
wherever objects of the game are referred to, this holds of what follows the pick of a
creature. -/
def EveryPick (decides : CardId → Engine Outcome → Prop) :
    {running : Engine Outcome} → Procedure react given running → Prop
  | _, act _ => True
  | _, first _ later => ∀ value isGood, (later value isGood).EveryPick decides
  | _, branch whenTrue whenFalse => whenTrue.EveryPick decides ∧ whenFalse.EveryPick decides
  | _, @pickCard _ _ demand _ _ _ answer later =>
    ∀ id, (demand.isSome = true → decides id (answer id)) ∧ (later id).EveryPick decides
  | _, @pickRef _ _ _ _ _ _ answer later =>
    ∀ ref, (∀ id, Effect.pickedCreature ref = some id → decides id (answer ref)) ∧
      (later ref).EveryPick decides
  | _, pickLater _ _ _ _ later => ∀ id, (later id).EveryPick decides
  | _, drawCard _ later => ∀ id, (later id).EveryPick decides
  | _, offer later => ∀ choice, (later choice).EveryPick decides
  | _, reacting _ _ spared => spared.EveryPick decides
  | _, orNothing procedure => procedure.EveryPick decides
  | _, nested _ => True
  | _, sideBySide _ => True
  | _, handOver _ _ _ => True
  | _, behind _ procedure => procedure.EveryPick decides
  | _, same _ procedure => procedure.EveryPick decides

/-- The picked creatures decide by their reactions what the picks come to. -/
abbrev Honours (context : Context) {running : Engine Outcome}
    (procedure : Procedure react given running) :
    Prop :=
  procedure.EveryPick (DecidedByReaction react context)

section Picks

variable {context : Context}

/-- Where no creature of the rival is offered, no reaction has to be asked for. -/
theorem honours_pickOwn {style : PickStyle} {title : String} {candidates : List Candidate}
    {answer : CardId → Engine Outcome} {later : (id : CardId) → Procedure react given (answer id)}
    (each : ∀ id, (later id).Honours context) :
    (@pickCard react given none style title candidates answer later).Honours context :=
  fun id => ⟨nofun, each id⟩

/-- Whatever is built for a picked creature, its reaction replaces. -/
theorem honours_pickFrom {pool : Board → Context → (CardId → Bool) → List CardId}
    {asked : Effect.CreaturePick} {build : CardId → Effect}
    (straight : ∀ target, Straight (build target context))
    (tells : ∀ target, Tells (build target context)) :
    (@pickFrom react given context pool asked build straight).Honours context := by
  refine fun _ _ => ⟨trivial, fun target =>
    ⟨fun _ => ?_, fun _ _ _ _ _ _ => trivial, fun _ _ => trivial⟩⟩
  have built : DecidedByReaction react context target
      (build target context >>= fun result => reactionOr react target result context) :=
    .after (tells target) .reactionOr
  exact .ite (.after .board fun _ => .after (.announce _) fun _ => built) built

theorem honours_pickEnemy {asked : Effect.CreaturePick} {build : CardId → Effect}
    (straight : ∀ target, Straight (build target context))
    (tells : ∀ target, Tells (build target context)) :
    (@pickEnemy react given context asked build straight).Honours context :=
  honours_pickFrom straight tells

theorem honours_pickAny {asked : Effect.CreaturePick} {build : CardId → Effect}
    (straight : ∀ target, Straight (build target context))
    (tells : ∀ target, Tells (build target context)) :
    (@pickAny react given context asked build straight).Honours context :=
  honours_pickFrom straight tells

theorem honours_selectEnemyToKill :
    (@selectEnemyToKill react given context).Honours context :=
  honours_pickEnemy _ fun _ => .pure _

theorem honours_selectEnemyToFreeze :
    (@selectEnemyToFreeze react given context).Honours context :=
  honours_pickEnemy _ fun _ => .pure _

theorem honours_selectEnemyToReturn (title : String) :
    (@selectEnemyToReturn react given context title).Honours context :=
  honours_pickEnemy _ fun _ => .pure _

theorem honours_selectEnemyCreatureForDamage (amount label : Value) :
    (@selectEnemyCreatureForDamage react given context amount label).Honours context :=
  honours_pickEnemy _ fun _ => .pure _

theorem honours_selectEnemyPreyToConsume :
    (@selectEnemyPreyToConsume react given context).Honours context :=
  honours_pickEnemy _ fun _ => .pure _

theorem honours_selectEnemyForKeyword (keyword : Value) :
    (@selectEnemyForKeyword react given context keyword).Honours context :=
  honours_pickEnemy _ fun _ => .bind .board fun _ => .bind (.announce _) fun _ => .pure _

theorem honours_selectCreatureToRestore :
    (@selectCreatureToRestore react given context).Honours context :=
  honours_pickAny _ fun _ => .pure _

theorem honours_selectCreatureToCopy :
    (@selectCreatureToCopy react given context).Honours context :=
  honours_pickAny _ fun _ => .pure _

theorem honours_selectCreatureToTransform (newCardId : Value) :
    (@selectCreatureToTransform react given context newCardId).Honours context :=
  honours_pickAny _ fun _ => .pure _

theorem honours_selectCreatureForDamage (amount label : Value) :
    (@selectCreatureForDamage react given context amount label).Honours context :=
  fun _ _ => ⟨trivial, honours_pickAny _ fun _ => .pure _⟩

theorem honours_damageRivalAndSelectEnemy (rivalDamage creatureDamage : Value) :
    (@damageRivalAndSelectEnemy react given context rivalDamage creatureDamage).Honours context :=
  fun _ _ => ⟨fun _ _ => trivial, fun _ => ⟨fun _ => .reactionOr _, trivial⟩⟩

/-- The rival has no reaction; a creature that is referred to has. -/
theorem honours_damagePicked (amount label : Value) (ref : TargetRef) :
    (∀ id, Effect.pickedCreature ref = some id →
      DecidedByReaction react context id (Effect.damagePicked react amount label context ref)) ∧
    (@damagePicked react given context amount label ref).Honours context := by
  refine ⟨fun id picked => ?_, fun _ _ => trivial, fun _ _ _ _ _ _ => trivial⟩
  unfold Effect.pickedCreature at picked
  split at picked
  · rename_i isCreature
    unfold Effect.damagePicked
    rw [isCreature, picked]
    have found : (require (some id) : Engine CardId) = pure id := rfl
    rw [found, pure_bind]
    exact .after .board fun _ => .after (.announce _) fun _ => .reactionOr _
  · cases picked

theorem honours_discardThenKill (card : CardId) :
    (@discardThenKill react given context card).Honours context :=
  fun _ _ => ⟨fun _ _ => trivial, fun _ => ⟨fun _ => .reactionOr _, trivial⟩⟩

theorem honours_applyGroupEffect (selection : TargetRef) (effect : GroupEffect)
    {nested : Option Resolution}
    (reached : ∀ definition, nested = some definition → given definition.withOwnResolver) :
    (@applyGroupEffect react given context selection effect nested reached).Honours context := by
  refine fun _ _ _ _ => ⟨trivial, ?_⟩
  cases nested with
  | none => trivial
  | some definition => exact fun _ _ => trivial

theorem honours_selectFromGroup (shape : GroupShape) {nested : Option Resolution}
    (reached : ∀ definition, nested = some definition → given definition.withOwnResolver) :
    (@selectFromGroup react given context shape nested reached).Honours context := by
  refine fun _ _ => ⟨trivial, fun selection => ⟨fun id picked => ?_, ?_⟩⟩
  · dsimp only
    rw [picked]
    exact .of_reactionOf fun response truthy => by rw [if_pos truthy]
  · dsimp only
    generalize Effect.pickedCreature selection = picked
    cases picked with
    | none => exact honours_applyGroupEffect selection shape.effect reached
    | some creature => exact honours_applyGroupEffect selection shape.effect reached

/-- Nothing more is asked after a pick of friendly creatures. -/
theorem honours_pickFriendly {rule : Card → Bool} {missing title : String}
    {change : CardId → Engine Outcome} (straight : ∀ target, Straight (change target)) :
    (@pickFriendly react given context rule missing title change straight).Honours context :=
  fun _ _ => ⟨trivial, fun _ _ => honours_pickOwn fun _ => trivial⟩

theorem honours_selectPredatorForEndEffect (tokenId : Value) :
    (@selectPredatorForEndEffect react given context tokenId).Honours context :=
  fun _ _ => ⟨trivial, fun _ _ => honours_pickOwn fun _ => trivial⟩

theorem honours_tutorFrom (valid : Places) :
    (@tutorFrom react given context valid).Honours context :=
  match valid with
  | [] => trivial
  | [_] => trivial
  | _ :: _ :: _ => fun _ => trivial

theorem honours_playSpell (several : Bool) (left step : Nat) (chosen : List CardId)
    (spell : CardId) :
    (@playSpell react given context several left step chosen spell).Honours context := by
  induction left generalizing step chosen spell with
  | zero => trivial
  | succ left ih => exact fun _ _ _ _ => ⟨fun _ _ => trivial, fun spell => ih _ _ spell⟩

theorem honours_selectForBuff (preyOnly : Bool) (stats : Stats) :
    (@selectForBuff react given context preyOnly stats).Honours context :=
  honours_pickAny _ fun _ => .pure _

end Picks

section Menus

variable {context : Context}

theorem honours_onOption {α : Type} {entries : List MenuEntry} {options : List α}
    {effect : α → Effect}
    {each : (option : α) → option ∈ options → Procedure react given (effect option context)}
    (honours : ∀ option member, (each option member).Honours context) (choice : Choice) :
    (@onOption react given context α entries options effect each choice).Honours context := by
  cases choice with
  | option place =>
      unfold onOption
      dsimp only
      split
      · exact fun _ _ => honours _ _
      · trivial
      · trivial
  | _ => trivial

theorem honours_offered {α : Type} {title : String} {entries : List MenuEntry} {options : List α}
    {effect : α → Effect}
    {each : (option : α) → option ∈ options → Procedure react given (effect option context)}
    (honours : ∀ option member, (each option member).Honours context) :
    (@offered react given context α title entries options effect each).Honours context := by
  unfold offered
  split
  · exact fun _ _ => honours _ _
  all_goals exact honours_onOption honours

theorem honours_resolveOption (effect : Value) {nested : Resolution}
    (reached : Layout.isDefinition effect context = true → given nested.withOwnResolver) :
    (@resolveOption react given context effect nested reached).Honours context := by
  unfold resolveOption
  split
  · trivial
  · trivial

theorem honours_chooseOption (title : Option String) {options : List (OptionShape × Resolution)}
    (reached : ∀ option ∈ options, Layout.isDefinition option.1.effect context = true →
      given option.2.withOwnResolver) :
    (@chooseOption react given context title options reached).Honours context :=
  ⟨trivial, honours_offered fun _ _ => honours_resolveOption _ _⟩

theorem honours_chooseDefinition {choices : List (ChoiceShape × Resolution)}
    (reached : ∀ choice ∈ choices, given choice.2.withOwnResolver) :
    (@chooseDefinition react given context choices reached).Honours context :=
  ⟨trivial, honours_offered fun _ _ => trivial⟩

theorem honours_conditional (condition : Condition) (whenTrue : Effect) (whenFalse : Option Effect)
    (isGiven : given whenTrue) (reached : ∀ effect, whenFalse = some effect → given effect) :
    (@conditional react given context condition whenTrue whenFalse isGiven reached).Honours
      context := by
  refine fun _ _ _ _ => ⟨trivial, ?_⟩
  cases whenFalse with
  | none => trivial
  | some effect => trivial

end Menus

end Procedure

/-- Effect types whose picked creatures are not asked, or do not decide alone. -/
def EffectKind.overrulesReactions : EffectKind → Bool
  | stealCreature | webTarget | damageEqualToStalkBonus | damageEqualToTotalShell
  | eatPreyInsteadOfAttacking => true
  | _ => false

theorem EffectKind.honours_procedure {react : Reactor} {given : Effect → Prop}
    {argument : Nat → Value} {context : Context} (kind : EffectKind)
    (asks : kind.overrulesReactions = false) :
    (kind.procedure react given argument context).Honours context := by
  cases kind
  case selectEnemyToKill => exact Procedure.honours_selectEnemyToKill
  case selectEnemyToFreeze => exact Procedure.honours_selectEnemyToFreeze
  case selectEnemyToReturn => exact Procedure.honours_selectEnemyToReturn _
  case selectEnemyToReturnToOpponentHand => exact Procedure.honours_selectEnemyToReturn _
  case selectEnemyCreatureForDamage => exact Procedure.honours_selectEnemyCreatureForDamage _ _
  case selectEnemyPreyToConsume => exact Procedure.honours_selectEnemyPreyToConsume
  case selectCreatureToRestore => exact Procedure.honours_selectCreatureToRestore
  case selectCreatureToCopy => exact Procedure.honours_selectCreatureToCopy
  case selectCreatureToTransform => exact Procedure.honours_selectCreatureToTransform _
  case selectEnemyForKeyword => exact Procedure.honours_selectEnemyForKeyword _
  case selectCreatureForDamage => exact Procedure.honours_selectCreatureForDamage _ _
  case damageRivalAndSelectEnemy => exact Procedure.honours_damageRivalAndSelectEnemy _ _
  case selectTargetForDamage =>
    intro board _
    exact Procedure.honours_damagePicked _ _
  case healAndSelectTargetForDamage =>
    intro told _ board _
    exact Procedure.honours_damagePicked _ _
  case grantPride => exact Procedure.honours_pickFriendly Effect.straight_joinPride
  case chasePrey => exact Procedure.honours_pickFriendly (Effect.straight_giveChase _)
  case grantShell => exact Procedure.honours_pickFriendly (Effect.straight_growShell _)
  case grantMolt => exact Procedure.honours_pickFriendly Effect.straight_learnMolt
  case selectPredatorForEndEffect => exact Procedure.honours_selectPredatorForEndEffect _
  case drawAndEmpowerPredator =>
    intro board _
    constructor
    · intro told _
      trivial
    · intro told _
      exact Procedure.honours_selectPredatorForEndEffect _
  -- A discarded card is no creature of the rival, but what is killed for it may be.
  case discardDrawAndKillEnemy =>
    intro board _ player _
    constructor
    · trivial
    · intro candidates _
      exact Procedure.honours_pickOwn Procedure.honours_discardThenKill
  case selectCardToDiscard | selectAndDiscard =>
    intro board _ player _
    constructor
    · trivial
    · intro candidates _
      exact Procedure.honours_pickOwn fun card => trivial
  case enterStalkMode | selectFriendlyCreatureToSacrifice | forceOpponentDiscard =>
    intro board _
    constructor
    · trivial
    · intro found _
      exact Procedure.honours_pickOwn fun card => trivial
  case drawThenDiscard =>
    intro told _ card
    trivial
  -- Cards of the deck and spells of the hand.
  case selectCreatureFromDeckWithKeyword =>
    intro board _ player _
    constructor
    · trivial
    · exact Procedure.honours_pickOwn fun card => trivial
  case tutorFromDeck =>
    intro board _ player _
    constructor
    · trivial
    · exact Procedure.honours_tutorFrom _
  case playSpellFromHand =>
    intro board _ spells _
    constructor
    · trivial
    · refine Procedure.honours_pickOwn fun spell => ?_
      intro later _ told _
      trivial
  case playSpellsFromHand =>
    intro board _ spells _
    constructor
    · trivial
    · intro rounds _
      exact Procedure.honours_pickOwn (Procedure.honours_playSpell _ _ _ _)
  case tutorAndPlaySpell =>
    intro board _ player _
    constructor
    · trivial
    · intro spell later _ told _
      constructor
      · intro drawn _
        trivial
      · intro played
        trivial
  all_goals trivial

theorem Effect.eatenUnlessReturned_eatPicked (react : Reactor) (context : Context)
    (target : CardId) :
    EatenUnlessReturned react context target (eatPicked react context target) := by
  intro board session response after reacted truthy
  rw [← Procedure.eatPicked_eq, bind_of_ok reacted, Procedure.returnsToHand, if_pos truthy]
  exact ⟨fun returns => by rw [returns]; rfl, fun stays => by rw [stays]; rfl⟩

/-- Invocations whose picked creatures are not asked, or do not decide alone. -/
def Invocation.overrulesReactions {α : Type} : Invocation α → Bool
  | direct kind _ => kind.overrulesReactions
  | destroy _ | addKeyword _ | buff _ | selectTarget _ _ | selectTargetIdly _ => true
  | _ => false

/-- Every pick honours the reaction of the picked creature.  Whatever an invocation lets
a player pick, at once or in a continuation, a creature of the rival among it is asked for
its reaction once, and what it answers with replaces the result.  Where prey is eaten
instead of an attack, only its return to hand does.  Nothing is said about the picks after
which no creature is asked. -/
theorem picks_honour_the_reactions_of_creatures (react : Reactor) (settings : Settings)
    (context : Context) :
    (∀ asked : Invocation Resolution, asked.overrulesReactions = false →
      (asked.procedure react settings context).Honours context) ∧
    ∀ arguments, ((Invocation.direct .eatPreyInsteadOfAttacking arguments).procedure react settings
      context).EveryPick (EatenUnlessReturned react context) := by
  refine ⟨fun asked asks => ?_, fun arguments _ _ =>
    ⟨trivial, fun target => ⟨fun _ => ?_, trivial⟩⟩⟩
  · cases asked with
    | direct kind arguments => exact kind.honours_procedure asks
    | buffStats targetType attack health => trivial
    | selectForBuff preyOnly stats => exact Procedure.honours_selectForBuff preyOnly stats
    | destroy shape => cases asks
    | addKeyword shape => cases asks
    | buff shape => cases asks
    | composite effects => trivial
    | repeated nested count => trivial
    | conditional condition whenTrue whenFalse => exact Procedure.honours_conditional _ _ _ _ _
    | selectTarget pool nested => cases asks
    | selectConsume cardType count nested =>
        cases nested with
        | none => trivial
        | some nested => exact fun _ _ _ _ => ⟨trivial, trivial⟩
    | selectTargetIdly pool => cases asks
    | selectConsumeNoting cardType count note => trivial
    | selectFromGroup shape nested => exact Procedure.honours_selectFromGroup shape _
    | chooseOption title options =>
        exact Procedure.honours_chooseOption title fun _ member => .option member
    | choice choices => exact Procedure.honours_chooseDefinition fun _ member => .choice member
  · exact Effect.eatenUnlessReturned_eatPicked react context target

/-- The picked creature decides whether it is killed. -/
theorem a_kill_honours_reactions :
    (Invocation.direct EffectKind.selectEnemyToKill [] : Invocation Resolution).overrulesReactions =
      false ∧
    ((Invocation.direct EffectKind.selectEnemyToKill []).procedure (reactWithin reactionPatience) {}
      duel).Honours duel := by
  have asks : (Invocation.direct EffectKind.selectEnemyToKill [] :
      Invocation Resolution).overrulesReactions = false := rfl
  exact ⟨asks, (picks_honour_the_reactions_of_creatures _ _ _).1 _ asks⟩

/-- A creature that answers whatever selects it with healing. -/
def mirror : CardId := ⟨"mirror"⟩

def reflection : Script := .record [("heal", .value (.int 1))]

/-- The rival has two preys, one of which answers whatever selects it; the acting player
has a creature with a shell that has built up a bonus. -/
def mirrorBoard : Board where
  card id :=
    { cardId := id.key, instanceId := id.key, stalkBonus := 1, shellLevel := 1
      keywords := if id = hunter then [Keyword.shell.name] else []
      reaction := if id = mirror then some (.answer reflection) else none }
  players := [{ field := [some hunter] }, { field := [some mirror, some calm, none] }]

/-- What a run comes to once a creature was picked. -/
def afterPicking (id : CardId) (running : Engine Outcome) (board : Board) (session : Session) :
    Except Failure Outcome :=
  match (running board session).1 with
  | .ok (.record [("select_target", .question _ answer)]) => (answer (.card id) board session).1
  | other => other

/-- Picks of every kind that overrules reactions. -/
def overrulingPicks : List (Invocation Resolution) :=
  [.direct .eatPreyInsteadOfAttacking [], .direct .stealCreature [.text "target"],
    .direct .webTarget [], .direct .damageEqualToStalkBonus [], .direct .damageEqualToTotalShell [],
    .destroy { target := "targetEnemy" },
      .addKeyword { keyword := "Frozen", target := some "targetCreature" },
    .buff { target := some "targetEnemy" },
    .selectTarget (.text "enemy") fun _ => Effect.killCreature (.text "target")]

/-- The mirror is picked and has an answer, but none of these picks comes to it. -/
theorem overruling_picks_come_to_something_else :
    let react := reactWithin reactionPatience
    let context := { duel with creature := some hunter }
    let session := (default : Moment).session
    reactionOf react mirror none context mirrorBoard session = (.ok reflection.outcome, session) ∧
    reflection.outcome.isTruthy = true ∧
    ∀ asked ∈ overrulingPicks,
      afterPicking mirror (asked.effect react {} context) mirrorBoard session ≠
        .ok reflection.outcome := by
  intro react context session
  refine ⟨rfl, rfl, fun asked member same => ?_⟩
  have without : (afterPicking mirror (asked.effect react {} context) mirrorBoard session).map
      (Outcome.mentions "heal") = .ok (.ok false) := by
    simp only [overrulingPicks, List.mem_cons, List.not_mem_nil, or_false] at member
    rcases member with rfl | rfl | rfl | rfl | rfl | rfl | rfl | rfl | rfl
    -- the bound on numbers that can be shown is too long to be unfolded by `rfl`
    all_goals decide +kernel
  rw [same] at without
  cases without

end CreatureCards
