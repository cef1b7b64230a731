import CreatureCards.Proofs.BrokenAnswer
import CreatureCards.Proofs.FairPick
import CreatureCards.Proofs.ProcedureTable

/-!
# Lure and invisibility bind every pick

Picks from target groups and whatever menus lead to are fair as well, so
everything that an invocation asks obeys the law of targeting: each creature of
the rival that is offered can be selected, and one with Lure leaves nothing but
such creatures.
-/

namespace CreatureCards

open Engine

namespace Procedure

variable {react : Reactor} {given : Effect → Prop}

section Groups

variable {context : Context} {board : Board}

/-- A target group that is known is looked for on the board, and nothing is found
under another name. -/
theorem lawful_groupTargets (separated : board.Separated context) {group : Value}
    {candidates : List Candidate}
    (ran : ∃ session after, groupTargets group context board session = (.ok candidates, after))
    (nonempty : ¬ candidates.isEmpty = true) :
    Lawful board context (((TargetGroup.ofValue? group).bind (Demand.ofGroup context)).map
      fun rule => rule board) (candidates.map Candidate.subject) := by
  obtain ⟨session, after, ran⟩ := ran
  unfold groupTargets at ran
  cases named : TargetGroup.ofValue? group with
  | none =>
      rw [named] at ran
      cases ran
      exact absurd rfl nonempty
  | some known =>
      rw [named] at ran
      change Engine.orFail (board.groupCandidates context known) board session = _ at ran
      cases found : board.groupCandidates context known with
      | error failure =>
          rw [found] at ran
          cases ran
      | ok members =>
          rw [found] at ran
          cases ran
          exact .of_groupCandidates separated found

theorem fair_applyGroupEffect (selection : TargetRef) (effect : GroupEffect)
    {nested : Option Resolution}
    (reached : ∀ definition, nested = some definition → given definition.withOwnResolver) :
    (@applyGroupEffect react given context selection effect nested reached).Fair context board := by
  refine fair_reading fun _ _ _ => ⟨fun _ => trivial, fun _ => ?_⟩
  cases nested with
  | none => trivial
  | some definition =>
      rintro value - ⟨session, after, ran⟩
      cases ran
      exact ⟨rfl, rfl, rfl⟩

theorem fair_selectFromGroup (separated : board.Separated context) (shape : GroupShape)
    {nested : Option Resolution}
    (reached : ∀ definition, nested = some definition → given definition.withOwnResolver) :
    (@selectFromGroup react given context shape nested reached).Fair context board := by
  refine fun candidates _ ran => ⟨fun _ => trivial, fun nonempty =>
    ⟨lawful_groupTargets separated ran nonempty, fun moment _ selection => ?_⟩⟩
  dsimp only
  generalize Effect.pickedCreature selection = picked
  cases picked with
  | none => exact fair_applyGroupEffect selection shape.effect reached
  | some creature => exact fair_applyGroupEffect selection shape.effect reached

end Groups

section Menus

variable {context : Context} {board : Board}

theorem fair_onOption {α : Type} {entries : List MenuEntry} {options : List α}
    {effect : α → Effect}
    {each : (option : α) → option ∈ options → Procedure react given (effect option context)}
    (fair : ∀ option member, ∀ moment, (each option member).Fair context moment)
    (choice : Choice) :
    (@onOption react given context α entries options effect each choice).Fair context board := by
  cases choice with
  | option place =>
      unfold onOption
      dsimp only
      split
      · exact fair_telling (fair _ _ board)
      · trivial
      · trivial
  | _ => trivial

theorem fair_offered {α : Type} {title : String} {entries : List MenuEntry} {options : List α}
    {effect : α → Effect}
    {each : (option : α) → option ∈ options → Procedure react given (effect option context)}
    (fair : ∀ option member, ∀ moment, (each option member).Fair context moment) :
    (@offered react given context α title entries options effect each).Fair context board := by
  unfold offered
  split
  · exact fair_telling (fair _ _ board)
  all_goals exact fun _ _ choice => fair_onOption fair choice

theorem fair_resolveOption (effect : Value) {nested : Resolution}
    (reached : Layout.isDefinition effect context = true → given nested.withOwnResolver) :
    (@resolveOption react given context effect nested reached).Fair context board := by
  unfold resolveOption
  split
  · exact ⟨rfl, rfl, rfl⟩
  · trivial

theorem fair_chooseOption (title : Option String) {options : List (OptionShape × Resolution)}
    (reached : ∀ option ∈ options, Layout.isDefinition option.1.effect context = true →
      given option.2.withOwnResolver) :
    (@chooseOption react given context title options reached).Fair context board :=
  ⟨fun _ => trivial, fun _ => fair_offered fun _ _ _ => fair_resolveOption _ _⟩

theorem fair_chooseDefinition {choices : List (ChoiceShape × Resolution)}
    (reached : ∀ choice ∈ choices, given choice.2.withOwnResolver) :
    (@chooseDefinition react given context choices reached).Fair context board :=
  ⟨fun _ => trivial, fun _ => fair_offered fun _ _ _ => ⟨rfl, rfl, rfl⟩⟩

theorem fair_conditional (condition : Condition) (whenTrue : Effect) (whenFalse : Option Effect)
    (isGiven : given whenTrue) (reached : ∀ effect, whenFalse = some effect → given effect) :
    (@conditional react given context condition whenTrue whenFalse isGiven reached).Fair context
      board := by
  refine fair_reading fun _ _ _ => ⟨fun _ => ⟨rfl, rfl, rfl⟩, fun _ => ?_⟩
  cases whenFalse with
  | none => trivial
  | some effect => exact ⟨rfl, rfl, rfl⟩

end Menus

end Procedure

theorem EffectKind.fair_procedure {react : Reactor} {given : Effect → Prop}
    {argument : Nat → Value} {context : Context} {board : Board}
    (separated : board.Separated context) (kind : EffectKind) :
    (kind.procedure react given argument context).Fair context board := by
  cases kind
  case stealCreature => exact Procedure.fair_stealCreature _
  case selectPredatorForEndEffect => exact Procedure.fair_selectPredatorForEndEffect separated _
  case selectCardToDiscard => exact Procedure.fair_selectCardToDiscard separated _
  case selectAndDiscard => exact Procedure.fair_selectAndDiscard separated _
  case selectEnemyToKill => exact Procedure.fair_selectEnemyToKill
  case tutorFromDeck => exact Procedure.fair_tutorFromDeck separated _
  case selectCreatureForDamage => exact Procedure.fair_selectCreatureForDamage separated _ _
  case selectTargetForDamage => exact Procedure.fair_selectTargetForDamage separated _ _
  case selectEnemyPreyToConsume => exact Procedure.fair_selectEnemyPreyToConsume
  case selectCreatureToRestore => exact Procedure.fair_selectCreatureToRestore separated
  case selectEnemyForKeyword => exact Procedure.fair_selectEnemyForKeyword _
  case selectEnemyCreatureForDamage => exact Procedure.fair_selectEnemyCreatureForDamage _ _
  case selectCreatureToCopy => exact Procedure.fair_selectCreatureToCopy separated
  case selectCreatureToTransform => exact Procedure.fair_selectCreatureToTransform separated _
  case damageRivalAndSelectEnemy => exact Procedure.fair_damageRivalAndSelectEnemy _ _
  case healAndSelectTargetForDamage =>
    exact Procedure.fair_healAndSelectTargetForDamage separated _ _
  case playSpellsFromHand => exact Procedure.fair_playSpellsFromHand separated _
  case webTarget => exact Procedure.fair_webTarget
  case enterStalkMode => exact Procedure.fair_enterStalkMode separated
  case grantPride => exact Procedure.fair_pickFriendly separated Effect.straight_joinPride
  case damageEqualToStalkBonus => exact Procedure.fair_damageEqualToStalkBonus
  case chasePrey => exact Procedure.fair_pickFriendly separated (Effect.straight_giveChase _)
  case grantShell => exact Procedure.fair_pickFriendly separated (Effect.straight_growShell _)
  case grantMolt => exact Procedure.fair_pickFriendly separated Effect.straight_learnMolt
  case damageEqualToTotalShell => exact Procedure.fair_damageEqualToTotalShell
  case selectEnemyToFreeze => exact Procedure.fair_selectEnemyToFreeze
  case selectCreatureFromDeckWithKeyword =>
    exact Procedure.fair_selectCreatureFromDeckWithKeyword separated _
  case selectFriendlyCreatureToSacrifice =>
    exact Procedure.fair_selectFriendlyCreatureToSacrifice separated
  case selectEnemyToReturn => exact Procedure.fair_selectEnemyToReturn _
  case discardDrawAndKillEnemy => exact Procedure.fair_discardDrawAndKillEnemy separated
  case drawThenDiscard => exact Procedure.fair_drawThenDiscard _ _
  case forceOpponentDiscard => exact Procedure.fair_forceOpponentDiscard separated _
  case tutorAndPlaySpell => exact Procedure.fair_tutorAndPlaySpell
  case playSpellFromHand => exact Procedure.fair_playSpellFromHand separated
  case selectEnemyToReturnToOpponentHand => exact Procedure.fair_selectEnemyToReturn _
  case drawAndEmpowerPredator => exact Procedure.fair_drawAndEmpowerPredator separated _ _
  case eatPreyInsteadOfAttacking => exact Procedure.fair_eatPreyInsteadOfAttacking
  all_goals trivial

/-- What is resolved for a picked target is resolved on the same behalf. -/
theorem fair_nestedTarget {react : Reactor} {settings : Settings} {context : Context}
    (pool : Value) (nested : Resolution) (aimed : Context) (acts : aimed.ActsFor context)
    (moment : Board) :
    (@Procedure.nested react ((Invocation.selectTarget pool nested).Reaches settings context) _
      aimed (.selectTarget pool nested)).Fair context moment :=
  acts

/-- Lure and invisibility bind every pick.  Whatever an invocation asks, on any
board on which no card object stands in two regions: each creature of the rival
among the candidates can be selected by the acting creature; one of them with Lure
leaves nothing but such creatures; and none with Lure that meets the demand of the
pick is left out where creatures of the rival are offered.  This holds of the
candidates at the time they are found, of those that continuations find later, of
those from which a single one is taken without asking and of those from which one
is drawn at random. -/
theorem lure_and_invisibility_bind_every_pick (react : Reactor) (settings : Settings)
    (asked : Invocation Resolution) {context : Context} {board : Board}
    (separated : board.Separated context) :
    (asked.procedure react settings context).Fair context board := by
  cases asked with
  | direct kind arguments => exact kind.fair_procedure separated
  | buffStats targetType attack health => trivial
  | selectForBuff preyOnly stats => exact Procedure.fair_selectForBuff separated preyOnly stats
  | destroy shape => exact Procedure.fair_destroy shape
  | addKeyword shape => exact Procedure.fair_addKeyword separated shape
  | buff shape => exact Procedure.fair_buff separated shape
  | composite effects => exact ⟨rfl, rfl, rfl⟩
  | repeated nested count => exact ⟨rfl, rfl, rfl⟩
  | conditional condition whenTrue whenFalse => exact Procedure.fair_conditional _ _ _ _ _
  | selectTarget pool nested =>
      exact Procedure.fair_selectTarget separated pool (fair_nestedTarget pool nested)
  | selectConsume cardType count nested =>
      cases nested with
      | none => trivial
      | some nested => exact Procedure.fair_selectConsume cardType count _
  | selectTargetIdly pool => exact Procedure.fair_selectTarget separated pool fun _ _ _ => trivial
  | selectConsumeNoting cardType count note => trivial
  | selectFromGroup shape nested => exact Procedure.fair_selectFromGroup separated shape _
  | chooseOption title options =>
      exact Procedure.fair_chooseOption title fun _ member => .option member
  | choice choices => exact Procedure.fair_chooseDefinition fun _ member => .choice member

/-- The rival has an invisible creature, an invisible one with Lure and a plain one,
and the acting player has a creature as well. -/
def luringBoard : Board where
  card id :=
    { cardId := id.key, instanceId := id.key
      keywords :=
        if id.key = "siren" then [Keyword.invisible.name, Keyword.lure.name]
        else if id.key = "ghost" then [Keyword.invisible.name] else [] }
  players :=
    [{ field := [some ⟨"friend"⟩] }, { field := [some ⟨"ghost"⟩, some ⟨"siren"⟩, some calm] }]

theorem holds_luringBoard {seat : Seat} {region : Region} {id : CardId}
    (holds : luringBoard.Holds duel seat region id) :
    region = .field ∧
      (seat = .acting ∧ id = ⟨"friend"⟩ ∨
        seat = .rival ∧ id ∈ [(⟨"ghost"⟩ : CardId), ⟨"siren"⟩, calm]) := by
  obtain ⟨player, seated, stands⟩ := holds
  cases seat with
  | acting =>
      cases seated
      cases region <;> simp_all [Player.region]
  | rival =>
      cases seated
      cases region <;> simp_all [Player.region]
  | beside place =>
      match place with
      | 0 => simp [Context.seated, duel] at seated
      | 1 => simp [Context.seated, duel] at seated
      | place + 2 => simp [Context.seated, duel, luringBoard] at seated

/-- On that board a menu among all creatures is left with the one that has Lure,
though it is invisible. -/
theorem picks_on_luringBoard_are_bound :
    luringBoard.Separated duel ∧
    luringBoard.mixedTargets duel anyCard = [⟨"siren"⟩] ∧
    ((Invocation.direct EffectKind.selectCreatureToCopy []).procedure
      (reactWithin reactionPatience) {} duel).Fair duel luringBoard := by
  have separated : luringBoard.Separated duel := by
    intro id seat other region another here there
    obtain ⟨rfl, place⟩ := holds_luringBoard here
    obtain ⟨rfl, otherPlace⟩ := holds_luringBoard there
    refine ⟨?_, rfl⟩
    rcases place with ⟨rfl, rfl⟩ | ⟨rfl, member⟩
    · rcases otherPlace with ⟨rfl, -⟩ | ⟨-, member⟩
      · rfl
      · simp [calm] at member
    · rcases otherPlace with ⟨-, rfl⟩ | ⟨rfl, -⟩
      · simp [calm] at member
      · rfl
  exact ⟨separated, by decide, lure_and_invisibility_bind_every_pick _ _ _ separated⟩

end CreatureCards
