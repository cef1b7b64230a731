import CreatureCards.Proofs.BrokenAnswer
import CreatureCards.Proofs.ValidatedDefinition

/-!
# Resolving validated definitions

A definition without errors that conceals nothing never surprises where no card
reacts: neither resolving it nor showing or answering any question that comes up
on the way blames a definition, and the effects that are handed to the keeper of
the game come to nothing else.  What a check does not look at may surprise all
the same.
-/

namespace CreatureCards

open Engine

namespace Walk

variable {admits : Board → Prop}

theorem tame_start {outcome : Outcome} (tame : Outcome.Tame admits outcome) {walk : Walk}
    (started : start outcome = .ok walk) : walk.Tame admits := by
  have empty : ({} : Walk).Tame admits := ⟨by simp, by simp, by simp⟩
  have taken := empty.take tame.orNothing
  unfold start at started
  split at started
  · cases started
  · rename_i next same
    cases started
    rw [same] at taken
    exact taken

theorem blameless_start (outcome : Outcome) : FailsBlameless (start outcome) := by
  intro failure failed
  unfold start at failed
  split at failed
  · rename_i next fault same
    cases failed
    exact (isShapeFault_of_take (congrArg Prod.snd same)).not_blamesDefinition
  · cases failed

/-- Nothing that the walk does next blames a definition where no card reacts:
neither showing its question nor answering it, nor the effects among what it has
collected so far. -/
structure Unsurprising (walk : Walk) : Prop where
  shown : ∀ board, FailsBlameless (walk.candidates board)
  answers : ∀ moment : Moment, moment.board.Unreactive →
    moment.session.Blameless (walk.answered moment).2 ∧ FailsBlameless (walk.answered moment).1.1
  applied : ∀ result ∈ walk.applied, Outcome.Tame Board.Unreactive result

theorem Tame.shown {walk : Walk} (tame : walk.Tame admits) (board : Board) :
    FailsBlameless (walk.candidates board) := by
  unfold candidates
  split
  · rename_i pick answer asked
    exact (tame.current _ asked).shown board
  · exact .ok []

/-- An answer on an admitted board blames no definition, and leaves a tame walk. -/
theorem Tame.answered {walk : Walk} (tame : walk.Tame admits) {moment : Moment}
    (admitted : admits moment.board) :
    (moment.session.Blameless (walk.answered moment).2 ∧
      FailsBlameless (walk.answered moment).1.1) ∧ (walk.answered moment).1.2.Tame admits := by
  unfold Walk.answered submit
  cases asked : walk.current with
  | none => exact ⟨⟨.refl _, .error id⟩, tame⟩
  | some question =>
      have opened : ({ walk with current := none } : Walk).Tame admits :=
        ⟨tame.applied, tame.queue, by simp⟩
      have passes :=
        (tame.current question asked).answer moment.choice moment.board admitted moment.session
      dsimp only
      generalize question.answer moment.choice moment.board moment.session = ran at passes ⊢
      cases passes with
      | failed blameless unblamed => exact ⟨⟨blameless, .error unblamed⟩, opened⟩
      | @ok outcome after blameless isTame =>
          have taken := opened.take isTame.orNothing
          unfold Walk.reply
          dsimp only
          rcases took : ({ walk with current := none } : Walk).take outcome.orNothing with
            ⟨next, _ | failure⟩
          · rw [took] at taken
            exact ⟨⟨blameless, ((Outcome.shapely_combine _).weaken fun _ fault =>
              fault.not_blamesDefinition).map _⟩, taken⟩
          · rw [took] at taken
            have fault := isShapeFault_of_take (congrArg Prod.snd took)
            exact ⟨⟨blameless, .error fault.not_blamesDefinition⟩, taken⟩

theorem Tame.after {walk : Walk} (tame : walk.Tame admits) {moments : List Moment}
    (admitted : ∀ moment ∈ moments, admits moment.board) : (walk.after moments).Tame admits := by
  induction moments generalizing walk with
  | nil => exact tame
  | cons moment moments ih =>
      obtain ⟨here, later⟩ := List.forall_mem_cons.1 admitted
      exact ih (tame.answered here).2 later

theorem Tame.unsurprising {walk : Walk} (tame : walk.Tame Board.Unreactive) : walk.Unsurprising :=
  ⟨tame.shown, fun _ unreactive => (tame.answered unreactive).1, tame.applied⟩

end Walk

/-- A definition conceals nothing if it neither spreads nor shadows anything and
its nested definitions conceal nothing. -/
theorem not_conceals {definition : Value}
    (listed : EffectKind.ofValue? (definition.get "type") = some .composite → ∀ fields,
      (definition.get "params").get "effects" ≠ .object fields)
    (noPick : EffectKind.ofValue? (definition.get "type") ≠ some .selectFromGroup)
    (each : ∀ nested ∈ (Reading.ofValue definition).pursued, ¬ Conceals nested) :
    ¬ Conceals definition := by
  rintro (⟨isComposite, isObject, -⟩ | ⟨isPick, -, -, -⟩ | ⟨member, conceals⟩)
  · exact listed isComposite _ isObject
  · exact noPick isPick
  · exact each _ member conceals

section Samples

open Validation

theorem checkDefinition_menuOf (title path : String) :
    checkDefinition (menuOf title .null) path = .ok .none := by
  refine checkDefinition_of_kind rfl (by decide) (fun _ => rfl) (fun _ => ?_) path
  rw [checkParams]
  rfl

theorem checkDefinition_putOffMenus (path : String) :
    checkDefinition putOffMenus path = .ok .none := by
  have both (path : String) :
      checkDefinition (sideBySideOf [menuOf "first" .null, menuOf "second" .null]) path =
        .ok .none := by
    refine checkDefinition_of_kind rfl (by decide) (fun _ => rfl) (fun _ => ?_) path
    rw [checkParams]
    exact (if_pos rfl).trans (checkDefinition_list (by simp [checkDefinition_menuOf]) _)
  exact checkDefinition_list (by simp [both, checkDefinition_menuOf]) path

theorem not_conceals_menuOf (title : String) : ¬ Conceals (menuOf title .null) := by
  have isMenu : EffectKind.ofValue? ((menuOf title .null).get "type") = some .chooseOption := rfl
  have nests : (Reading.ofValue (menuOf title .null)).pursued = [] := rfl
  refine not_conceals (by simp [isMenu]) (by simp [isMenu]) ?_
  simp [nests]

theorem not_conceals_putOffMenus : ¬ Conceals putOffMenus := by
  have both : ¬ Conceals (sideBySideOf [menuOf "first" .null, menuOf "second" .null]) := by
    have isComposite : EffectKind.ofValue?
      ((sideBySideOf [menuOf "first" .null, menuOf "second" .null]).get "type") =
        some .composite := rfl
    refine not_conceals (fun _ _ isObject => nomatch isObject) (by simp [isComposite]) ?_
    change ∀ nested ∈ [menuOf "first" .null, menuOf "second" .null], _
    simp [not_conceals_menuOf]
  have untyped : EffectKind.ofValue? (putOffMenus.get "type") = none := rfl
  refine not_conceals (by simp [untyped]) (by simp [untyped]) ?_
  change ∀ nested ∈ [sideBySideOf [menuOf "first" .null, menuOf "second" .null],
    menuOf "third" .null], _
  simp [both, not_conceals_menuOf]

/-- A composite whose effects are a single definition. -/
def unlistedEffects : Value :=
  .object [("params", .object [("effects", .object
      [("params", .object [("amount", .int 1)]), ("type", .text "heal")])]),
    ("type", .text "composite")]

/-- A group effect with a shortcut that does nothing to a player, and an unknown
effect type. -/
def shadowedType : Value :=
  .object [("params", .object [("effect", .object [("draw", .int 1), ("type", .text "bogus")]),
      ("targetGroup", .text "self")]),
    ("type", .text "selectFromGroup")]

theorem checkDefinition_unlistedEffects (path : String) :
    checkDefinition unlistedEffects path = .ok .none := by
  refine checkDefinition_of_kind rfl (by decide) (fun _ => rfl) (fun _ => ?_) path
  rw [checkParams]
  refine (if_pos rfl).trans
    (checkDefinition_of_kind rfl (by decide) (fun _ => rfl) (fun _ => ?_) _)
  rw [checkParams.eq_def]
  rfl

theorem checkDefinition_shadowedType (path : String) :
    checkDefinition shadowedType path = .ok .none := by
  refine checkDefinition_of_kind rfl (by decide) (fun _ => rfl) (fun _ => ?_) path
  rw [checkParams, checkGroupEffect.eq_def]
  rfl

theorem resolveWith_text (react : Reactor) (settings : Settings) (context : Context)
    {content : String} (present : content ≠ "") :
    resolveWith react (.text content) settings context = (do
      let _ ← context.adopt settings
      refuseMalformed settings (.notDefinition "str")) := by
  refine resolveWith_of_malformed ?_
  unfold Reading.ofValue
  exact if_neg (by simpa [Value.isTruthy] using present)

/-- The effects of the composite are taken for the list of their keys. -/
theorem resolve_unlistedEffects (settings : Settings) :
    resolve unlistedEffects settings duel = (do
      let first ← refuseMalformed settings (.notDefinition "str")
      let second ← refuseMalformed settings (.notDefinition "str")
      return (Outcome.collect [first, second]).orNothing) := by
  have read : Reading.ofValue unlistedEffects =
    .invocation (.composite [.text "params", .text "type"]) := rfl
  have adopts : duel.adopt settings = pure duel := rfl
  have params := resolveWith_text (reactWithin reactionPatience) settings duel
    (by decide : "params" ≠ "")
  have type := resolveWith_text (reactWithin reactionPatience) settings duel
    (by decide : "type" ≠ "")
  rw [resolve, resolveWith_of_invocation read, adopts, pure_bind]
  change (do return (← Effect.composite
    [resolveWith (reactWithin reactionPatience) (.text "params") settings,
      resolveWith (reactWithin reactionPatience) (.text "type") settings] duel).orNothing) = _
  simp only [Effect.composite, List.mapM_cons, List.mapM_nil, params, type, adopts, bind_assoc,
    pure_bind]

/-- Nobody has a card. -/
def quiet : Moment := { (default : Moment) with board.players := [{}, {}] }

/-- A player is picked, to whom no shortcut applies. -/
theorem resolve_shadowedType :
    resolve shadowedType {} duel quiet.board quiet.session =
      (.ok .nothing, quiet.session.warn (.unknownEffect (.text "bogus"))) := by
  have read : Reading.ofValue shadowedType = .invocation (.selectFromGroup
      { targetGroup := "self", effect := { shortcuts := { draw := some 1 }, type := some "bogus" } }
      (some (Value.definition (.text "bogus") []))) := rfl
  have nested : resolveWith (reactWithin reactionPatience) (Value.definition (.text "bogus") []) =
      (fun settings context => do
        let _ ← context.adopt settings
        refuseUnknown settings (.text "bogus")) :=
    funext fun _ => funext fun _ => resolveWith_of_unknown rfl
  have adopts (settings : Settings) : duel.adopt settings = pure duel := rfl
  rw [resolve, resolveWith_of_invocation read, adopts, pure_bind]
  dsimp only [Invocation.mapDefinitions, Invocation.effect]
  simp only [Option.attach_map_val, Option.map_some, nested]
  rfl

end Samples

/-- Where no card reacts, resolving a definition without errors that conceals
nothing blames no definition, under any settings, in any context and in any
session; and neither does a walk through what it comes to, however it is
answered. -/
theorem validated_definitions_never_surprise {definition : Value} {path : String}
    (valid : Validation.definitionErrors definition path = .ok []) (plain : ¬ Conceals definition)
    (settings : Settings) (context : Context) {board : Board} (unreactive : board.Unreactive)
    (session : Session) :
    Passes
      (fun outcome => FailsBlameless (Walk.start outcome) ∧
        ∀ walk, Walk.start outcome = .ok walk → ∀ moments : List Moment,
          (∀ moment ∈ moments, moment.board.Unreactive) → (walk.after moments).Unsurprising)
      session (resolve definition settings context board session) := by
  have approved : Validation.Approved definition := fun _ =>
    ⟨path, Validation.clean_of_definitionErrors valid⟩
  have harmless := (usable_of_approved approved plain).harmless
    (silent_reactWithin reactionPatience) settings context
  refine (harmless.weaken fun outcome tame => ?_) board unreactive session
  refine ⟨Walk.blameless_start outcome, fun walk started moments admitted => ?_⟩
  exact ((Walk.tame_start tame started).after admitted).unsurprising

/-- Menus in a composite, ahead of another menu, surprise nobody, however they are
answered. -/
theorem resolving_putOffMenus_never_surprises :
    Validation.definitionErrors putOffMenus "effect" = .ok [] ∧ ¬ Conceals putOffMenus ∧
      quiet.board.Unreactive ∧
      Passes
        (fun outcome => FailsBlameless (Walk.start outcome) ∧
          ∀ walk, Walk.start outcome = .ok walk → ∀ moments : List Moment,
            (∀ moment ∈ moments, moment.board.Unreactive) → (walk.after moments).Unsurprising)
        quiet.session (resolve putOffMenus { strict := true } duel quiet.board quiet.session) := by
  have valid : Validation.definitionErrors putOffMenus "effect" = .ok [] :=
    Validation.definitionErrors_of_checkDefinition (checkDefinition_putOffMenus _)
  have unreactive : quiet.board.Unreactive := fun _ => rfl
  exact ⟨valid, not_conceals_putOffMenus, unreactive,
    validated_definitions_never_surprise valid not_conceals_putOffMenus { strict := true } duel
      unreactive quiet.session⟩

/-- Both definitions are without errors, and both are reported when they are
resolved: the keys of the one are no definitions, and the type of the other is
unknown.  Under strict settings the first is refused. -/
theorem validated_definitions_surprise :
    (Validation.definitionErrors unlistedEffects "effect" = .ok [] ∧
      (resolve unlistedEffects {} duel quiet.board quiet.session).2.warnings =
        [.malformed (.notDefinition "str"), .malformed (.notDefinition "str")] ∧
      (resolve unlistedEffects { strict := true } duel quiet.board quiet.session).1 =
        .error (.invalidDefinition [(Malformation.notDefinition "str").text])) ∧
    Validation.definitionErrors shadowedType "effect" = .ok [] ∧
      (resolve shadowedType {} duel quiet.board quiet.session).2.warnings =
        [.unknownEffect (.text "bogus")] := by
  refine ⟨⟨Validation.definitionErrors_of_checkDefinition
    (checkDefinition_unlistedEffects _), ?_, ?_⟩,
    Validation.definitionErrors_of_checkDefinition (checkDefinition_shadowedType _), ?_⟩
  · rw [resolve_unlistedEffects]
    rfl
  · rw [resolve_unlistedEffects]
    rfl
  · rw [resolve_shadowedType]
    rfl

end CreatureCards
