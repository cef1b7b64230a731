import CreatureCards.Proofs.Agreement
import CreatureCards.Proofs.CorrespondingResolution
import CreatureCards.Proofs.Governance
import CreatureCards.Proofs.PaddedReading
import CreatureCards.Proofs.StuckCheck

/-!
# Effects that agree

What is the same in both runs needs no proof of its own.  It corresponds to itself when
nobody changes seats, and it is in accord with itself in contexts on the same seat, so it
keeps what is found there; both together make it agree with itself.

Effects that nest definitions agree if the nested ones do, however a definition that only
a menu shows was changed.
-/

namespace CreatureCards

open Engine

variable {holding : Holding}

/-- Everybody stays where they are. -/
def Seating.unmoved : Seating where
  place := id
  index := id
  injective := Function.injective_id
  opposite _ := rfl

section Unmoved

@[simp]
theorem Seating.place_unmoved : Seating.unmoved.place = id :=
  rfl

@[simp]
theorem Seating.index_unmoved : Seating.unmoved.index = id :=
  rfl

@[simp]
theorem TargetRef.reseated_unmoved (ref : TargetRef) : ref.reseated .unmoved = ref := by
  simp [TargetRef.reseated]

@[simp]
theorem Target.reseated_unmoved (target : Target) : target.reseated .unmoved = target := by
  cases target <;> simp [Target.reseated]

@[simp]
theorem Context.reseated_unmoved (context : Context) : context.reseated .unmoved = context := by
  have targets : Target.reseated .unmoved = id := funext Target.reseated_unmoved
  simp [Context.reseated, targets]

@[simp]
theorem Choice.reseated_unmoved (choice : Choice) : choice.reseated .unmoved = choice := by
  cases choice <;> simp [Choice.reseated]

@[simp]
theorem Candidate.reseated_unmoved (candidate : Candidate) :
    candidate.reseated .unmoved = candidate := by
  simp [Candidate.reseated]

end Unmoved

/-- A game and itself, where something was also reported. -/
def Correspondence.unmoved : Correspondence where
  seating := .unmoved
  moments board players := players = board.players
  sessions := Session.AlsoWarned
  acts _ := True
  written _ := False
  astray _ := False
  seats := by
    rintro board _ rfl
    exact ⟨fun _ => rfl, fun _ => rfl, fun _ => rfl⟩
  announced more := more.announce
  warned more := more.warn
  redrawn more := more.redraw
  occupied more seat settings :=
    ⟨more.log, more.random, congrArg ((seat, settings) :: ·) more.seats, more.warnings⟩
  random more := more.random
  taken more := more.seats
  passed acting _ _ _ := acting
  known _ := .inr rfl

@[simp]
theorem Correspondence.seating_unmoved : Correspondence.unmoved.seating = .unmoved :=
  rfl

/-- Contexts on the same seat. -/
def Holding.pairing (holding : Holding) : Pairing where
  seat := holding.seat
  otherSeat := holding.seat
  settings := holding.settings
  otherSettings := holding.settings
  parts := false
  suited := .refl holding.settings

section Transfer

variable {α β : Type} {fits : α → β → Prop} {fitsSelf : α → α → Prop} {running : Engine α}
  {other : Engine β}

theorem Matched.self {made : Except Failure α} (matched : Matched fitsSelf made made) {value : α}
    (same : made = .ok value) : fitsSelf value value := by
  subst same
  cases matched with
  | ok isFit => exact isFit

/-- Where the runs never part, both come to results that fit. -/
theorem Accord.comes {pairing : Pairing} (whole : pairing.parts = false) {before : Session}
    {left : Except Failure α × Session} {right : Except Failure β × Session}
    (accord : Accord pairing fits before left right) :
    Matched fits left.1 right.1 ∧ pairing.Sessions left.2 right.2 := by
  cases accord with
  | ok _ sessions isFit => exact ⟨.ok isFit, sessions⟩
  | failed _ sessions _ => exact ⟨.failed _, sessions⟩
  | parted parts =>
      rw [whole] at parts
      cases parts

/-- Runs that correspond while nobody changes seats agree, if the first one keeps what is
found on the seat. -/
theorem Agree.of_runs (runs : Correspondence.unmoved.Runs fits running other)
    (accords : Accords holding.pairing fitsSelf running running) :
    Agree holding (fun value counterpart => fits value counterpart ∧ fitsSelf value value) running
      other := by
  intro board session counterpart sessions
  have comes :
      Correspondence.unmoved.Comes fits (running board session) (other board counterpart) :=
    runs board board.players rfl session counterpart sessions.more
  have keeps : holding.pairing.Sessions session session :=
    ⟨.refl session, sessions.held, sessions.held⟩
  obtain ⟨same, after⟩ := (accords board session session keeps).comes rfl
  obtain ⟨results, later⟩ := comes
  refine ⟨?_, later, after.held⟩
  generalize (running board session).1 = result at results same ⊢
  generalize (other board counterpart).1 = resultOther at results ⊢
  cases results with
  | failed failure => exact .failed failure
  | ok isFit => exact .ok ⟨isFit, same.self rfl⟩

theorem Correspondence.Field.agrees {fits : Outcome → Outcome → Prop}
    {here there : String × Outcome} (field : Correspondence.unmoved.Field fits here there)
    (each : ∀ outcome other, fits outcome other → Outcome.Alike holding.pairing outcome outcome →
      Outcome.Agrees holding outcome other)
    (alike : Outcome.Alike holding.pairing here.2 here.2) :
    here.1 = there.1 ∧ Outcome.Agrees holding here.2 there.2 := by
  cases field with
  | plain _ isFit => exact ⟨rfl, each _ _ isFit alike⟩
  | index _ number =>
      rw [Correspondence.seating_unmoved, Seating.index_unmoved, Option.map_id]
      exact ⟨rfl, .value _⟩
  | written _ isWritten => exact isWritten.elim
  | astray isAstray => exact isAstray.elim

/-- Candidates that are found by the same rule are the same. -/
theorem Correspondence.Inquiries.shown_eq {inquiry other : Inquiry}
    (same : Correspondence.unmoved.Inquiries inquiry other) : other.shown = inquiry.shown := by
  have unmoved : Candidate.reseated .unmoved = id := funext Candidate.reseated_unmoved
  cases same with
  | menu asked => rfl
  | @pick asked other sources same =>
      have source : other.source = asked.source := by
        generalize asked.source = source at sources ⊢
        generalize other.source = sourceOther at sources ⊢
        cases sources with
        | listed candidates =>
            rw [Correspondence.seating_unmoved, unmoved, List.map_id]
        | @produced candidates others each =>
            have found (board : Board) : others board = candidates board := by
              have found := each board board.players rfl
              rw [Correspondence.seating_unmoved, unmoved, List.map_id_fun] at found
              cases made : candidates board <;> rw [made] at found <;> exact found
            exact congrArg CandidateSource.produced (funext found)
      rw [same, source, Correspondence.seating_unmoved, Seating.index_unmoved, Option.map_id]
      rfl

/-- What corresponds while nobody changes seats agrees, if it keeps what is found on the
seat whatever is answered. -/
theorem Outcome.Agrees.of_corresponds {outcome other : Outcome}
    (corresponds : Outcome.Corresponds .unmoved outcome other) :
    Outcome.Alike holding.pairing outcome outcome → Outcome.Agrees holding outcome other := by
  refine @Outcome.Corresponds.rec .unmoved
    (fun outcome other _ => Outcome.Alike holding.pairing outcome outcome →
      Outcome.Agrees holding outcome other)
    (fun items others _ => Outcome.AllAlike holding.pairing items items →
      List.Forall₂ (Outcome.Agrees holding) items others)
    ?value ?card ?player ?ref ?list ?record ?question ?callback ?nil ?cons _ _ corresponds
  case value => exact fun data _ => .value data
  case card => exact fun id _ => .card id
  case player => exact fun place _ => .player place
  case ref =>
    intro target _
    rw [Correspondence.seating_unmoved, target.reseated_unmoved]
    exact .ref target
  case list =>
    intro items others _ ih alike
    cases alike with
    | list each => exact .list (ih each)
  case record =>
    intro fields others fits each _ ih alike
    have payloads := List.forall₂_same.1 (Outcome.Alike.of_record alike)
    refine .record ?_
    have both := (List.forall₂_and_left _ _).2 ⟨fun field member => (payloads field member).2, each⟩
    exact both.imp fun _ _ ⟨alike, field⟩ => field.agrees ih alike
  case question =>
    intro inquiry otherInquiry answer other fits same each _ ih alike
    cases alike with
    | asking accords within =>
        refine .asking same.shown_eq (fun choice => .of_runs ?_ (accords choice))
          fun outcome other both =>
          ih outcome other both.1 (within _ _ both.2)
        simpa using each choice
  case callback =>
    intro effect other fits each _ ih alike
    cases alike with
    | handing accords within =>
        refine .handing
          (fun context bears => .of_runs ?_ (accords context context ⟨rfl, bears, bears⟩))
          fun outcome other both => ih outcome other both.1 (within _ _ both.2)
        simpa using each context trivial
  case nil => exact fun _ => .nil
  case cons =>
    intro item other items others _ _ ihHere ihLater alike
    cases alike with
    | cons here later => exact .cons (ihHere here) (ihLater later)

end Transfer

/-- The effects come to outcomes that agree, in contexts on the seat. -/
def Effect.Agrees (holding : Holding) (effect other : Effect) : Prop :=
  ∀ context, holding.Bears context →
    Agree holding (Outcome.Agrees holding) (effect context) (other context)

/-- The effect only reports something, in contexts on the seat. -/
def Effect.Idles (holding : Holding) (effect : Effect) : Prop :=
  ∀ context, holding.Bears context → Idle holding Outcome.Absent (effect context)

/-- The effect is the same in both runs. -/
theorem Effect.Agrees.of_unchanged {effect : Effect}
    (corresponds : Effect.Corresponds .unmoved effect effect)
    (accords : Effect.Accords holding.pairing effect effect) :
    Effect.Agrees holding effect effect := by
  intro context bears
  have runs : Correspondence.unmoved.Answers (effect context) (effect context) := by
    simpa using corresponds context trivial
  exact (Agree.of_runs runs (accords context context ⟨rfl, bears, bears⟩)).weaken fun _ _ both =>
    .of_corresponds both.1 both.2

/-- The cards react in the same way in both runs. -/
abbrev Reactor.Agrees (holding : Holding) (react : Reactor) : Prop :=
  ∀ id, Effect.Agrees holding (react id) (react id)

namespace Outcome.Agrees

/-- What asks nothing agrees with itself. -/
theorem of_silent {outcome : Outcome} (silent : outcome.silent = true) :
    Agrees holding outcome outcome :=
  induction_of_silent (motive := fun outcome => Agrees holding outcome outcome) .value .card
    .player .ref
    (fun _ each => .list (List.forall₂_same.2 each))
    (fun _ each => .record (List.forall₂_same.2 fun field member => ⟨rfl, each field member⟩))
      silent

end Outcome.Agrees

namespace Agree

/-- What is done straight agrees with itself. -/
theorem straight {running : Engine Outcome} (straight : Straight running) :
    Agree holding (Outcome.Agrees holding) running running := by
  refine (of_elementary straight).weaken ?_
  rintro outcome _ ⟨rfl, silent⟩
  exact .of_silent silent

theorem missing {message : String} : Agree holding (Outcome.Agrees holding)
    (do
      announce message
      return .nothing)
    (do
      announce message
      return .nothing) :=
  straight (Elementary.missing message)

theorem orNothing {running other : Engine Outcome}
    (agree : Agree holding (Outcome.Agrees holding) running other) :
    Agree holding (Outcome.Agrees holding) (do return (← running).orNothing)
      (do return (← other).orNothing) :=
  agree.bind fun _ _ agrees => .pure agrees.orNothing

section Questions

variable {style : PickStyle} {title : String} {candidates : List Candidate}

theorem pickOne {answer other : Choice → Engine Outcome}
    (each : ∀ choice, Agree holding (Outcome.Agrees holding) (answer choice) (other choice)) :
    Agree holding (Outcome.Agrees holding) (CreatureCards.pickOne style title candidates answer)
      (CreatureCards.pickOne style title candidates other) := by
  unfold CreatureCards.pickOne
  split
  · exact .pure .nothing
  · exact orNothing (each _)
  · exact .pure (.descriptor (.asking rfl each fun _ _ => id))

theorem pickCard {answer other : CardId → Engine Outcome}
    (each : ∀ id, Agree holding (Outcome.Agrees holding) (answer id) (other id)) :
    Agree holding (Outcome.Agrees holding)
      (CreatureCards.pickOne style title candidates (onCard answer))
      (CreatureCards.pickOne style title candidates (onCard other)) := by
  refine pickOne fun choice => ?_
  cases choice with
  | card id => exact each id
  | ref | number | option => exact .throw _

theorem pickRef {answer other : TargetRef → Engine Outcome}
    (each : ∀ ref, Agree holding (Outcome.Agrees holding) (answer ref) (other ref)) :
    Agree holding (Outcome.Agrees holding)
      (CreatureCards.pickOne style title candidates (onRef answer))
      (CreatureCards.pickOne style title candidates (onRef other)) := by
  refine pickOne fun choice => ?_
  cases choice with
  | ref target => exact each target
  | card | number | option => exact .throw _

end Questions

end Agree

/-- A definition is resolved under the settings that its context carries. -/
theorem Resolution.agrees_withOwnResolver {definition other : Resolution}
    (each : Effect.Agrees holding (definition holding.settings) (other holding.settings)) :
    Effect.Agrees holding definition.withOwnResolver other.withOwnResolver := by
  intro context bears
  refine (Agree.settings bears).bind ?_
  rintro _ _ ⟨rfl, rfl⟩
  exact .adopting bears _ (each context bears)

namespace Effect

section Nested

theorem agrees_composite {effects others : List Effect}
    (each : Padding (Effect.Agrees holding) (Effect.Idles holding) effects others) :
    (composite effects).Agrees holding (composite others) := by
  intro context bears
  have runs :=
    each.imp (fun _ _ _ agrees => agrees context bears) fun _ idles => idles context bears
  exact (Agree.mapM runs).bind fun _ _ pads => .pure (Outcome.Pads.collect pads)

theorem agrees_conditional (condition : Condition) {whenTrue otherTrue : Effect}
    {whenFalse otherFalse : Option Effect} (isTrue : whenTrue.Agrees holding otherTrue)
    (isFalse : Option.Rel (Effect.Agrees holding) whenFalse otherFalse) :
    (conditional condition whenTrue whenFalse).Agrees holding
      (conditional condition otherTrue otherFalse) := by
  intro context bears
  refine .reading fun board => .first (.orFail (Procedure.unrefused_holds condition board))
    fun _ _ => ?_
  refine .ite (fun _ => isTrue context bears) fun _ => ?_
  cases isFalse with
  | none => exact .pure .nothing
  | some agrees => exact agrees context bears

theorem agrees_selectTarget (pool : Value) {effect otherEffect : Effect}
    (agrees : effect.Agrees holding otherEffect) :
    (selectTarget pool effect).Agrees holding (selectTarget pool otherEffect) := by
  intro context bears
  refine .reading fun board => .ite (fun _ => .missing) fun _ => .pickCard fun target => ?_
  refine (Agree.derived bears).bind ?_
  rintro derived _ ⟨rfl, areBorne⟩
  exact .orNothing (agrees _ (areBorne.aimed _ _))

theorem agrees_selectConsume (cardType count : Value) {follow otherFollow : Outcome}
    (agrees : Outcome.Agrees holding follow otherFollow) :
    (selectConsume cardType count follow).Agrees holding
      (selectConsume cardType count otherFollow) := by
  intro context bears
  refine .reading fun board => .first (.require _) fun player _ =>
    .ite (fun _ => .missing) fun _ => ?_
  refine .pure (.descriptor (.record (.cons ⟨rfl, .value _⟩ (.cons ⟨rfl, .value _⟩ (.cons ⟨rfl, ?_⟩
    (.cons ⟨rfl, agrees⟩ .nil))))))
  exact .of_silent (Outcome.silent_places _)

end Nested

section Groups

variable {react : Reactor} {nested otherNested : Option Resolution}

theorem agrees_applyGroupEffect (selection : TargetRef) (effect : GroupEffect)
    (each : Option.Rel
      (fun definition counterpart => Effect.Agrees holding definition.withOwnResolver
      counterpart.withOwnResolver) nested otherNested) :
    (applyGroupEffect selection effect nested).Agrees holding
      (applyGroupEffect selection effect otherNested) := by
  intro context bears
  refine .reading fun board => .first (.forM fun _ _ => .announce _ trivial) fun _ _ => ?_
  refine .ite (fun _ => .straight (.pure ?_)) fun _ => ?_
  · simpa using Procedure.silent_stepsTaken (Procedure.silentSteps_steps board selection _)
      selection _
  · cases each with
    | none => exact .pure .nothing
    | some agrees =>
        refine (Agree.derived bears).bind ?_
        rintro derived _ ⟨rfl, areBorne⟩
        exact agrees _ (areBorne.aimed _ _)

theorem agrees_selectFromGroup (reacts : react.Agrees holding) (shape : GroupShape)
    (each : Option.Rel
      (fun definition counterpart => Effect.Agrees holding definition.withOwnResolver
      counterpart.withOwnResolver) nested otherNested) :
    (selectFromGroup react shape nested).Agrees holding
      (selectFromGroup react shape otherNested) := by
  intro context bears
  have applied (selection : TargetRef) :=
    agrees_applyGroupEffect selection shape.effect each context bears
  refine .first (Procedure.elementary_groupTargets _) fun candidates _ =>
    .ite (fun _ => .missing) fun _ =>
    .pickRef fun selection => ?_
  dsimp only
  cases pickedCreature selection with
  | none => exact applied selection
  | some creature =>
      have reaction :
          Agree holding (Outcome.Agrees holding) (reactionOf react creature none context)
          (reactionOf react creature none context) := by
        refine (Agree.derived bears).bind ?_
        rintro derived _ ⟨rfl, areBorne⟩
        exact reacts creature _ (areBorne.aimed _ _)
      refine reaction.bind fun response answer agrees => ?_
      rw [agrees.isTruthy_eq]
      exact .ite (fun _ => .pure agrees) fun _ => applied selection

end Groups

section Menus

variable {effects others : List Effect} {entries otherEntries : List MenuEntry}

theorem agrees_onOption (same : otherEntries.map MenuEntry.shown = entries.map MenuEntry.shown)
    (each : List.Forall₂ (Effect.Agrees holding) effects others) {context : Context}
    (bears : holding.Bears context) (choice : Choice) :
    Agree holding (Outcome.Agrees holding) (onOption entries effects context choice)
      (onOption otherEntries others context choice) := by
  cases choice with
  | option place =>
      have found := getElem?_of_forall₂ each place
      have entry := congrArg (·[place]?) same
      simp only [List.getElem?_map] at entry
      unfold onOption
      dsimp only
      generalize effects[place]? = effect at found ⊢
      generalize others[place]? = otherEffect at found ⊢
      cases here : entries[place]? with
      | none =>
          rw [here, Option.map_none, Option.map_eq_none_iff] at entry
          rw [entry]
          exact .throw _
      | some shown =>
          rw [here, Option.map_some, Option.map_eq_some_iff] at entry
          obtain ⟨shownOther, there, isShown⟩ := entry
          rw [there]
          cases found with
          | none => exact .throw _
          | some agrees =>
              dsimp only
              rw [MenuEntry.label_eq_of_shown isShown]
              exact .telling (agrees context bears)
  | card | ref | number => exact .throw _

/-- A menu shows the same, and its options lead to effects that agree. -/
theorem agrees_offer (title : String)
    (same : otherEntries.map MenuEntry.shown = entries.map MenuEntry.shown)
    (each : List.Forall₂ (Effect.Agrees holding) effects others) :
    (offer title entries effects).Agrees holding (offer title otherEntries others) := by
  intro context bears
  have asked : Agree holding (Outcome.Agrees holding)
      (return .offering { title, entries } (onOption entries effects context))
      (return .offering { title, entries := otherEntries }
        (onOption otherEntries others context)) := by
    refine .pure (.descriptor (.asking ?_ (agrees_onOption same each bears) fun _ _ => id))
    rw [Inquiry.shown, Inquiry.shown, same]
  have length := congrArg List.length same
  rw [List.length_map, List.length_map] at length
  unfold offer
  match entries, otherEntries, each with
  | [only], [onlyOther], .cons here .nil =>
      have isShown : onlyOther.shown = only.shown := List.singleton_inj.1 same
      dsimp only
      rw [MenuEntry.label_eq_of_shown isShown]
      exact .telling (here context bears)
  | [], [], each => exact asked
  | _ :: _ :: _, _ :: _ :: _, each => exact asked
  | [_], [_], .nil => exact asked
  | [_], [_], .cons _ (.cons _ _) => exact asked

/-- Entries are numbered in the same way, and show the same beside their definitions. -/
theorem shown_numbered {α : Type} {items others : List α} {label description : α → String}
    (effect : α → Value)
    (each : List.Forall₂
      (fun item other => label other = label item ∧ description other = description item)
      items others) :
    (numbered others label description effect).map MenuEntry.shown =
      (numbered items label description effect).map MenuEntry.shown := by
  unfold numbered
  generalize 0 = start
  induction each generalizing start with
  | nil => rfl
  | cons same _ ih =>
      simp only [List.zipIdx_cons, List.map_cons, MenuEntry.shown, same.1, same.2]
      exact congrArg _ (ih (start + 1))

variable {carried own : Settings} {effect otherEffect : Value} {nested otherNested : Resolution}

/-- An option reads its shortcuts from fields that are the same, and is passed on as a
result only if it is the same. -/
theorem agrees_resolveOption_object {fields others : Fields}
    (isEmpty : others.isEmpty = fields.isEmpty)
    (gets : ∀ name, name ≠ "params" →
      (Value.object others).get name = (Value.object fields).get name)
    (untyped : ¬ ((Value.object fields).get "type").isTruthy → others = fields)
    (each : Effect.Agrees holding nested.withOwnResolver otherNested.withOwnResolver) :
    (resolveOption (.object fields) nested).Agrees holding
      (resolveOption (.object others) otherNested) := by
  intro context bears
  unfold resolveOption
  simp (disch := simp) only [gets, isEmpty]
  refine .ite (fun _ => .pure .nothing) fun _ => .ite (fun _ => ?_) fun _ =>
    .ite (fun _ => ?_) fun _ =>
    .ite (fun _ => ?_) fun _ => .ite (fun _ => ?_) fun _ => .ite (fun _ => ?_) fun _ =>
    .ite (fun _ => each context bears) fun isUntyped => ?_
  · exact .straight (straight_summonTokens _ context)
  · split
    · exact .straight (straight_gainStats _ _ _)
    · exact .throw _
  · exact .straight (straight_heal _ context)
  · exact .straight (.telling (.pure (by simp)))
  · exact .straight (straight_damageRival _ context)
  · rw [untyped isUntyped]
    exact .straight (.pure (by simp))

/-- An option takes the same turn, whatever was inserted into its effect. -/
theorem agrees_resolveOption (padded : effect.Padded carried own otherEffect)
    (each : Effect.Agrees holding nested.withOwnResolver otherNested.withOwnResolver) :
    (resolveOption effect nested).Agrees holding (resolveOption otherEffect otherNested) := by
  rcases padded with rfl | inserted
  · cases otherEffect with
    | list items =>
        exact fun context bears => .ite (fun _ => .pure .nothing) fun _ => each context bears
    | object fields => exact agrees_resolveOption_object rfl (fun _ _ => rfl) (fun _ => rfl) each
    | _ => exact fun _ _ => .pure .nothing
  · rcases inserted.definition_cases with
      ⟨items, others, rfl, rfl, isSome, isSomeOther, -⟩ | ⟨kind, params, otherParams, node⟩
    · intro context bears
      unfold resolveOption
      simp only [List.isEmpty_iff, isSome, isSomeOther, if_false]
      exact each context bears
    · obtain ⟨⟨fields, others, rfl, rfl, differ⟩, typed, -⟩ := node
      refine agrees_resolveOption_object ?_ (fun _ => differ.get_elsewhere) (fun untyped => ?_) each
      · rw [List.isEmpty_eq_false_iff.2 differ.ne_nil.1,
          List.isEmpty_eq_false_iff.2 differ.ne_nil.2]
      · rw [Validation.ofValue?_of_absent untyped] at typed
        cases typed

theorem fst_labelled {α : Type} (make : α → Resolution) (options : List α) :
    (options.map fun option => (option, make option)).map Prod.fst = options := by
  rw [List.map_map]
  exact List.map_id options

/-- Options with the same labels, whose nested definitions agree. -/
theorem agrees_chooseOption (title : Option String) {make otherMake : OptionShape → Resolution}
    {options others : List OptionShape}
    (each : List.Forall₂ (fun option other => OptionShape.Padded carried own option other ∧
      Effect.Agrees holding (make option).withOwnResolver (otherMake other).withOwnResolver)
        options others) :
    (chooseOption title (options.map fun option => (option, make option))).Agrees holding
      (chooseOption title (others.map fun option => (option, otherMake option))) := by
  intro context bears
  unfold chooseOption
  rw [List.isEmpty_map, List.isEmpty_map, isEmpty_eq_of_forall₂ each, fst_labelled, fst_labelled,
    List.map_map, List.map_map]
  refine .ite (fun _ => .missing) fun _ =>
    agrees_offer _ (shown_numbered _ ?_) (List.rel_map ?_ each) context bears
  · exact each.imp fun _ _ same => ⟨same.1.label, same.1.description⟩
  · exact fun _ _ same => agrees_resolveOption same.1.effect same.2

theorem agrees_chooseDefinition {make otherMake : ChoiceShape → Resolution}
    {choices others : List ChoiceShape}
    (each : List.Forall₂ (fun choice other => ChoiceShape.Padded carried own choice other ∧
      Effect.Agrees holding (make choice).withOwnResolver (otherMake other).withOwnResolver)
        choices others) :
    (chooseDefinition (choices.map fun choice => (choice, make choice))).Agrees holding
      (chooseDefinition (others.map fun choice => (choice, otherMake choice))) := by
  intro context bears
  unfold chooseDefinition
  rw [List.isEmpty_map, List.isEmpty_map, isEmpty_eq_of_forall₂ each, fst_labelled, fst_labelled,
    List.map_map, List.map_map]
  refine .ite (fun _ => .missing) fun _ =>
    agrees_offer _ (shown_numbered _ ?_) (List.rel_map ?_ each) context bears
  · exact each.imp fun _ _ same => ⟨same.1.label, same.1.description⟩
  · exact fun _ _ same => same.2

end Menus

end Effect

end CreatureCards
