import CreatureCards.Proofs.Arrangement

/-!
# Arrangements come to what is resolved

Arranging a definition does what resolving it does: it tells the players the
same, draws the same random numbers and fails in the same way; and where it
succeeds, merging the arrangement gives the outcome of the definition.  Both are
built from the same steps, so the comparison is closed under each of them.
-/

namespace CreatureCards

open Engine Outcome

variable {α β γ δ : Type}

/-- Two runs left the same session or game, and either failed in the same way or made
things of which one is the view of the other. -/
inductive Agrees {State : Type} (view : α → Except Failure β) :
    Except Failure α × State → Except Failure β × State → Prop
  | ok {made : α} {result : β} {after : State} (viewed : view made = .ok result) :
      Agrees view (.ok made, after) (.ok result, after)
  | failed {failure : Failure} {after : State} :
      Agrees view (.error failure, after) (.error failure, after)

namespace Agrees

variable {State : Type}

theorem same (ran : Except Failure α × State) : Agrees .ok ran ran := by
  rcases ran with ⟨failure | value, after⟩
  · exact .failed
  · exact .ok rfl

theorem followed {view : α → Except Failure β} {nextView : γ → Except Failure δ}
    {arranged : Except Failure α × State} {resolved : Except Failure β × State}
    {next : α → State → Except Failure γ × State}
    {nextResolved : β → State → Except Failure δ × State} (agrees : Agrees view arranged resolved)
    (each : ∀ made result, view made = .ok result → ∀ after,
      Agrees nextView (next made after) (nextResolved result after)) :
    Agrees nextView (Engine.followed arranged next) (Engine.followed resolved nextResolved) := by
  cases agrees with
  | ok viewed => exact each _ _ viewed _
  | failed => exact .failed

end Agrees

/-- What is arranged comes to what is resolved, seen through the view. -/
structure Settles (view : α → Except Failure β) (arranging : Engine α) (resolving : Engine β) :
    Prop where
  seen : ∀ board session, Agrees view (arranging board session) (resolving board session)
  play : ∀ game, Agrees view (arranging.play game) (resolving.play game)

namespace Settles

theorem same (running : Engine α) : Settles .ok running running :=
  ⟨fun board session => .same (running board session), fun game => .same (running.play game)⟩

theorem pure {view : α → Except Failure β} {made : α} {result : β}
    (viewed : view made = .ok result) :
    Settles view (Pure.pure made : Engine α) (Pure.pure result : Engine β) :=
  ⟨fun _ _ => .ok viewed, fun _ => .ok viewed⟩

theorem throw {view : α → Except Failure β} (failure : Failure) :
    Settles view (throw failure : Engine α) (throw failure : Engine β) :=
  ⟨fun _ _ => .failed, fun _ => .failed⟩

/-- Runs that go on in comparable ways are comparable. -/
theorem bind {view : α → Except Failure β} {nextView : γ → Except Failure δ}
    {arranging : Engine α} {resolving : Engine β} {next : α → Engine γ}
    {nextResolving : β → Engine δ} (first : Settles view arranging resolving)
    (each : ∀ made result, view made = .ok result →
      Settles nextView (next made) (nextResolving result)) :
    Settles nextView (arranging >>= next) (resolving >>= nextResolving) := by
  constructor
  · intro board session
    exact (first.seen board session).followed fun made result viewed after =>
      (each made result viewed).seen board after
  · intro game
    exact (first.play game).followed fun made result viewed later =>
      (each made result viewed).play later

theorem after {view : γ → Except Failure δ} (running : Engine α) {next : α → Engine γ}
    {nextResolving : α → Engine δ}
    (each : ∀ value, Settles view (next value) (nextResolving value)) :
    Settles view (running >>= next) (running >>= nextResolving) :=
  (same running).bind fun value _ viewed => by
    cases viewed
    exact each value

theorem ite {view : α → Except Failure β} {condition : Prop} [Decidable condition]
    {arranging otherwise : Engine α} {resolving otherwiseResolving : Engine β}
    (whenTrue : condition → Settles view arranging resolving)
    (whenFalse : ¬ condition → Settles view otherwise otherwiseResolving) :
    Settles view (if condition then arranging else otherwise)
      (if condition then resolving else otherwiseResolving) := by
  split
  · exact whenTrue ‹_›
  · exact whenFalse ‹_›

theorem mapM {entries : List α} {arrange : α → Engine Arrangement} {run : α → Engine Outcome}
    (each : ∀ entry ∈ entries, Settles Arrangement.outcome (arrange entry) (run entry)) :
    Settles Arrangement.outcomes (entries.mapM arrange) (entries.mapM run) := by
  induction entries with
  | nil => exact .pure rfl
  | cons entry rest ih =>
      obtain ⟨here, later⟩ := List.forall_mem_cons.1 each
      rw [List.mapM_cons, List.mapM_cons]
      refine here.bind fun part result viewed => ?_
      refine (ih later).bind fun parts results viewedRest => .pure ?_
      rw [Arrangement.outcomes, viewed, viewedRest]
      rfl

theorem effect (running : Engine Outcome) :
    Settles Arrangement.outcome (do return .effect (← running)) running := by
  have settles : Settles Arrangement.outcome (do return .effect (← running))
      (running >>= Pure.pure) := by
    refine (same running).bind fun value result viewed => ?_
    cases viewed
    exact .pure rfl
  rwa [bind_pure] at settles

end Settles

theorem Agrees.answerOutcome_eq {arranged : Except Failure Arrangement × Session}
    {resolved : Except Failure Outcome × Session}
    (agrees : Agrees Arrangement.outcome arranged resolved) :
    Arrangement.answerOutcome arranged = resolved := by
  cases agrees with
  | ok viewed => rw [Arrangement.answerOutcome, Arrangement.answeredOutcome, viewed]
  | failed => rfl

theorem Agrees.playedOutcome_eq {arranged : Except Failure Arrangement × Game}
    {resolved : Except Failure Outcome × Game}
    (agrees : Agrees Arrangement.outcome arranged resolved) :
    Arrangement.playedOutcome arranged = resolved := by
  cases agrees with
  | ok viewed => rw [Arrangement.playedOutcome, Arrangement.answeredOutcome, viewed]
  | failed => rfl

theorem Settles.following_eq {arranging : Engine Arrangement} {resolving : Engine Outcome}
    (settles : Settles Arrangement.outcome arranging resolving) :
    Arrangement.following arranging = resolving := by
  rcases arranging with ⟨seen, play⟩
  apply Engine.ext
  · intro board session
    exact (settles.seen board session).answerOutcome_eq
  · intro game
    exact (settles.play game).playedOutcome_eq

namespace Arrangement

theorem outcome_asking {inquiry : Inquiry} {arranged : Choice → Engine Arrangement}
    {answer : Choice → Engine Outcome}
    (each : ∀ choice, Settles outcome (arranged choice) (answer choice)) :
    outcome (.asking inquiry arranged) =
      .ok (.descriptor inquiry.key (.question inquiry answer)) := by
  have same : (fun choice => following (arranged choice)) = answer := by
    funext choice
    exact (each choice).following_eq
  rw [outcome, same]

theorem orNothing_collect (results : List Outcome) :
    (collect results).orNothing = collect results := by
  rw [collect]
  split
  · rfl
  · rename_i only filtered
    have present : only.isTruthy = true :=
      (List.mem_filter.1 (filtered ▸ List.mem_singleton_self only)).2
    rw [Outcome.orNothing, if_pos present]
  · rfl

theorem orNothing_record (fields : Descriptors) :
    (record fields).orNothing = record fields := by
  cases fields <;> rfl

theorem orNothing_of_merge {results : List Outcome} {merged : Outcome}
    (succeeds : merge results = .ok merged) : merged.orNothing = merged := by
  rw [merge] at succeeds
  split at succeeds
  · cases succeeds
    rfl
  · rename_i only filtered
    cases succeeds
    have present : merged.isTruthy = true :=
      (List.mem_filter.1 (filtered ▸ List.mem_singleton_self merged)).2
    rw [Outcome.orNothing, if_pos present]
  · obtain ⟨marked, -, rest⟩ := bind_eq_ok.1 succeeds
    simp only at rest
    split at rest
    · obtain ⟨fields, -, made⟩ := bind_eq_ok.1 rest
      cases made
      exact orNothing_record fields
    · obtain ⟨fields, -, rest⟩ := bind_eq_ok.1 rest
      obtain ⟨merging, -, rest⟩ := bind_eq_ok.1 rest
      split at rest
      all_goals
        obtain ⟨prompt, -, made⟩ := bind_eq_ok.1 rest
        cases made
        exact orNothing_record _

theorem outcome_orNothing {arrangement : Arrangement} {result : Outcome}
    (comes : arrangement.outcome = .ok result) :
    arrangement.orNothing.outcome = .ok result.orNothing := by
  cases arrangement with
  | effect result =>
      cases comes
      rfl
  | asking inquiry answer =>
      cases comes
      rfl
  | inSequence parts =>
      obtain ⟨results, -, merged⟩ := bind_eq_ok.1 comes
      rw [orNothing_of_merge merged]
      exact comes
  | sideBySide parts =>
      obtain ⟨results, -, collected⟩ := bind_eq_ok.1 comes
      cases collected
      rw [orNothing_collect]
      exact comes

end Arrangement

namespace Settles

open Arrangement

theorem orNothing {arranging : Engine Arrangement} {resolving : Engine Outcome}
    (settles : Settles outcome arranging resolving) :
    Settles outcome (do return (← arranging).orNothing) (do return (← resolving).orNothing) :=
  settles.bind fun _ _ viewed => .pure (outcome_orNothing viewed)

theorem nothing : Settles outcome (return .effect .nothing) (return .nothing) :=
  .pure rfl

theorem asking {inquiry : Inquiry} {arranged : Choice → Engine Arrangement}
    {answer : Choice → Engine Outcome}
    (each : ∀ choice, Settles outcome (arranged choice) (answer choice)) :
    Settles outcome (return .asking inquiry arranged)
      (return .descriptor inquiry.key (.question inquiry answer)) :=
  .pure (outcome_asking each)

theorem pickOne {style : PickStyle} {title : String} {candidates : List Candidate}
    {arranged : Choice → Engine Arrangement} {answer : Choice → Engine Outcome}
    (each : ∀ choice, Settles outcome (arranged choice) (answer choice)) :
    Settles outcome (Layout.pickOne style title candidates arranged)
      (CreatureCards.pickOne style title candidates answer) := by
  match candidates with
  | [] => exact .nothing
  | [only] => exact (each only.value).orNothing
  | _ :: _ :: _ => exact .asking each

theorem onCard {arranged : CardId → Engine Arrangement} {answer : CardId → Engine Outcome}
    (each : ∀ id, Settles outcome (arranged id) (answer id)) (choice : Choice) :
    Settles outcome (CreatureCards.onCard arranged choice)
      (CreatureCards.onCard answer choice) := by
  cases choice with
  | card id => exact each id
  | _ => exact .throw .missingPart

theorem onRef {arranged : TargetRef → Engine Arrangement} {answer : TargetRef → Engine Outcome}
    (each : ∀ ref, Settles outcome (arranged ref) (answer ref)) (choice : Choice) :
    Settles outcome (CreatureCards.onRef arranged choice) (CreatureCards.onRef answer choice) := by
  cases choice with
  | ref ref => exact each ref
  | _ => exact .throw .missingPart

end Settles

def Layout.Fits (layout : Layout) (effect : Effect) : Prop :=
  ∀ context, Settles Arrangement.outcome (layout context) (effect context)

/-- Under all settings the plan comes to what the definition resolves to. -/
def Plan.Fits (plan : Plan) (definition : Resolution) : Prop :=
  ∀ settings, Layout.Fits (plan settings) (definition settings)

theorem Plan.Fits.withOwnResolver {plan : Plan} {definition : Resolution}
    (fits : plan.Fits definition) :
    Layout.Fits plan.withOwnResolver definition.withOwnResolver := fun _ =>
  .after _ fun settings => .after _ fun adopted => fits settings adopted

namespace Layout.Fits

open Arrangement

variable {layout : Layout} {effect : Effect} {plan : Plan} {definition : Resolution}

theorem composite {entries : List α} {layouts : α → Layout} {effects : α → Effect}
    (each : ∀ entry ∈ entries, (layouts entry).Fits (effects entry)) :
    Layout.Fits (.composite (entries.map layouts)) (Effect.composite (entries.map effects)) := by
  intro context
  rw [Layout.composite, Effect.composite, List.mapM_map, List.mapM_map]
  have settles := Settles.mapM fun entry member => each entry member context
  refine settles.bind fun parts results viewed => .pure ?_
  rw [outcome, viewed]
  rfl

theorem conditional (condition : Condition) {otherwise : Option α} {layouts : α → Layout}
    {effects : α → Effect} (whenTrue : layout.Fits effect)
    (whenFalse : ∀ entry ∈ otherwise, (layouts entry).Fits (effects entry)) :
    Layout.Fits (.conditional condition layout (otherwise.map layouts))
      (Effect.conditional condition effect (otherwise.map effects)) := by
  intro context
  refine .after _ fun board => .after _ fun holds => .ite (fun _ => whenTrue _) fun _ => ?_
  cases otherwise with
  | none => exact .nothing
  | some entry => exact whenFalse entry rfl _

theorem selectTarget (pool : Value) (fits : layout.Fits effect) :
    Layout.Fits (.selectTarget pool layout) (Effect.selectTarget pool effect) := by
  intro context
  refine .after _ fun board => .ite (fun _ => .after _ fun _ => .nothing) fun _ => ?_
  refine .pickOne fun choice => .onCard (fun target => ?_) choice
  exact .after _ fun derived => (fits _).orNothing

theorem applyGroupEffect (selection : TargetRef) (shape : GroupEffect) {nested : Option α}
    {plans : α → Plan} {definitions : α → Resolution}
    (each : ∀ entry ∈ nested, (plans entry).Fits (definitions entry)) :
    Layout.Fits (.applyGroupEffect selection shape (nested.map plans))
      (Effect.applyGroupEffect selection shape (nested.map definitions)) := by
  intro context
  refine .after _ fun board => .after _ fun _ => .ite (fun _ => .pure rfl) fun _ => ?_
  cases nested with
  | none => exact .nothing
  | some entry => exact .after _ fun derived => (each entry rfl).withOwnResolver _

theorem selectFromGroup (react : Reactor) (shape : GroupShape) {nested : Option α}
    {plans : α → Plan} {definitions : α → Resolution}
    (each : ∀ entry ∈ nested, (plans entry).Fits (definitions entry)) :
    Layout.Fits (.selectFromGroup react shape (nested.map plans))
      (Effect.selectFromGroup react shape (nested.map definitions)) := by
  intro context
  refine .after _ fun candidates => .ite (fun _ => .after _ fun _ => .nothing) fun _ => ?_
  refine .pickOne fun choice => .onRef (fun selection => ?_) choice
  have applied := applyGroupEffect selection shape.effect each context
  generalize Effect.pickedCreature selection = picked
  cases picked with
  | none => exact applied
  | some creature => exact .after _ fun response => .ite (fun _ => .pure rfl) fun _ => applied

end Layout.Fits

namespace Effect

theorem resolveOption_of_isDefinition {effect : Value} {context : Context}
    (isDefinition : Layout.isDefinition effect context = true) (definition : Resolution) :
    resolveOption effect definition context = definition.withOwnResolver context := by
  cases effect with
  | list items => simp_all [Layout.isDefinition, resolveOption]
  | object fields =>
      simp only [Layout.isDefinition, Bool.and_eq_true, Bool.not_eq_true'] at isDefinition
      obtain ⟨⟨⟨⟨⟨tokens, buff⟩, heal⟩, draw⟩, damage⟩, type⟩ := isDefinition
      have present : fields.isEmpty = false := by
        cases fields with
        | nil => exact absurd type (by decide)
        | cons => rfl
      simp only [resolveOption, present, tokens, buff, heal, draw, damage, type]
      rfl
  | _ => simp [Layout.isDefinition] at isDefinition

/-- What is short of a definition asks for none. -/
theorem resolveOption_congr {effect : Value} {context : Context}
    (short : Layout.isDefinition effect context = false) (definition other : Resolution) :
    resolveOption effect definition context = resolveOption effect other context := by
  cases effect with
  | list items => simp_all [Layout.isDefinition, resolveOption]
  | object fields =>
      simp only [resolveOption]
      repeat' split
      any_goals rfl
      simp_all [Layout.isDefinition]
  | _ => rfl

end Effect

namespace Layout.Fits

open Arrangement

theorem option {plan : Plan} {definition : Resolution} (effect : Value)
    (fits : plan.Fits definition) :
    Layout.Fits (.option effect plan) (Effect.resolveOption effect definition) := by
  intro context
  rw [Layout.option]
  split
  · rename_i isDefinition
    rw [Effect.resolveOption_of_isDefinition isDefinition]
    exact fits.withOwnResolver context
  · rename_i short
    rw [Effect.resolveOption_congr (by simpa using short) definition fun _ _ => return .nothing]
    exact .effect _

theorem onOption (entries : List MenuEntry) {options : List α} {layouts : α → Layout}
    {effects : α → Effect} (each : ∀ entry ∈ options, (layouts entry).Fits (effects entry))
    (context : Context) (choice : Choice) :
    Settles outcome (Effect.onOption entries (options.map layouts) context choice)
      (Effect.onOption entries (options.map effects) context choice) := by
  cases choice with
  | option place =>
      rw [Effect.onOption, Effect.onOption, List.getElem?_map, List.getElem?_map]
      cases entries[place]? with
      | none => exact .throw .missingEntry
      | some entry =>
          cases found : options[place]? with
          | none => exact .throw .missingEntry
          | some chosen =>
              exact .after _ fun _ => each chosen (List.mem_of_getElem? found) context
  | _ => exact .throw .missingPart

theorem offer (title : String) (entries : List MenuEntry) {options : List α}
    {layouts : α → Layout} {effects : α → Effect}
    (each : ∀ entry ∈ options, (layouts entry).Fits (effects entry)) :
    Layout.Fits (.offer title entries (options.map layouts))
      (Effect.offer title entries (options.map effects)) := by
  intro context
  have asked : Settles outcome (return .asking (.menu { title, entries }) _) _ :=
    .asking (onOption entries each context)
  match entries, options with
  | [only], [chosen] =>
      exact .after _ fun _ => each chosen (List.mem_singleton_self chosen) context
  | [], _ => exact asked
  | _ :: _ :: _, _ => exact asked
  | [_], [] => exact asked
  | [_], _ :: _ :: _ => exact asked

theorem chooseOption (title : Option String) {options : List α} {shape : α → OptionShape}
    {plans : α → Plan} {definitions : α → Resolution}
    (each : ∀ entry ∈ options, (plans entry).Fits (definitions entry)) :
    Layout.Fits (.chooseOption title (options.map fun entry => (shape entry, plans entry)))
      (Effect.chooseOption title
        (options.map fun entry => (shape entry, definitions entry))) := by
  intro context
  simp only [Layout.chooseOption, Effect.chooseOption, List.isEmpty_map, List.map_map]
  refine .ite (fun _ => .after _ fun _ => .nothing) fun _ => ?_
  exact offer _ _ (fun entry member => option _ (each entry member)) context

theorem chooseDefinition {choices : List α} {shape : α → ChoiceShape} {plans : α → Plan}
    {definitions : α → Resolution}
    (each : ∀ entry ∈ choices, (plans entry).Fits (definitions entry)) :
    Layout.Fits (.chooseDefinition (choices.map fun entry => (shape entry, plans entry)))
      (Effect.chooseDefinition (choices.map fun entry => (shape entry, definitions entry))) := by
  intro context
  simp only [Layout.chooseDefinition, Effect.chooseDefinition, List.isEmpty_map, List.map_map]
  refine .ite (fun _ => .after _ fun _ => .nothing) fun _ => ?_
  exact offer _ _ (fun entry member => (each entry member).withOwnResolver) context

end Layout.Fits

/-- An invocation is arranged into what it does with its nested definitions. -/
theorem Invocation.fits_of_layout {react : Reactor} {settings : Settings} {asked : Invocation Value}
    {plans : Value → Plan} {resolutions : Value → Resolution}
    (each : ∀ nested ∈ asked.definitions, (plans nested).Fits (resolutions nested))
    {layout : Layout}
    (found : (asked.mapDefinitions fun nested _ => plans nested).layout? react settings =
      some layout) :
    layout.Fits
      ((asked.mapDefinitions fun nested _ => resolutions nested).effect react settings) := by
  cases asked with
  | composite effects =>
      cases found
      simp only [mapDefinitions, effect, List.attach_map_val, List.map_map]
      exact .composite fun nested member => each nested member settings
  | repeated nested count =>
      cases found
      -- Every copy is arranged afresh, from the same definition.
      have once : nested ∈ (repeated nested count).definitions := List.mem_singleton_self nested
      have copies : Layout.Fits
          (.composite ((List.replicate count.toNat nested).map fun _ => plans nested settings))
          (Effect.composite
            ((List.replicate count.toNat nested).map fun _ => resolutions nested settings)) :=
        .composite fun _ _ => each nested once settings
      rw [List.map_replicate, List.map_replicate] at copies
      exact copies
  | conditional condition whenTrue whenFalse =>
      cases found
      simp only [mapDefinitions, effect, Option.attach_map_val, Option.map_map]
      refine .conditional condition (each whenTrue (by simp [definitions]) settings) ?_
      exact fun nested member =>
        each nested (by simp_all [definitions]) settings
  | selectTarget pool nested =>
      cases found
      exact .selectTarget pool (each nested (List.mem_singleton_self nested) settings)
  | selectFromGroup shape nested =>
      cases found
      simp only [mapDefinitions, effect, Option.attach_map_val]
      exact .selectFromGroup react shape fun nested member =>
        each nested (by simpa [definitions] using member)
  | chooseOption title options =>
      cases found
      exact .chooseOption title fun entry _ => each _ (List.mem_map_of_mem entry.2)
  | choice choices =>
      cases found
      exact .chooseDefinition fun entry _ => each _ (List.mem_map_of_mem entry.2)
  | _ => cases found

section Readings

variable {react : Reactor} {definition : Value} {settings : Settings} {context : Context}

theorem resolveWith_of_sequence {definitions : List Value}
    (read : Reading.ofValue definition = .sequence definitions) :
    resolveWith react definition settings context = (do
      let context ← context.adopt settings
      let outcomes ← definitions.mapM fun nested => resolveWith react nested settings context
      orFail (merge outcomes)) := by
  rw [resolveWith]
  refine congrArg _ (funext fun adopted => ?_)
  split
  all_goals simp_all

theorem resolveWith_of_invocation {asked : Invocation Value}
    (read : Reading.ofValue definition = .invocation asked) :
    resolveWith react definition settings context = (do
      let context ← context.adopt settings
      let ready := asked.mapDefinitions fun nested _ => resolveWith react nested
      return (← ready.effect react settings context).orNothing) := by
  rw [resolveWith]
  refine congrArg _ (funext fun adopted => ?_)
  split
  case h_3 other same =>
    cases read.symm.trans same
    rfl
  all_goals simp_all

theorem arrangeWith_of_sequence {definitions : List Value}
    (read : Reading.ofValue definition = .sequence definitions) :
    arrangeWith react definition settings context = (do
      let context ← context.adopt settings
      let parts ← definitions.mapM fun nested => arrangeWith react nested settings context
      let _ ← orFail (Arrangement.inSequence parts).outcome
      return .inSequence parts) := by
  rw [arrangeWith]
  split
  all_goals simp_all

theorem arrangeWith_of_layout {asked : Invocation Value} {layout : Layout}
    (read : Reading.ofValue definition = .invocation asked)
    (found : (asked.mapDefinitions fun nested _ => arrangeWith react nested).layout? react
      settings =
      some layout) :
    arrangeWith react definition settings context = (do
      return (← layout (← context.adopt settings)).orNothing) := by
  rw [arrangeWith]
  split
  case h_2 other same =>
    cases read.symm.trans same
    simp only [found]
  all_goals simp_all

theorem arrangeWith_of_none {asked : Invocation Value}
    (read : Reading.ofValue definition = .invocation asked)
    (found : (asked.mapDefinitions fun nested _ => arrangeWith react nested).layout? react
      settings =
      none) :
    arrangeWith react definition settings context = (do
      return .effect (← resolveWith react definition settings context)) := by
  rw [arrangeWith]
  split
  case h_2 other same =>
    cases read.symm.trans same
    simp only [found]
  all_goals simp_all

theorem arrangeWith_of_other
    (noSequence : ∀ definitions, Reading.ofValue definition ≠ .sequence definitions)
    (noInvocation : ∀ asked, Reading.ofValue definition ≠ .invocation asked) :
    arrangeWith react definition settings context = (do
      return .effect (← resolveWith react definition settings context)) := by
  rw [arrangeWith]
  split
  all_goals simp_all

end Readings

/-- Arranging a definition does what resolving it does, and its arrangement comes
to its outcome. -/
theorem arrangeWith_fits (react : Reactor) (definition : Value) :
    (arrangeWith react definition).Fits (resolveWith react definition) := by
  intro settings context
  cases read : Reading.ofValue definition with
  | sequence definitions =>
      rw [arrangeWith_of_sequence read, resolveWith_of_sequence read]
      refine .after _ fun adopted => ?_
      -- Nested definitions are less deep, which carries the recursion.
      have parts := Settles.mapM fun nested (member : nested ∈ definitions) =>
        arrangeWith_fits react nested settings adopted
      refine parts.bind fun made results viewed => ?_
      have merged : (Arrangement.inSequence made).outcome = merge results := by
        rw [Arrangement.outcome, viewed]
        rfl
      cases succeeds : merge results with
      | error failure =>
          rw [merged, succeeds]
          exact .throw failure
      | ok result =>
          rw [succeeds] at merged
          rw [merged]
          exact .pure merged
  | invocation asked =>
      cases found : (asked.mapDefinitions fun nested _ =>
          arrangeWith react nested).layout? react settings with
      | none =>
          rw [arrangeWith_of_none read found]
          exact .effect _
      | some layout =>
          rw [arrangeWith_of_layout read found, resolveWith_of_invocation read]
          refine .after _ fun adopted => .orNothing ?_
          have each : ∀ nested ∈ asked.definitions,
              (arrangeWith react nested).Fits (resolveWith react nested) :=
            fun nested member => arrangeWith_fits react nested
          exact Invocation.fits_of_layout each found adopted
  | _ =>
      rw [arrangeWith_of_other (by simp [read]) (by simp [read])]
      exact .effect _
termination_by definition.depth
decreasing_by
  all_goals
    apply depth_lt_of_mem_definitions
    rw [read]
    exact member

/-- A definition is resolved to what its arrangement comes to. -/
theorem resolveWith_of_arranged {react : Reactor} {definition : Value} {settings : Settings}
    {context : Context} {board : Board} {session after : Session} {arrangement : Arrangement}
    {outcome : Outcome}
    (arranged : arrangeWith react definition settings context board session =
      (.ok arrangement, after)) (comes : arrangement.outcome = .ok outcome) :
    resolveWith react definition settings context board session = (.ok outcome, after) := by
  have agrees := (arrangeWith_fits react definition settings context).seen board session
  rw [arranged] at agrees
  rw [← agrees.answerOutcome_eq, Arrangement.answerOutcome, Arrangement.answeredOutcome, comes]

end CreatureCards
