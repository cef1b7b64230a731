import CreatureCards.Proofs.CorrespondingGroups
import CreatureCards.Proofs.QuestionBound

/-!
# Corresponding resolutions

Every invocation corresponds to itself if the definitions that it may come to resolve
do, so by induction on its depth every definition does, and by induction on the length
of the chain of reactions so does every card.  What definitions and scripts write out
by hand has to be exempt.
-/

namespace CreatureCards

open Engine

variable {c : Correspondence} {react other : Reactor}

namespace Effect

section Nested

theorem corresponds_composite {effects others : List Effect}
    (each : List.Forall₂ (Effect.Corresponds c) effects others) :
    (composite effects).Corresponds c (composite others) := by
  intro context acting
  refine (Correspondence.Runs.mapM
    (each.imp fun _ _ corresponds => corresponds context acting)).bind ?_
  exact fun _ _ alike => .pure (@Likeness.collect c.likeness _ _ alike)

theorem corresponds_conditional (condition : Condition) {whenTrue otherTrue : Effect}
    {whenFalse otherFalse : Option Effect} (isTrue : whenTrue.Corresponds c otherTrue)
    (isFalse : Option.Rel (Effect.Corresponds c) whenFalse otherFalse) :
    (conditional condition whenTrue whenFalse).Corresponds c
      (conditional condition otherTrue otherFalse) := by
  intro context acting
  refine .reading fun board players seats => ?_
  rw [seats.holds]
  refine .orFailSame fun holds => .ite (fun _ => isTrue context acting) fun _ => ?_
  cases isFalse with
  | none => exact .nothing
  | some corresponds => exact corresponds context acting

theorem corresponds_selectTarget (pool : Value) {effect otherEffect : Effect}
    (corresponds : effect.Corresponds c otherEffect) :
    (selectTarget pool effect).Corresponds c (selectTarget pool otherEffect) := by
  intro context acting
  refine .reading fun board players seats => ?_
  rw [seats.friendlyCreatures, seats.targetableEnemies, seats.mixedTargets]
  refine .ite (fun _ => .missing) fun _ => .pickCard rfl fun target => ?_
  refine (Correspondence.Runs.derived acting).bind fun derived otherDerived same => .orNothing ?_
  rw [same.1]
  exact corresponds { derived with target := some (.card target) } (c.passed same.2 _ _ _)

/-- What follows the consumption is handed over. -/
theorem corresponds_selectConsume (cardType count : Value) {follow otherFollow : Outcome}
    (corresponds : Outcome.Corresponds c follow otherFollow) :
    (selectConsume cardType count follow).Corresponds c
      (selectConsume cardType count otherFollow) := by
  intro context acting
  refine .reading fun board players seats => ?_
  rw [seats.actor]
  refine .requireSame fun player => .ite (fun _ => .missing) fun _ => .pure ?_
  exact .descriptor (.of (by simp) (.record (.cons (.same (by simp)) (.cons (.same (by simp))
    (.cons (.same (by simp)) (.cons (.of (by simp) corresponds) .nil))))))

end Nested

end Effect

section Invocations

/-- The descriptor is written out by hand in an option that may be passed on as a result. -/
def Invocation.Authors {α : Type} (descriptor : String × Outcome) : Invocation α → Prop
  | chooseOption _ options =>
    ∃ option ∈ options, option.1.effect.isResult = true ∧ option.1.effect.Authors descriptor
  | _ => False

/-- The invocation returns the creature that a trap was aimed at. -/
def Invocation.returnsTarget {α : Type} : Invocation α → Prop
  | direct kind _ => kind = .returnTargetedToHand
  | _ => False

/-- Unless everybody keeps the seat, what the invocation writes out by hand is exempt, and
so are creatures on no field if it may return one of them. -/
structure Correspondence.Admits {α : Type} (c : Correspondence) (asked : Invocation α) : Prop where
  written : c.seating.index = id ∨
    ∀ descriptor, asked.Authors descriptor → c.written descriptor
  strays : asked.returnsTarget → c.Strays

namespace Invocation

variable {make otherMake : Value → Resolution} {settings : Settings}

theorem corresponds_effect (reacts : react.Corresponds c other) (asked : Invocation Value)
    (admits : c.Admits asked)
    (each : ∀ nested ∈ asked.pursued, ∀ settings,
      Effect.Corresponds c (make nested settings) (otherMake nested settings)) :
    Effect.Corresponds c ((asked.mapDefinitions fun nested _ => make nested).effect react settings)
      ((asked.mapDefinitions fun nested _ => otherMake nested).effect other settings) := by
  cases asked with
  | direct kind arguments =>
      exact kind.corresponds_rule reacts (fun place => arguments.getD place .null) admits.strays
  | buffStats targetType attack health =>
      exact Effect.corresponds_buffStats targetType attack health
  | selectForBuff preyOnly stats => exact Effect.corresponds_selectForBuff reacts preyOnly stats
  | destroy shape => exact Effect.corresponds_destroy shape
  | addKeyword shape => exact Effect.corresponds_addKeyword shape
  | buff shape => exact Effect.corresponds_buff shape
  | composite effects =>
      refine Effect.corresponds_composite ?_
      rw [List.map_map, List.map_map]
      exact forall₂_map fun entry _ => each entry.1 entry.2 settings
  | repeated nested count =>
      have here := each nested (List.mem_singleton_self nested) settings
      refine Effect.corresponds_composite ?_
      induction count.toNat with
      | zero => exact .nil
      | succ rounds ih => exact .cons here ih
  | conditional condition whenTrue whenFalse =>
      refine Effect.corresponds_conditional condition (each whenTrue List.mem_cons_self settings) ?_
      cases whenFalse with
      | none => exact .none
      | some nested => exact .some (each nested (by simp [pursued, definitions]) settings)
  | selectTarget pool nested =>
      exact Effect.corresponds_selectTarget pool
        (each nested (List.mem_singleton_self nested) settings)
  | selectConsume cardType count nested =>
      refine Effect.corresponds_selectConsume cardType count ?_
      cases nested with
      | none => exact .value .null
      | some nested =>
          exact .handing (each nested (List.mem_singleton_self nested) settings) fun _ _ => id
  | selectTargetIdly pool =>
      have picked : Effect.Corresponds c (Effect.selectTarget pool fun _ => throw .wrongKind)
          (Effect.selectTarget pool fun _ => throw .wrongKind) :=
        Effect.corresponds_selectTarget pool fun _ _ => .throw _
      exact picked
  | selectConsumeNoting cardType count note =>
      exact Effect.corresponds_selectConsume cardType count (.value note)
  | selectFromGroup shape nested =>
      refine Effect.corresponds_selectFromGroup reacts shape ?_
      cases nested with
      | none => exact .none
      | some nested =>
          exact .some
            (Resolution.corresponds_withOwnResolver (each nested (List.mem_singleton_self nested)))
  | chooseOption title options =>
      refine Effect.corresponds_chooseOption title (forall₂_map fun entry _ => ?_)
      refine ⟨rfl, fun isResult => ?_, fun nestable => ?_⟩
      · exact admits.written.imp id fun written descriptor authors =>
          written descriptor ⟨entry.1, entry.2, isResult, authors⟩
      · refine Resolution.corresponds_withOwnResolver (each entry.1.2 ?_)
        exact List.mem_map_of_mem (List.mem_filter.2 ⟨entry.2, nestable⟩)
  | choice choices =>
      refine Effect.corresponds_chooseDefinition (forall₂_map fun entry _ => ⟨rfl, ?_⟩)
      exact Resolution.corresponds_withOwnResolver (each entry.1.2 (List.mem_map_of_mem entry.2))

end Invocation

end Invocations

section Resolutions

/-- Whatever the definition may come to invoke is admitted. -/
def Correspondence.Allows (c : Correspondence) (definition : Value) : Prop :=
  ∀ asked, definition.Invokes asked → c.Admits asked

theorem Correspondence.Runs.refuse (settings : Settings) (failure : Failure) (warning : Warning) :
    c.Answers (CreatureCards.refuse settings failure warning)
      (CreatureCards.refuse settings failure warning) :=
  .ite (fun _ => .throw _) fun _ => (Correspondence.Runs.warned warning).bind fun _ _ _ => .nothing

/-- A definition corresponds to itself, by induction on its depth: what is nested in it
may be resolved later, when a question is answered. -/
theorem corresponds_resolveWith (reacts : react.Corresponds c other) (definition : Value)
    (allows : c.Allows definition) (settings : Settings) :
    Effect.Corresponds c (resolveWith react definition settings)
      (resolveWith other definition settings) := by
  intro context acting
  have nested (inner : Value) (member : inner ∈ (Reading.ofValue definition).pursued)
      (settings : Settings) :
      Effect.Corresponds c (resolveWith react inner settings) (resolveWith other inner settings) :=
    corresponds_resolveWith reacts inner
      (fun asked invokes => allows asked (.within member invokes)) settings
  have adopts := Correspondence.Runs.adopt (c := c) acting settings
  cases read : Reading.ofValue definition with
  | nothing =>
      rw [resolveWith_of_nothing read, resolveWith_of_nothing read]
      exact adopts.bind fun _ _ _ => .nothing
  | sequence definitions =>
      rw [resolveWith_of_sequence read, resolveWith_of_sequence read]
      rw [read] at nested
      refine adopts.bind fun adopted otherAdopted same => ?_
      rw [same.1]
      refine (Correspondence.Runs.mapM (List.forall₂_same.2 fun inner member => ?_)).bind
        fun _ _ alike => .merge alike
      exact nested inner member settings adopted same.2
  | invocation asked =>
      rw [resolveWith_of_invocation read, resolveWith_of_invocation read]
      rw [read] at nested
      refine adopts.bind fun adopted otherAdopted same => .orNothing ?_
      rw [same.1]
      exact Invocation.corresponds_effect reacts asked (allows asked (.here read)) nested
        adopted same.2
  | unknown type =>
      rw [resolveWith_of_unknown read, resolveWith_of_unknown read]
      exact adopts.bind fun _ _ _ => .refuse settings _ _
  | malformed cause =>
      rw [resolveWith_of_malformed read, resolveWith_of_malformed read]
      exact adopts.bind fun _ _ _ => .refuse settings _ _
  | unreadable failure =>
      rw [resolveWith_of_unreadable read, resolveWith_of_unreadable read]
      exact adopts.bind fun _ _ _ => .throw failure
termination_by definition.depth
decreasing_by exact depth_lt_of_mem_definitions (Reading.mem_definitions_of_pursued member)

end Resolutions

namespace Script

/-- The descriptor is a field of the scripted result, of a result that stands in it under a
key that merging looks into, or of one that follows a scripted question. -/
inductive Authors (descriptor : String × Outcome) : Script → Prop
  | here {fields : List (String × Script)} {key : String} {script : Script}
      (member : (key, script) ∈ fields) (same : descriptor = (key, script.outcome)) :
      Authors descriptor (.record fields)
  | carried {fields : List (String × Script)} {field : String × Script} (member : field ∈ fields)
      (isReserved : field.1 ∈ reservedKeys) (within : Authors descriptor field.2) :
      Authors descriptor (.record fields)
  | item {items : List Script} {item : Script} (member : item ∈ items)
      (within : Authors descriptor item) : Authors descriptor (.list items)
  | answer {form : ScriptedForm} {title : String} {choices : List String} {follow : List Script}
      {answer : Script} (member : answer ∈ follow) (within : Authors descriptor answer) :
      Authors descriptor (.question form title choices follow)

/-- The descriptors of the scripted result are exempt, unless everybody keeps the seat. -/
abbrev IsExempt (c : Correspondence) (script : Script) : Prop :=
  c.seating.index = id ∨ ∀ descriptor, script.Authors descriptor → c.written descriptor

theorem place?_reseated (seating : Seating) (choice : Choice) :
    place? (choice.reseated seating) = place? choice := by
  cases choice <;> rfl

/-- Scripted choices are numbered, so they name no player. -/
theorem inquiries_inquiry (form : ScriptedForm) (title : String) (choices : List String) :
    c.Inquiries (inquiry form title choices) (inquiry form title choices) := by
  have numbers : (candidates choices).map (Candidate.reseated c.seating) = candidates choices := by
    unfold candidates
    rw [List.map_map]
    rfl
  cases form with
  | listed =>
      have sources : c.Sources (.listed (candidates choices))
          (.listed ((candidates choices).map (Candidate.reseated c.seating))) := .listed _
      rw [numbers] at sources
      exact .pick sources rfl
  | produced =>
      refine .pick (.produced fun board players _ => ?_) rfl
      exact congrArg Except.ok numbers.symm
  | options => exact .menu _

theorem answers_chosen {follow : List Outcome}
    (each : List.Forall₂ (Outcome.Corresponds c) follow follow)
    (choice : Choice) :
    c.Answers (chosen follow choice) (chosen follow (choice.reseated c.seating)) := by
  unfold chosen
  rw [place?_reseated]
  split
  · rename_i place _
    have found := getElem?_of_forall₂ each place
    generalize follow[place]? = answer at found ⊢
    cases found with
    | none => exact .throw _
    | some corresponds => exact .pure corresponds
  · exact .throw _

mutual

theorem corresponds_outcome_of_unmoved (unmoved : c.seating.index = id) : ∀ script : Script,
    Outcome.Corresponds c script.outcome script.outcome
  | .value data => by
      rw [outcome]
      exact .value data
  | .card id => by
      rw [outcome]
      exact .card id
  | .list items => by
      rw [outcome]
      exact .list (corresponds_outcomes_of_unmoved unmoved items)
  | .record fields => by
      rw [outcome]
      exact .record (corresponds_outcomeFields_of_unmoved unmoved fields)
  | .question form title choices follow => by
      rw [outcome]
      have each := corresponds_outcomes_of_unmoved unmoved follow
      exact .asking (inquiries_inquiry form title choices) (answers_chosen each) fun _ _ => id

theorem corresponds_outcomes_of_unmoved (unmoved : c.seating.index = id) : ∀ items : List Script,
    List.Forall₂ (Outcome.Corresponds c) (outcomes items) (outcomes items)
  | [] => by
      rw [outcomes]
      exact .nil
  | item :: rest => by
      rw [outcomes]
      exact .cons (corresponds_outcome_of_unmoved unmoved item)
        (corresponds_outcomes_of_unmoved unmoved rest)

theorem corresponds_outcomeFields_of_unmoved (unmoved : c.seating.index = id) :
    ∀ fields : List (String × Script),
    List.Forall₂ (c.Field (Outcome.Corresponds c)) (outcomeFields fields) (outcomeFields fields)
  | [] => by
      rw [outcomeFields]
      exact .nil
  | (key, script) :: rest => by
      rw [outcomeFields]
      exact .cons (Outcome.Corresponds.field_of_unmoved unmoved
        (corresponds_outcome_of_unmoved unmoved script))
        (corresponds_outcomeFields_of_unmoved unmoved rest)

end

mutual

/-- What a script stands for is the same however the players are seated. -/
theorem corresponds_outcome_of_written : ∀ {script : Script},
    (∀ descriptor, script.Authors descriptor → c.written descriptor) →
    Outcome.Corresponds c script.outcome script.outcome
  | .value data, _ => by
      rw [outcome]
      exact .value data
  | .card id, _ => by
      rw [outcome]
      exact .card id
  | .list items, written => by
      rw [outcome]
      exact .list (corresponds_outcomes_of_written fun item member descriptor authors =>
        written descriptor (.item member authors))
  | .record fields, written => by
      rw [outcome]
      exact .record (corresponds_outcomeFields_of_written
        (fun field member => written _ (.here member rfl))
        fun field member isReserved descriptor authors =>
          written descriptor (.carried member isReserved authors))
  | .question form title choices follow, written => by
      rw [outcome]
      have each := corresponds_outcomes_of_written fun answer member descriptor authors =>
        written descriptor (.answer member authors)
      exact .asking (inquiries_inquiry form title choices) (answers_chosen each) fun _ _ => id

theorem corresponds_outcomes_of_written : ∀ {items : List Script},
    (∀ item ∈ items, ∀ descriptor, item.Authors descriptor → c.written descriptor) →
    List.Forall₂ (Outcome.Corresponds c) (outcomes items) (outcomes items)
  | [], _ => by
      rw [outcomes]
      exact .nil
  | item :: rest, written => by
      obtain ⟨here, later⟩ := List.forall_mem_cons.1 written
      rw [outcomes]
      exact .cons (corresponds_outcome_of_written here) (corresponds_outcomes_of_written later)

theorem corresponds_outcomeFields_of_written : ∀ {fields : List (String × Script)},
    (∀ field ∈ fields, c.written (field.1, field.2.outcome)) →
    (∀ field ∈ fields, field.1 ∈ reservedKeys →
      ∀ descriptor, field.2.Authors descriptor → c.written descriptor) →
    List.Forall₂ (c.Field (Outcome.Corresponds c)) (outcomeFields fields) (outcomeFields fields)
  | [], _, _ => by
      rw [outcomeFields]
      exact .nil
  | (key, script) :: rest, written, carried => by
      obtain ⟨here, later⟩ := List.forall_mem_cons.1 written
      obtain ⟨within, others⟩ := List.forall_mem_cons.1 carried
      rw [outcomeFields]
      refine .cons ?_ (corresponds_outcomeFields_of_written later others)
      by_cases isReserved : key ∈ reservedKeys
      · exact c.likeness.reserved isReserved (corresponds_outcome_of_written (within isReserved))
      · exact .written isReserved here

end

/-- A scripted result that is exempt is the same on both sides. -/
theorem corresponds_outcome {script : Script} (exempt : script.IsExempt c) :
    Outcome.Corresponds c script.outcome script.outcome :=
  exempt.elim (fun unmoved => corresponds_outcome_of_unmoved unmoved script)
    corresponds_outcome_of_written

end Script

section Reactions

theorem corresponds_echo (context : Context) :
    Outcome.Corresponds c (echo context) (echo (context.reseated c.seating)) := by
  have target : Outcome.Corresponds c (context.target.elim .null Target.outcome)
      ((context.target.map (Target.reseated c.seating)).elim .null Target.outcome) := by
    cases context.target with
    | none => exact .value .null
    | some aimed =>
        cases aimed with
        | card id => exact .card id
        | ref reference => exact .ref reference
  exact .descriptor (.of (by simp)
    (.record (.cons (.of (by simp) target) (.cons (.same (by simp)) .nil))))

/-- Whatever a card answers with is admitted. -/
structure Correspondence.Reaches (c : Correspondence) (board : Board) : Prop where
  resolves : ∀ id definition, (board.card id).reaction = some (.resolve definition) →
    c.Allows definition
  answers : ∀ id script, (board.card id).reaction = some (.answer script) → script.IsExempt c

/-- Cards react alike, by induction on the length of the chain of reactions. -/
theorem corresponds_reactWithin
    (reaches : ∀ board players, c.moments board players → c.Reaches board) (patience : Nat) :
    Reactor.Corresponds c (reactWithin patience) (reactWithin patience) := by
  induction patience with
  | zero =>
      intro id context acting
      exact .readingNow fun board players moment => .ite (fun _ => .throw _) fun _ =>
        .pure (.value .null)
  | succ patience ih =>
      intro id context acting
      refine .readingNow fun board players moment => ?_
      have admitted := reaches board players moment
      have same : ({ board with players } : Board).card id = board.card id := rfl
      rw [same]
      cases reacts : (board.card id).reaction with
      | none => exact .pure (.value .null)
      | some reaction =>
          cases reaction with
          | fail message => exact .throw _
          | resolve definition =>
              have resolves :=
                corresponds_resolveWith ih definition (admitted.resolves id definition reacts)
              exact Resolution.corresponds_withOwnResolver resolves context acting
          | echo => exact .pure (corresponds_echo context)
          | answer script =>
              exact .pure (Script.corresponds_outcome (admitted.answers id script reacts))

/-- A definition that is admitted corresponds to itself among cards whose answers are. -/
theorem corresponds_resolve (reaches : ∀ board players, c.moments board players → c.Reaches board)
    {definition : Value} (allows : c.Allows definition) (settings : Settings) :
    Effect.Corresponds c (resolve definition settings) (resolve definition settings) :=
  corresponds_resolveWith (corresponds_reactWithin reaches reactionPatience) definition
    allows settings

end Reactions

end CreatureCards
