import CreatureCards.Proofs.ArrangedResolution

/-!
# Authored order

Effects side by side are asked in authored order.  A list is asked in that order
when nothing that is kept in a result stands ahead of a question; otherwise the
questions that are kept are put off, also those of an answer while other results
wait.
-/

namespace CreatureCards

open Outcome

namespace Arrangement

/-- Effects have results, and the results of a list are asked in order, at every
depth and whatever is answered. -/
inductive Orderly : Arrangement → Prop
  | effect {result : Outcome} (isResult : IsResult result) : Orderly (effect result)
  | asking {inquiry : Inquiry}
      {answer : Choice → Engine Arrangement}
      (follow : ∀ choice board session next after,
        answer choice board session = (.ok next, after) → Orderly next) :
      Orderly (asking inquiry answer)
  | inSequence {parts : List Arrangement} (each : ∀ part ∈ parts, Orderly part)
      (order : ∀ results : List Descriptors, outcomes parts = .ok (results.map .record) →
        AsksInOrder (present results)) : Orderly (inSequence parts)
  | sideBySide {parts : List Arrangement} (each : ∀ part ∈ parts, Orderly part) :
      Orderly (sideBySide parts)

def Faithful (arrangement : Arrangement) : Prop :=
  ∃ fields : Descriptors, arrangement.outcome = .ok (.record fields) ∧
    Shaped (.record fields) ∧ (record fields).script = arrangement.authored

theorem authoredParts_eq_inTurn (parts : List Arrangement) :
    authoredParts parts = .inTurn (parts.map authored) := by
  induction parts with
  | nil => rfl
  | cons part rest ih =>
      rw [authoredParts, ih]
      rfl

theorem exists_outcomes_eq {parts : List Arrangement}
    (each : ∀ part ∈ parts, part.Faithful) :
    ∃ results : List Descriptors, outcomes parts = .ok (results.map .record) ∧
      (∀ fields ∈ results, Shaped (.record fields)) ∧
      results.map (fun fields => (record fields).script) = parts.map authored := by
  induction parts with
  | nil => exact ⟨[], rfl, (fun _ member => nomatch member), rfl⟩
  | cons part rest ih =>
      obtain ⟨here, later⟩ := List.forall_mem_cons.1 each
      obtain ⟨fields, succeeds, shaped, same⟩ := here
      obtain ⟨results, others, shapedOthers, sameOthers⟩ := ih later
      refine ⟨fields :: results, ?_, List.forall_mem_cons.2 ⟨shaped, shapedOthers⟩, ?_⟩
      · rw [outcomes, succeeds, others]
        rfl
      · rw [List.map_cons, List.map_cons, same, sameOthers]

theorem inTurn_scripts_present (results : List Descriptors) :
    Play.inTurn ((present results).map fun fields => (record fields).script) =
      .inTurn (results.map fun fields => (record fields).script) := by
  induction results with
  | nil => rfl
  | cons fields rest ih =>
      cases fields with
      | nil =>
          have absent : present ([] :: rest) = present rest := rfl
          have unasked : (record []).script = .skip := rfl
          rw [absent, ih, List.map_cons, Play.inTurn_cons, unasked, Play.skip_andThen]
      | cons field others =>
          have said : present ((field :: others) :: rest) = (field :: others) :: present rest := rfl
          rw [said, List.map_cons, Play.inTurn_cons, ih, List.map_cons, Play.inTurn_cons]

theorem script_kept (results : List Descriptors) :
    (Outcome.descriptor compositeKey (list (results.map record))).script =
      .inTurn (results.map fun fields => (record fields).script) := by
  have unprompted : Descriptors.Unprompted [(compositeKey, list (results.map record))] := by
    have free : compositeKey ∉ chainKeys := by decide
    intro key chain member
    rw [List.mem_singleton.1 member] at chain
    exact free chain
  have kept : Descriptors.kept [(compositeKey, list (results.map record))] =
      results.map record := rfl
  rw [Outcome.descriptor, script_of_unprompted unprompted, Descriptors.carried, kept,
    Play.script_inTurn, List.map_map, List.map_map]
  refine congrArg _ (List.map_congr_left fun fields _ => ?_)
  exact (script_eq _).symm

/-- Effects side by side are asked from left to right. -/
theorem exists_collect_eq {results : List Descriptors}
    (shaped : ∀ fields ∈ results, Shaped (.record fields)) :
    ∃ fields, collect (results.map .record) = .record fields ∧ Shaped (.record fields) ∧
      (record fields).script = .inTurn (results.map fun fields => (record fields).script) := by
  have each : ∀ fields ∈ present results, Shaped (.record fields) :=
    fun fields member => shaped fields (List.mem_filter.1 member).1
  rw [collect, filter_isTruthy_records, ← inTurn_scripts_present]
  generalize present results = kept at each ⊢
  -- Nothing, one result as it is, or several that are kept under one key.
  rcases kept with - | ⟨first, - | ⟨second, rest⟩⟩
  · exact ⟨[], rfl, IsResult.nothing.shaped, rfl⟩
  · exact ⟨first, rfl, each first (List.mem_singleton_self _), by simp⟩
  · refine ⟨_, rfl, (IsResult.nothing.cons_kept List.not_mem_nil ?_).shaped,
      script_kept (first :: second :: rest)⟩
    intro item member
    obtain ⟨fields, isPresent, rfl⟩ :=
      List.mem_map.1 (show item ∈ (first :: second :: rest).map record from member)
    exact ⟨trivial, each fields isPresent⟩

theorem Faithful.effect {result : Outcome} (isResult : IsResult result) :
    Faithful (.effect result) := by
  obtain ⟨isRecord, shaped⟩ := isResult
  obtain ⟨fields, rfl⟩ := isRecord.exists_eq
  exact ⟨fields, rfl, shaped, rfl⟩

section Asking

variable {inquiry : Inquiry}
  {answer : Choice → Engine Arrangement}

theorem shaped_question (follow : ∀ choice board session next after,
      answer choice board session = (.ok next, after) → next.Faithful) :
    Shaped (.question inquiry fun choice => following (answer choice)) := by
  have each (result : Outcome)
      (comes : ComesTo (fun choice => following (answer choice)) result) : result.IsRecord ∧
        Shaped result := by
    obtain ⟨choice, board, session, outcome, after, answered, rfl⟩ := comes
    rw [following_apply] at answered
    rcases arranged : answer choice board session with ⟨failure | next, left⟩
    · simp [arranged, answerOutcome, answeredOutcome] at answered
    · obtain ⟨fields, succeeds, shaped, -⟩ := follow _ _ _ _ _ arranged
      simp only [arranged, answerOutcome, answeredOutcome, succeeds, Prod.mk.injEq] at answered
      obtain ⟨same, -⟩ := answered
      cases same
      rw [orNothing_record]
      exact ⟨trivial, shaped⟩
  exact .prompt (fun result comes => (each result comes).1) fun result comes =>
    (each result comes).2

theorem questions_descriptor (inquiry : Inquiry)
    (answer : Choice → Engine Outcome) :
    questions (.descriptor inquiry.key (.question inquiry answer)) =
      questions (.question inquiry answer) := by
  cases inquiry with
  | pick asked =>
      have whole (payload : Outcome) : questions (.descriptor "select_target" payload) =
          (questions payload).andThen (.andThen .skip (.andThen .skip .skip)) := rfl
      rw [Inquiry.key, whole, Play.skip_andThen, Play.skip_andThen, Play.andThen_skip]
  | menu asked =>
      have whole (payload : Outcome) : questions (.descriptor "select_option" payload) =
          .andThen .skip ((questions payload).andThen (.andThen .skip .skip)) := rfl
      rw [Inquiry.key, whole, Play.skip_andThen, Play.skip_andThen, Play.andThen_skip]

theorem answerOutcome_snd (answered : Except Failure Arrangement × Session) :
    (answerOutcome answered).2 = answered.2 := by
  cases answered
  rfl

theorem isResult_asking (follow : ∀ choice board session next after,
      answer choice board session = (.ok next, after) → next.Faithful) :
    IsResult
      (.descriptor inquiry.key (.question inquiry fun choice => following (answer choice))) :=
  IsResult.nothing.cons_question List.not_mem_nil inquiry.key_mem trivial (shaped_question follow)

/-- A question can be chained if nothing waits in what its answers come to. -/
theorem chainable_asking (follow : ∀ choice board session next after,
      answer choice board session = (.ok next, after) → next.Faithful)
    (unawaited : ∀ choice board session next after fields,
      answer choice board session = (.ok next, after) → next.outcome = .ok (.record fields) →
        pendingKey ∉ KeyedList.keys fields) :
    Chainable [(inquiry.key, .question inquiry fun choice => following (answer choice))] where
  shaped := (isResult_asking follow).shaped
  paired := by
    refine paired_of_unawaited fun member => ?_
    have same : pendingKey = inquiry.key := List.mem_singleton.1 member
    have isQuestion := inquiry.key_mem
    rw [← same] at isQuestion
    exact absurd isQuestion (by decide)
  answers key isKey other otherAnswer found following comes := by
    have mem := KeyedList.mem_of_lookup found
    cases List.mem_singleton.1 mem
    obtain ⟨choice, board, session, outcome, after, answered, same⟩ := comes
    rw [following_apply] at answered
    rcases arranged : answer choice board session with ⟨failure | next, left⟩
    · simp [arranged, answerOutcome, answeredOutcome] at answered
    · obtain ⟨fields, succeeds, -, -⟩ := follow _ _ _ _ _ arranged
      simp only [arranged, answerOutcome, answeredOutcome, succeeds, Prod.mk.injEq] at answered
      obtain ⟨comes, -⟩ := answered
      cases comes
      rw [orNothing_record] at same
      cases same
      exact paired_of_unawaited (unawaited _ _ _ _ _ _ arranged succeeds)

theorem Faithful.asking (follow : ∀ choice board session next after,
      answer choice board session = (.ok next, after) → next.Faithful) :
    Faithful (.asking inquiry answer) := by
  have later (moment : Moment) :
      (visitAnswer (answerOutcome (answer moment.choice moment.board moment.session))).script =
        authoredAnswer (answer moment.choice moment.board moment.session) := by
    rcases arranged : answer moment.choice moment.board moment.session with
      ⟨failure | next, after⟩
    · rfl
    · obtain ⟨fields, succeeds, -, same⟩ := follow _ _ _ _ _ arranged
      rw [answerOutcome, answeredOutcome, succeeds, authoredAnswer, authoredAnswered, ← same]
      rfl
  refine ⟨_, rfl, (isResult_asking follow).shaped, ?_⟩
  rw [script_eq]
  refine (congrArg Play.script (questions_descriptor inquiry _)).trans ?_
  rw [questions_question, authored_asking, Play.script, Play.map]
  simp only [following_apply, answerOutcome_snd]
  exact congrArg _ (funext later)

end Asking

theorem Faithful.sideBySide {parts : List Arrangement} (each : ∀ part ∈ parts, part.Faithful) :
    Faithful (.sideBySide parts) := by
  obtain ⟨results, succeeds, shaped, same⟩ := exists_outcomes_eq each
  obtain ⟨fields, collected, shapedFields, script⟩ := exists_collect_eq shaped
  refine ⟨fields, ?_, shapedFields, ?_⟩
  · rw [outcome, succeeds]
    exact congrArg Except.ok collected
  · rw [script, same, authored, authoredParts_eq_inTurn]

theorem Faithful.inSequence {parts : List Arrangement} (each : ∀ part ∈ parts, part.Faithful)
    (order : ∀ results : List Descriptors, outcomes parts = .ok (results.map .record) →
      AsksInOrder (present results)) : Faithful (.inSequence parts) := by
  obtain ⟨results, succeeds, shaped, same⟩ := exists_outcomes_eq each
  have inOrder := order results succeeds
  -- Results that say nothing are dropped before the merge, and can be chained anyway.
  have chainable : ∀ fields ∈ results, Chainable fields := by
    intro fields member
    cases fields with
    | nil => exact .nil
    | cons field rest => exact inOrder.chainable _ (List.mem_filter.2 ⟨member, rfl⟩)
  obtain ⟨merged, succeedsMerge, mergedInto⟩ := exists_merge_eq chainable
  refine ⟨merged, ?_, mergedInto.shaped inOrder.chainable, ?_⟩
  · rw [outcome, succeeds]
    exact succeedsMerge
  · rw [mergedInto.script_eq inOrder, inTurn_scripts_present, same, authored,
      authoredParts_eq_inTurn]

theorem Orderly.faithful {arrangement : Arrangement} (orderly : arrangement.Orderly) :
    arrangement.Faithful := by
  induction orderly with
  | effect isResult => exact .effect isResult
  | asking _ ih => exact .asking ih
  | inSequence _ order ih => exact .inSequence ih order
  | sideBySide _ ih => exact .sideBySide ih

/-- A list that should begin with another question than the one that its first
asking result has under a question key is not asked in authored order. -/
theorem not_faithful_of_first {parts : List Arrangement} {results rest : List Descriptors}
    {first : Descriptors} {inquiry : Inquiry} {after : Moment → Session}
    {follow : Moment → Play Unit} (comes : outcomes parts = .ok (results.map record))
    (chainable : ∀ fields ∈ results, Chainable fields)
    (asking : (Outcome.present results).filter Descriptors.asks = first :: rest)
    (begins : (inSequence parts).authored = .asks () inquiry after follow)
    (differs : ∀ answer, first.lookup first.askedKey ≠ some (.question inquiry answer)) :
    ¬ (inSequence parts).Faithful := by
  rintro ⟨fields, succeeds, -, same⟩
  obtain ⟨merged, succeedsMerge, mergedInto⟩ := exists_merge_eq chainable
  have merges : (inSequence parts).outcome = .ok (.record merged) := by
    rw [outcome, comes]
    exact succeedsMerge
  cases merges.symm.trans succeeds
  obtain ⟨asked, answer, found, _, _, script⟩ := mergedInto.exists_script_eq
    (fun fields member => chainable fields (List.mem_filter.1 member).1) asking
  -- Both plays begin with a question: the first one merged, and the authored one.
  rw [script, begins] at same
  cases same
  exact differs answer found

end Arrangement

/-- A definition that is arranged orderly is resolved, and a walk through its
outcome asks its questions in authored order, whatever is answered. -/
theorem resolving_asks_in_authored_order {react : Reactor} {definition : Value}
    {settings : Settings} {context : Context} {board : Board} {session after : Session}
    {arrangement : Arrangement}
    (arranged : arrangeWith react definition settings context board session =
      (.ok arrangement, after)) (orderly : arrangement.Orderly) :
    ∃ outcome, resolveWith react definition settings context board session =
        (.ok outcome, after) ∧
      ∀ session moments,
        (Walk.through outcome session moments).map (Stage.map fun _ => ()) =
          arrangement.authored.stages session moments := by
  obtain ⟨fields, comes, shaped, same⟩ := orderly.faithful
  have result : IsResult (.record fields) := ⟨trivial, shaped⟩
  refine ⟨.record fields, resolveWith_of_arranged arranged comes, fun session moments => ?_⟩
  rw [Walk.through_eq_visit result, ← Play.stages_map, ← same]
  rfl

section Menus

variable (react : Reactor)

def menuOf (title : String) (follow : Value) : Value :=
  .object
    [("params", .object
      [("options", .list
        [.object [("effect", follow), ("label", .text "yes")], .object [("label", .text "no")]]),
        ("title", .text title)]),
      ("type", .text "chooseOption")]

def sideBySideOf (effects : List Value) : Value :=
  .object [("params", .object [("effects", .list effects)]), ("type", .text "composite")]

/-- A context that carries a resolver with the usual settings. -/
def settledContext : Context := { resolver := .taken {} }

/-- The arrangement of a menu of two options, the first of which leads to an
arrangement. -/
def Arrangement.menu (title : String) (follow : Value) (next : Arrangement) : Arrangement :=
  let entries : List MenuEntry :=
    [{ id := "0", label := "yes", effect := follow }, { id := "1", label := "no" }]
  .asking (.menu { title, entries })
    (Effect.onOption entries [fun _ => pure next, fun _ => pure (.effect .nothing)] settledContext)

theorem adopt_settledContext (settings : Settings) :
    settledContext.adopt settings = pure settledContext :=
  rfl

/-- The answers to a menu are what its options do in the context. -/
theorem Effect.onOption_congr (entries : List MenuEntry) {layouts others : List Layout}
    {context : Context}
    (same : layouts.map (fun layout => layout context) = others.map fun layout => layout context) :
    onOption entries layouts context = onOption entries others context := by
  funext choice
  cases choice with
  | option place =>
      have here := congrArg (fun running : List (Engine Arrangement) => running[place]?) same
      simp only [List.getElem?_map] at here
      rw [onOption, onOption]
      cases entries[place]? with
      | none => rfl
      | some entry =>
          cases one : layouts[place]? with
          | none =>
              cases other : others[place]? with
              | none => rfl
              | some layout => simp [one, other] at here
          | some layout =>
              cases other : others[place]? with
              | none => simp [one, other] at here
              | some otherLayout =>
                  simp only [one, other, Option.map_some, Option.some.injEq] at here
                  simp only [here]
  | _ => rfl

theorem arrangeWith_menuOf {title : String} (named : title ≠ "") {follow : Value}
    {next : Arrangement} (settings : Settings)
    (leads : Layout.option follow (arrangeWith react follow) settledContext = pure next) :
    arrangeWith react (menuOf title follow) settings settledContext =
      pure (.menu title follow next) := by
  have read : Reading.ofValue (menuOf title follow) = .invocation (.chooseOption (some title)
      [({ label := "yes", effect := follow }, follow), ({ label := "no" }, .null)]) := rfl
  have found : ((Invocation.chooseOption (some title)
      [({ label := "yes", effect := follow }, follow), ({ label := "no" }, .null)]).mapDefinitions
        fun nested _ => arrangeWith react nested).layout? react settings =
      some (.chooseOption (some title) [({ label := "yes", effect := follow },
        arrangeWith react follow), ({ label := "no" }, arrangeWith react .null)]) := rfl
  have same : [Layout.option follow (arrangeWith react follow),
      Layout.option .null (arrangeWith react .null)].map (fun layout => layout settledContext) =
        [fun _ => pure next, fun _ => pure (.effect .nothing)].map
          fun layout => layout settledContext := by
    rw [List.map_cons, leads]
    rfl
  rw [arrangeWith_of_layout read found, adopt_settledContext, pure_bind, Layout.chooseOption]
  simp only [List.isEmpty_cons, Bool.false_eq_true, if_false]
  · rw [Arrangement.menu, ← Effect.onOption_congr _ same]
    rfl
  · exact named

theorem arrangeWith_menuOf_null {title : String} (named : title ≠ "") (settings : Settings) :
    arrangeWith react (menuOf title .null) settings settledContext =
      pure (.menu title .null (.effect .nothing)) :=
  arrangeWith_menuOf react named settings rfl

theorem option_menuOf {title : String} (named : title ≠ "") {follow : Value} {next : Arrangement}
    (leads : Layout.option follow (arrangeWith react follow) settledContext = pure next) :
    Layout.option (menuOf title follow) (arrangeWith react (menuOf title follow))
        settledContext = pure (.menu title follow next) := by
  have isDefinition : Layout.isDefinition (menuOf title follow) settledContext = true := rfl
  have settings : settledContext.settings = pure {} := rfl
  rw [Layout.option, if_pos isDefinition, Plan.withOwnResolver, settings, pure_bind,
    adopt_settledContext, pure_bind, arrangeWith_menuOf react named {} leads]

theorem arrangeWith_sideBySideOf (effects : List Value) (settings : Settings) :
    arrangeWith react (sideBySideOf effects) settings settledContext = (do
      return .sideBySide (← effects.mapM fun nested =>
        arrangeWith react nested settings settledContext)) := by
  have read : Reading.ofValue (sideBySideOf effects) = .invocation (.composite effects) := by
    cases effects <;> rfl
  have found : ((Invocation.composite effects).mapDefinitions
      fun nested _ => arrangeWith react nested).layout? react settings =
        some (.composite ((effects.map fun nested => arrangeWith react nested).map
          fun plan => plan settings)) := by
    simp only [Invocation.mapDefinitions, List.attach_map_val]
    rfl
  rw [arrangeWith_of_layout read found, adopt_settledContext, pure_bind, Layout.composite,
    List.map_map, List.mapM_map, bind_assoc]
  rfl

namespace Arrangement

/-- An arrangement that an option of a menu leads to. -/
theorem eq_of_menu {next answered : Arrangement} {entries : List MenuEntry}
    {choice : Choice} {board : Board} {session after : Session}
    (answers : Effect.onOption entries [fun _ => pure next, fun _ => pure (.effect .nothing)]
      settledContext choice board session = (.ok answered, after)) :
    answered = next ∨ answered = .effect .nothing := by
  cases choice with
  | option place =>
      rw [Effect.onOption] at answers
      generalize entries[place]? = found at answers
      cases found with
      | none => cases answers
      | some entry =>
          rcases place with - | - | place
          · cases answers
            exact .inl rfl
          · cases answers
            exact .inr rfl
          · cases answers
  | _ => cases answers

theorem Orderly.menu (title : String) (follow : Value) {next : Arrangement}
    (orderly : next.Orderly) : Orderly (.menu title follow next) := by
  refine .asking fun choice board session answered after answers => ?_
  obtain rfl | rfl := eq_of_menu answers
  · exact orderly
  · exact .effect .nothing

/-- A menu can be chained if nothing waits in what its first option leads to. -/
theorem exists_chainable_menu (title : String) (follow : Value) {next : Arrangement}
    (orderly : next.Orderly)
    (unawaited : ∀ fields, next.outcome = .ok (.record fields) →
      pendingKey ∉ KeyedList.keys fields) :
    ∃ fields, (menu title follow next).outcome = .ok (.record fields) ∧ Chainable fields ∧
      KeyedList.keys fields = ["select_option"] := by
  refine ⟨_, rfl, chainable_asking (fun choice board session answered after answers => ?_)
    (fun choice board session answered after fields answers comes => ?_), rfl⟩
  · obtain rfl | rfl := eq_of_menu answers
    · exact orderly.faithful
    · exact .effect .nothing
  · obtain rfl | rfl := eq_of_menu answers
    · exact unawaited fields comes
    · cases comes
      exact List.not_mem_nil

def plainMenu (title : String) : Arrangement :=
  menu title .null (.effect .nothing)

def twoMenus (one other : String) : Arrangement :=
  .sideBySide [plainMenu one, plainMenu other]

theorem orderly_plainMenu (title : String) : (plainMenu title).Orderly :=
  .menu title .null (.effect .nothing)

theorem orderly_twoMenus (one other : String) : (twoMenus one other).Orderly := by
  refine .sideBySide ?_
  rw [List.forall_mem_cons, List.forall_mem_singleton]
  exact ⟨orderly_plainMenu one, orderly_plainMenu other⟩

theorem exists_chainable_plainMenu (title : String) :
    ∃ fields, (plainMenu title).outcome = .ok (.record fields) ∧ Chainable fields ∧
      KeyedList.keys fields = ["select_option"] :=
  exists_chainable_menu title .null (.effect .nothing) fun fields comes => by
    cases comes
    decide

theorem exists_chainable_twoMenus (one other : String) :
    ∃ fields : Descriptors, (twoMenus one other).outcome = .ok (.record fields) ∧
      Chainable fields ∧ fields.Unprompted ∧ fields ≠ [] := by
  obtain ⟨fields, comes, shaped, -⟩ := (orderly_twoMenus one other).faithful
  have free : compositeKey ∉ chainKeys := by decide
  have keys : KeyedList.keys fields = [compositeKey] := by
    cases comes
    rfl
  have unprompted : Descriptors.Unprompted fields := by
    intro key chain
    rw [keys, List.mem_singleton]
    rintro rfl
    exact free chain
  refine ⟨fields, comes, .of_unprompted shaped unprompted, unprompted, ?_⟩
  rintro rfl
  cases keys

end Arrangement

open Arrangement

/-- A menu with a follow-up ahead of composite menus. -/
def authoredMenus : Value :=
  .list [menuOf "first" (menuOf "follow-up" .null),
    sideBySideOf [menuOf "second" .null, menuOf "third" .null]]

def authoredMenusParts : List Arrangement :=
  [.menu "first" (menuOf "follow-up" .null) (plainMenu "follow-up"), twoMenus "second" "third"]

theorem arrangeWith_authoredMenus :
    arrangeWith react authoredMenus {} settledContext = pure (.inSequence authoredMenusParts) := by
  have read : Reading.ofValue authoredMenus =
      .sequence [menuOf "first" (menuOf "follow-up" .null),
        sideBySideOf [menuOf "second" .null, menuOf "third" .null]] := rfl
  have plain {title : String} (named : title ≠ "") := arrangeWith_menuOf_null react named
  have followUp := option_menuOf react (by decide : "follow-up" ≠ "")
    (rfl : Layout.option .null (arrangeWith react .null) settledContext =
      pure (.effect .nothing))
  rw [arrangeWith_of_sequence read]
  simp only [adopt_settledContext, pure_bind, List.mapM_cons, List.mapM_nil,
    arrangeWith_sideBySideOf, plain (by decide : "second" ≠ ""), plain (by decide : "third" ≠ ""),
    arrangeWith_menuOf react (by decide : "first" ≠ "") {} followUp]
  rfl

/-- A menu ahead of kept results is asked in order. -/
theorem asksInOrder_of_menu {first last : Descriptors} (chainable : Chainable first)
    (keys : KeyedList.keys first = ["select_option"]) (chainableLast : Chainable last)
    (unprompted : last.Unprompted) (saying : last ≠ []) :
    AsksInOrder (Outcome.present [first, last]) := by
  have present : Outcome.present [first, last] = [first, last] := by
    have sayingFirst : first ≠ [] := by
      rintro rfl
      cases keys
    rw [Outcome.present, List.filter_eq_self, List.forall_mem_cons, List.forall_mem_singleton]
    simp [sayingFirst, saying]
  have asks : Descriptors.asks first = true :=
    (Descriptors.asks_eq first).2 ⟨"select_option", by decide, by rw [keys]; decide⟩
  have silent : Descriptors.asks last = false := by
    refine Bool.eq_false_iff.2 fun asksLast => ?_
    obtain ⟨key, isQuestion, member⟩ := (Descriptors.asks_eq last).1 asksLast
    exact unprompted key (List.mem_append_left _ isQuestion) member
  have light : Descriptors.CarriesNothing first :=
    carriesNothing_of_not_mem (by rw [keys]; decide)
  rw [present]
  refine .of_first ?_ asks light ?_ (.singleton [] last)
  · rw [List.forall_mem_cons, List.forall_mem_singleton]
    exact ⟨chainable, chainableLast⟩
  · rw [List.forall_mem_singleton]
    exact silent

theorem orderly_authoredMenus : (Arrangement.inSequence authoredMenusParts).Orderly := by
  have followUp := orderly_plainMenu "follow-up"
  have each : ∀ part ∈ authoredMenusParts, part.Orderly := by
    rw [authoredMenusParts, List.forall_mem_cons, List.forall_mem_singleton]
    exact ⟨.menu _ _ followUp, orderly_twoMenus "second" "third"⟩
  obtain ⟨first, comesFirst, chainable, keys⟩ := exists_chainable_menu "first"
    (menuOf "follow-up" .null) followUp fun fields comes => by
      cases comes
      decide
  obtain ⟨last, comesLast, chainableLast, unprompted, saying⟩ :=
    exists_chainable_twoMenus "second" "third"
  refine .inSequence each fun results comes => ?_
  have both : outcomes authoredMenusParts = .ok [.record first, .record last] := by
    rw [authoredMenusParts, outcomes, outcomes, outcomes, comesFirst, comesLast]
    rfl
  have listed : [first, last].map record = results.map record :=
    Except.ok.inj (both.symm.trans comes)
  obtain rfl : results = [first, last] :=
    (List.map_injective_iff.2 (fun _ _ => record.inj) listed).symm
  exact asksInOrder_of_menu chainable keys chainableLast unprompted saying

def accepting : Moment := { (default : Moment) with choice := .option 0 }

theorem resolving_authoredMenus_asks_in_authored_order :
    ∃ outcome, resolve authoredMenus {} settledContext accepting.board accepting.session =
        (.ok outcome, accepting.session) ∧
      (Walk.through outcome accepting.session (List.replicate 4 accepting)).map
          (fun stage => stage.standing.title?) =
        [some "first", some "follow-up", some "second", some "third", none] := by
  have arranged : arrangeWith (reactWithin reactionPatience) authoredMenus {} settledContext
      accepting.board accepting.session =
        (.ok (.inSequence authoredMenusParts), accepting.session) := by
    rw [arrangeWith_authoredMenus]
    rfl
  obtain ⟨outcome, resolved, same⟩ :=
    resolving_asks_in_authored_order arranged orderly_authoredMenus
  refine ⟨outcome, resolved, ?_⟩
  have stages := congrArg (List.map fun stage => stage.standing.title?)
    (same accepting.session (List.replicate 4 accepting))
  rw [List.map_map] at stages
  exact stages

/-- Composite menus ahead of another menu. -/
def putOffMenus : Value :=
  .list [sideBySideOf [menuOf "first" .null, menuOf "second" .null], menuOf "third" .null]

def putOffMenusParts : List Arrangement :=
  [twoMenus "first" "second", plainMenu "third"]

theorem arrangeWith_putOffMenus :
    arrangeWith react putOffMenus {} settledContext = pure (.inSequence putOffMenusParts) := by
  have read : Reading.ofValue putOffMenus =
      .sequence [sideBySideOf [menuOf "first" .null, menuOf "second" .null],
        menuOf "third" .null] := rfl
  have plain {title : String} (named : title ≠ "") := arrangeWith_menuOf_null react named
  rw [arrangeWith_of_sequence read]
  simp only [adopt_settledContext, pure_bind, List.mapM_cons, List.mapM_nil,
    arrangeWith_sideBySideOf, plain (by decide : "first" ≠ ""), plain (by decide : "second" ≠ ""),
    plain (by decide : "third" ≠ "")]
  rfl

/-- The menus that a composite effect keeps are put off behind the menu that
stands under its own key, although the authored order begins with another one. -/
theorem resolving_putOffMenus_leaves_authored_order :
    ∃ arrangement outcome,
      arrangeWith (reactWithin reactionPatience) putOffMenus {} settledContext accepting.board
          accepting.session = (.ok arrangement, accepting.session) ∧
      resolve putOffMenus {} settledContext accepting.board accepting.session =
          (.ok outcome, accepting.session) ∧
      (Walk.through outcome accepting.session (List.replicate 3 accepting)).map
          (fun stage => stage.standing.title?) =
        [some "third", some "first", some "second", none] ∧
      (arrangement.authored.stages accepting.session (List.replicate 3 accepting)).map
          (fun stage => stage.standing.title?) =
        [some "first", some "second", some "third", none] ∧
      ¬ arrangement.Faithful := by
  have arranged : arrangeWith (reactWithin reactionPatience) putOffMenus {} settledContext
      accepting.board accepting.session =
        (.ok (.inSequence putOffMenusParts), accepting.session) := by
    rw [arrangeWith_putOffMenus]
    rfl
  obtain ⟨kept, comesKept, chainableKept, -⟩ := exists_chainable_twoMenus "first" "second"
  obtain ⟨last, comesLast, chainableLast, -⟩ := exists_chainable_plainMenu "third"
  have each : ∀ fields ∈ [kept, last], Chainable fields := by
    rw [List.forall_mem_cons, List.forall_mem_singleton]
    exact ⟨chainableKept, chainableLast⟩
  have both : outcomes putOffMenusParts = .ok [.record kept, .record last] := by
    rw [putOffMenusParts, outcomes, outcomes, outcomes, comesKept, comesLast]
    rfl
  obtain ⟨merged, succeeds, mergedInto⟩ := exists_merge_eq each
  have merges : (inSequence putOffMenusParts).outcome = .ok (.record merged) := by
    rw [outcome, both]
    exact succeeds
  have shaped := mergedInto.shaped fun fields member => each fields (List.mem_filter.1 member).1
  have result : IsResult (.record merged) := ⟨trivial, shaped⟩
  have unfaithful : ¬ (inSequence putOffMenusParts).Faithful := by
    have comes : outcomes putOffMenusParts = .ok ([kept, last].map record) := both
    have asking : (Outcome.present [kept, last]).filter Descriptors.asks = [last] := by
      cases comesKept
      cases comesLast
      rfl
    refine not_faithful_of_first comes each asking rfl fun answer found => ?_
    cases comesLast
    have titles : some "third" = some "first" :=
      congrArg (fun first : Option Outcome => (first.bind Outcome.question?).map
        fun asked : Question => asked.inquiry.title) found
    exact absurd titles (by decide)
  refine ⟨_, _, arranged, resolveWith_of_arranged arranged merges, ?_, rfl, unfaithful⟩
  rw [Walk.through_eq_visit result]
  cases merges
  rfl

end Menus

end CreatureCards
