import CreatureCards.Proofs.MergeVisit
import CreatureCards.Proofs.WalkRun

/-!
# One after another

Results that each ask one question can be dealt with one after another: first
what can be applied of all that ask nothing, then each of the others completely,
its follow-up questions included, before anything of the next one is applied.
Merging comes to the same, although the next result may be spliced into an
answer, put behind the results that wait for the answer's own questions, or left
to the walk's queue.
-/

namespace CreatureCards

open Outcome

namespace Outcome

variable {fields first upcoming : Descriptors}

theorem said_of_unprompted (unprompted : fields.Unprompted) (light : fields.carried = .skip) :
    (record fields).said = .finished (appliedLeaves (record fields)) := by
  rw [said_eq, unprompted.questions_eq, light, Play.map_skip, Play.skip, Play.bring, add_zero]

theorem said_append_prompt {merged prompt : Descriptors} (unprompted : merged.Unprompted)
    (chain : ∀ key ∈ KeyedList.keys prompt, key ∈ chainKeys) :
    (record (merged ++ prompt)).said =
      ((prompt.asked.andThen
        ((Play.inTurn (prompt.pending.map visit)).andThen merged.carried)).map leavesOf).bring
          (appliedLeaves (record merged)) := by
  rw [said_eq, appliedLeaves_append_prompt chain,
    Descriptors.questions_append_prompt unprompted chain]

/-- Of two results side by side, only the second one of which keeps questions,
the questions are those of the second one. -/
theorem SideBySide.carried_of_pair {fitting colliding : List Descriptors} {merged : Descriptors}
    (side : SideBySide [fields, upcoming.immediate] fitting colliding merged)
    (unprompted : fields.Unprompted) (light : fields.carried = .skip) :
    merged.carried = upcoming.carried := by
  have each : ∀ result ∈ [fields, upcoming.immediate], Descriptors.Unprompted result := by
    simpa using ⟨unprompted, Descriptors.unprompted_immediate upcoming⟩
  rw [side.carried_eq each]
  obtain ⟨one, other, same⟩ := List.length_eq_two.1 side.perm.length_eq
  have perm := side.perm
  rw [same] at perm ⊢
  -- Fitting before colliding may turn the two around, but only one keeps anything.
  obtain rfl | rfl : one = fields ∨ one = upcoming.immediate := by
    simpa using perm.subset (List.mem_cons_self ..)
  · have last := List.perm_singleton.1 perm.cons_inv
    rw [List.singleton_inj.1 last]
    simp [light, Descriptors.carried_immediate]
  · have last := List.perm_singleton.1 (perm.trans (.swap ..)).cons_inv
    rw [List.singleton_inj.1 last]
    simp [light, Descriptors.carried_immediate]

/-- Going on to waiting results comes to dealing with the answer and then with
them, as long as neither the answer nor the one that goes on keeps questions. -/
theorem exists_said_advance (shaped : Shaped (record fields)) (paired : fields.Paired)
    (light : fields.carried = .skip) {rest : List Descriptors}
    (each : ∀ waiting ∈ rest, Shaped (record waiting))
    (next : ∀ upcoming remaining, rest = upcoming :: remaining → remaining ≠ [] →
      fields.asks = true ∨ upcoming.carried = .skip) :
    ∃ advanced, advance (record fields) (rest.map record) = .ok advanced ∧
      advanced.said =
        (record fields).said.andThen (.inTurn (rest.map fun waiting => (record waiting).said)) := by
  cases rest with
  | nil => exact ⟨record fields, rfl, by simp⟩
  | cons upcoming remaining =>
      obtain ⟨shapedUpcoming, shapedRemaining⟩ := List.forall_mem_cons.1 each
      have behind (waiting : List Descriptors) :
          (waiting.map record).map said = waiting.map fun result => (record result).said := by
        rw [List.map_map]
        rfl
      cases asks : fields.asks with
      | true =>
          refine ⟨_, advance_of_asks shaped.formed asks _ _, ?_⟩
          rw [said_eq, appliedLeaves_put_pending shaped.distinct, Descriptors.questions_eq,
            Descriptors.asked_put_pending, Descriptors.pending_put_pending,
            Descriptors.carried_put_of_ne (by decide), said_eq, Descriptors.questions_eq, light,
            Play.bring_andThen, ← behind, List.map_cons]
          simp only [Play.andThen_skip, List.map_append, Play.inTurn_append, Play.map_andThen,
            map_inTurn_visits, Play.andThen_assoc]
      | false =>
          have unprompted := paired.unprompted asks
          obtain ⟨merged, fitting, colliding, advanced, unpromptedMerged, side⟩ :=
            exists_advance_of_silent shaped.formed paired asks shapedUpcoming.formed
              (remaining.map record)
          have both : ∀ result ∈ [fields, upcoming.immediate], Shaped (record result) := by
            simpa using ⟨shaped, shapedUpcoming.immediate⟩
          have total : appliedLeaves (record merged) =
              appliedLeaves (record fields) + appliedLeaves (record upcoming) := by
            rw [side.total_eq counts_appliedLeaves
              (fun result member => (both result member).distinct)
              fun result member _ found => ((both result member).suits found).composite rfl]
            simp [appliedLeaves_immediate]
          have kept := side.carried_of_pair unprompted light
          -- Kept questions come last; with more results waiting there must not be any.
          have late : (Play.inTurn ((remaining.map record).map visit)).andThen merged.carried =
              upcoming.carried.andThen (.inTurn ((remaining.map record).map visit)) := by
            rw [kept]
            cases remaining with
            | nil => simp
            | cons other others =>
                have lightUpcoming : upcoming.carried = .skip :=
                  (next upcoming _ rfl (List.cons_ne_nil _ _)).resolve_left (by simp [asks])
                rw [lightUpcoming, Play.andThen_skip, Play.skip_andThen]
          refine ⟨_, advanced, ?_⟩
          rw [said_append_prompt unpromptedMerged fun _ => keys_inFront, total,
            said_of_unprompted unprompted light, Descriptors.asked_inFront,
            Descriptors.pending_inFront, Play.andThen, List.map_cons, Play.inTurn_cons, said_eq,
            Descriptors.questions_eq, List.map_append, Play.inTurn_append, Play.andThen_assoc,
            late, ← behind, ← map_inTurn_visits]
          simp only [Play.map_andThen, Play.bring_andThen, Play.andThen_assoc, Play.bring_bring]

def Single (fields : Descriptors) : Prop :=
  KeyedList.has fields "select_target" = true → KeyedList.has fields "select_option" = false

/-- What the questions of a record lead to keeps no results with questions. -/
def LeadsLightly (fields : Descriptors) : Prop :=
  ∀ key ∈ questionKeys, ∀ inquiry answer,
    fields.lookup key = some (question inquiry answer) →
      ∀ following : Descriptors, ComesTo answer (record following) → following.CarriesNothing

/-- Whatever the questions of a record are answered with opens another question. -/
def LeadsOn (fields : Descriptors) : Prop :=
  ∀ key ∈ questionKeys, ∀ inquiry answer,
    fields.lookup key = some (question inquiry answer) →
      ∀ following : Descriptors, ComesTo answer (record following) → following.asks = true

/-- A result that asks one question at most, with nothing waiting for it and
nothing asked by what the result or an answer keeps. -/
structure Steady (fields : Descriptors) : Prop where
  chainable : Chainable fields
  single : Single fields
  unawaited : pendingKey ∉ KeyedList.keys fields
  light : fields.CarriesNothing
  follow : LeadsLightly fields

theorem asked_put_askedKey (single : Single first) (payload : Outcome) :
    Descriptors.asked (KeyedList.put first.askedKey payload first.prompting) =
      questions payload := by
  have option := Descriptors.lookup_prompting first (by decide : "select_option" ∈ chainKeys)
  have target := Descriptors.lookup_prompting first (by decide : "select_target" ∈ chainKeys)
  rw [Descriptors.asked, questionsAt, questionsAt, KeyedList.lookup_put, KeyedList.lookup_put,
    option, target, Descriptors.askedKey]
  cases hasTarget : KeyedList.has first "select_target" with
  | true =>
      have absent : first.lookup "select_option" = none := by
        simpa [KeyedList.has] using single hasTarget
      simp [absent]
  | false =>
      have absent : first.lookup "select_target" = none := by
        simpa [KeyedList.has] using hasTarget
      simp [absent]

theorem asked_of_single (single : Single first) {payload : Outcome}
    (found : first.lookup first.askedKey = some payload) : first.asked = questions payload := by
  have foundPrompt : first.prompting.lookup first.askedKey = some payload := by
    rw [Descriptors.lookup_prompting first (List.mem_append_left _ first.askedKey_mem), found]
  have unchanged := asked_put_askedKey single payload
  rwa [KeyedList.put_of_lookup foundPrompt, Descriptors.asked_prompting] at unchanged

/-- A linked question leads to the waiting results behind everything that it
leads to by itself. -/
theorem map_questions_linked {inquiry : Inquiry}
    {answer : Choice → Engine Outcome}
    (shaped : Shaped (question inquiry answer))
    (paired : ∀ following : Descriptors, ComesTo answer (record following) → following.Paired)
    (light : ∀ following : Descriptors, ComesTo answer (record following) →
      following.CarriesNothing)
    {rest : List Descriptors} (each : ∀ waiting ∈ rest, Shaped (record waiting))
    (next : ∀ upcoming remaining, rest = upcoming :: remaining → remaining ≠ [] →
      (∀ following : Descriptors, ComesTo answer (record following) → following.asks = true) ∨
        upcoming.carried = .skip) :
    (questions (question inquiry (linked answer (rest.map record)))).map leavesOf =
      ((questions (question inquiry answer)).map leavesOf).andThen
        (.inTurn (rest.map fun waiting => (record waiting).said)) := by
  have step (moment : Moment) :
      (linked answer (rest.map record) moment.choice moment.board moment.session).2 =
          (answer moment.choice moment.board moment.session).2 ∧
        (visitAnswer (linked answer (rest.map record) moment.choice moment.board
            moment.session)).map leavesOf =
          ((visitAnswer (answer moment.choice moment.board moment.session)).map leavesOf).andThen
            (.inTurn (rest.map fun waiting => (record waiting).said)) := by
    rw [linked_apply]
    rcases own : answer moment.choice moment.board moment.session with ⟨failure | outcome, after⟩
    · exact ⟨rfl, rfl⟩
    · have comes : ComesTo answer outcome.orNothing := ⟨_, _, _, outcome, after, own, rfl⟩
      obtain ⟨isRecord, shapedOwn⟩ := shaped.isResult_of_answer own
      obtain ⟨following, same⟩ := isRecord.exists_eq
      rw [same] at comes shapedOwn
      obtain ⟨advanced, succeeds, said_advanced⟩ := exists_said_advance shapedOwn
        (paired following comes) (light following comes).carried_eq each
        fun upcoming remaining same several => (next upcoming remaining same several).imp_left
          fun asks => asks following comes
      have visited (result : Outcome) :
          (visitAnswer (.ok result, after)).map leavesOf = result.said := rfl
      have present : outcome.said = (record following).said := by
        rw [← same, said, said, visit_orNothing]
      simp only [same, succeeds, visited, said_advanced, present, and_self]
  rw [questions_question, questions_question, Play.map, Play.map, Play.andThen]
  refine congr (congrArg _ (funext fun moment => (step moment).1)) ?_
  exact funext fun moment => (step moment).2

theorem map_asked_chained (chainable : Chainable first) (asks : first.asks = true)
    {rest : List Descriptors} (each : ∀ waiting ∈ rest, Shaped (record waiting))
    (single : rest ≠ [] → Single first) (follow : rest ≠ [] → LeadsLightly first)
    (next : ∀ upcoming remaining, rest = upcoming :: remaining → remaining ≠ [] →
      LeadsOn first ∨ upcoming.carried = .skip) :
    (chained first rest).asked.map leavesOf =
      (first.asked.map leavesOf).andThen
        (.inTurn (rest.map fun waiting => (record waiting).said)) := by
  rw [chained]
  cases rest with
  | nil => simp [Descriptors.asked_prompting]
  | cons upcoming remaining =>
      obtain ⟨inquiry, answer, found, shapedQuestion⟩ := chainable.shaped.exists_asked asks
      have isKey := first.askedKey_mem
      have several : upcoming :: remaining ≠ [] := List.cons_ne_nil _ _
      rw [if_neg (by simp), found]
      simp only [asked_put_askedKey (single several), asked_of_single (single several) found]
      exact map_questions_linked shapedQuestion (chainable.answers _ isKey _ _ found)
        (follow several _ isKey _ _ found) each fun upcoming remaining same others =>
          (next upcoming remaining same others).imp_left fun leadsOn =>
            leadsOn _ isKey _ _ found

theorem pending_chained (first : Descriptors) (rest : List Descriptors) :
    (chained first rest).pending = first.pending := by
  have differs : pendingKey ≠ first.askedKey := by
    intro same
    have isKey := first.askedKey_mem
    rw [← same] at isKey
    exact absurd isKey (by decide)
  rw [← Descriptors.pending_prompting first, chained]
  split
  · rfl
  · split
    · rw [Descriptors.pending, KeyedList.lookup_put, if_neg differs, ← Descriptors.pending]
    · rfl

/-- What is said and asked when first everything is applied of the results that
ask nothing, and then one after another of those that ask is dealt with, each
with everything that its answer leads to before the next one is begun. -/
def oneAfterAnother (results : List Descriptors) : Play Leaves :=
  (Play.inTurn ((results.filter Descriptors.asks).map fun fields => (record fields).said)).bring
    ((results.filter fun fields => !fields.asks).map fun fields =>
      appliedLeaves (record fields)).sum

theorem Steady.pending_eq (steady : Steady fields) : fields.pending = [] := by
  rw [Descriptors.pending, KeyedList.lookup_eq_none_of_not_mem steady.unawaited]
  rfl

theorem Steady.said_eq (steady : Steady fields) :
    (record fields).said =
      (fields.asked.map leavesOf).bring (appliedLeaves (record fields)) := by
  rw [Outcome.said_eq, Descriptors.questions_eq, steady.pending_eq, steady.light.carried_eq]
  simp

theorem Steady.said_of_silent (steady : Steady fields) (silent : fields.asks = false) :
    (record fields).said = .finished (appliedLeaves (record fields)) :=
  said_of_unprompted (steady.chainable.paired.unprompted silent) steady.light.carried_eq

theorem oneAfterAnother_present (results : List Descriptors) :
    oneAfterAnother (present results) = oneAfterAnother results := by
  have asking : (present results).filter Descriptors.asks = results.filter Descriptors.asks := by
    rw [present, List.filter_filter]
    refine List.filter_congr fun fields _ => ?_
    cases fields with
    | nil => rfl
    | cons field rest => simp
  have silent : (((present results).filter fun fields => !fields.asks).map fun fields =>
      appliedLeaves (record fields)).sum =
        ((results.filter fun fields => !fields.asks).map fun fields =>
          appliedLeaves (record fields)).sum := by
    clear asking
    induction results with
    | nil => rfl
    | cons fields rest ih =>
        cases fields with
        | nil =>
            have unsaid : appliedLeaves (record []) = 0 := rfl
            have absent : present ([] :: rest) = present rest := rfl
            rw [absent, ih, List.filter_cons_of_pos rfl, List.map_cons, List.sum_cons, unsaid,
              zero_add]
        | cons field others =>
            have said : present ((field :: others) :: rest) =
                (field :: others) :: present rest := rfl
            rw [said]
            cases asks : Descriptors.asks (field :: others) <;> simp [asks, ih]
  rw [oneAfterAnother, oneAfterAnother, asking, silent]

/-- A merged result is dealt with as its results are one after another. -/
theorem MergedInto.said_eq {results : List Descriptors} {merged : Descriptors}
    (mergedInto : MergedInto results merged) (each : ∀ fields ∈ results, Steady fields) :
    (record merged).said = oneAfterAnother results := by
  have chainable : ∀ fields ∈ results, Chainable fields :=
    fun fields member => (each fields member).chainable
  cases mergedInto with
  | none => rfl
  | only =>
      have steady := each merged (List.mem_singleton_self _)
      cases asks : merged.asks with
      | true => simp [oneAfterAnother, asks]
      | false => simp [oneAfterAnother, asks, steady.said_of_silent asks, Play.skip, Play.bring]
  | @silent _ fitting colliding merged silent side =>
      have unprompted : ∀ fields ∈ results, Descriptors.Unprompted fields :=
        fun fields member => (chainable fields member).paired.unprompted (silent fields member)
      have distinct : ∀ fields ∈ results, (KeyedList.keys fields).Nodup :=
        fun fields member => (chainable fields member).shaped.distinct
      have light := side.carried_eq_skip unprompted fun fields member =>
        (each fields member).light.carried_eq
      have total := side.total_eq counts_appliedLeaves distinct
        fun fields member _ found => ((chainable fields member).shaped.suits found).composite rfl
      have nobody : results.filter Descriptors.asks = [] := by
        simpa [List.filter_eq_nil_iff] using silent
      have everybody : results.filter (fun fields => !fields.asks) = results := by
        simpa [List.filter_eq_self] using silent
      rw [said_of_unprompted (side.unprompted distinct unprompted) light, total, oneAfterAnother,
        nobody, everybody]
      simp [Play.skip, Play.bring]
  | @asking _ rest fitting colliding first merged asking unprompted side =>
      obtain ⟨isFirst, asks⟩ := mem_of_asking asking
      have steady := each first isFirst
      have shapedRest : ∀ waiting ∈ rest, Shaped (record waiting) := fun waiting member =>
        (chainable waiting (mem_of_asking_rest asking member).1).shaped
      have beside := shaped_besideFirst chainable isFirst
      have total := side.total_eq counts_appliedLeaves
        (fun fields member => (beside fields member).distinct)
        fun fields member _ found => ((beside fields member).suits found).composite rfl
      have light : merged.carried = .skip := by
        have paired := fun fields member => (chainable fields member).paired
        refine side.carried_eq_skip (unprompted_besideFirst paired) ?_
        rw [besideFirst, List.forall_mem_append, List.forall_mem_singleton,
          Descriptors.carried_immediate]
        refine ⟨fun fields member => ?_, steady.light.carried_eq⟩
        exact (each fields (List.mem_filter.1 member).1).light.carried_eq
      -- The result that an answer goes on to keeps nothing that could be put off.
      have next : ∀ upcoming remaining, rest = upcoming :: remaining → remaining ≠ [] →
          LeadsOn first ∨ upcoming.carried = .skip := by
        rintro upcoming remaining rfl -
        right
        have member := (mem_of_asking_rest asking (List.mem_cons_self ..)).1
        exact (each upcoming member).light.carried_eq
      have said_first := steady.said_eq
      rw [said_append_prompt unprompted fun _ => keys_chained, pending_chained, steady.pending_eq,
        light, total, oneAfterAnother, asking, List.map_cons, Play.inTurn_cons, said_first,
        besideFirst, List.map_append, List.sum_append]
      simp only [List.map_nil, Play.inTurn_nil, Play.andThen_skip,
        map_asked_chained steady.chainable asks shapedRest (fun _ => steady.single)
          (fun _ => steady.follow) next,
        Play.bring_andThen, Play.bring_bring, List.map_cons, List.sum_singleton,
        appliedLeaves_immediate]

/-- Merging refines dealing with results one after another: in every stage a walk
through the merged result stands at the same question and has applied the same
descriptors since the question before. -/
theorem merging_asks_one_after_another {results : List Descriptors}
    (steady : ∀ fields ∈ results, Steady fields) :
    ∃ merged, merge (results.map record) = .ok merged ∧
      ∀ session moments,
        (Walk.through merged session moments).map (Stage.map leavesOf) =
          (oneAfterAnother results).stages session moments := by
  have chainable : ∀ fields ∈ results, Chainable fields :=
    fun fields member => (steady fields member).chainable
  obtain ⟨merged, succeeds, mergedInto⟩ := exists_merge_eq chainable
  have within {fields : Descriptors} (member : fields ∈ present results) : fields ∈ results :=
    (List.mem_filter.1 member).1
  have result : IsResult (record merged) :=
    ⟨trivial, mergedInto.shaped fun fields member => chainable fields (within member)⟩
  refine ⟨record merged, succeeds, fun session moments => ?_⟩
  rw [Walk.through_eq_visit result, ← Play.stages_map, ← said,
    mergedInto.said_eq fun fields member => steady fields (within member),
    oneAfterAnother_present]

/-- A question with a follow-up, a result that asks nothing, and another
question. -/
def threeResults : List Descriptors :=
  [[("draw", int 1), ("select_target", promptFor "first"
      (record [("heal", int 1), ("select_option", promptFor "follow-up" nothing)]))],
    [("draw", int 2)],
    [("draw", int 3), ("select_option", promptFor "second" nothing)]]

theorem carriesNothing_of_not_mem (plain : compositeKey ∉ KeyedList.keys fields) :
    fields.CarriesNothing := by
  intro item member
  rw [Descriptors.kept, KeyedList.lookup_eq_none_of_not_mem plain] at member
  cases member

theorem Steady.of_plain (result : IsResult (record fields)) (single : Single fields)
    (unawaited : pendingKey ∉ KeyedList.keys fields) (plain : compositeKey ∉ KeyedList.keys fields)
    (follow : ∀ field ∈ fields, field.1 ∈ questionKeys → ∃ title follow,
      field.2 = promptFor title (record follow) ∧
        pendingKey ∉ KeyedList.keys follow ∧ compositeKey ∉ KeyedList.keys follow) :
    Steady fields := by
  refine ⟨.of_promptFor result (paired_of_unawaited unawaited) fun field member isKey => ?_, single,
    unawaited, carriesNothing_of_not_mem plain, ?_⟩
  · obtain ⟨title, next, asked, unawaited, -⟩ := follow field member isKey
    exact ⟨title, next, asked, unawaited⟩
  · intro key isKey inquiry answer found following comes
    obtain ⟨title, next, asked, -, plain⟩ := follow _ (KeyedList.mem_of_lookup found) isKey
    rw [eq_of_comesTo_promptFor asked.symm comes]
    exact carriesNothing_of_not_mem plain

theorem steady_threeResults : ∀ fields ∈ threeResults, Steady fields := by
  have followUp : IsResult
      (record [("heal", int 1), ("select_option", promptFor "follow-up" nothing)]) :=
    (IsResult.promptFor (by decide) .nothing).cons_free (by decide) (by decide)
  have first : IsResult (record [("draw", int 1), ("select_target", promptFor "first"
      (record [("heal", int 1), ("select_option", promptFor "follow-up" nothing)]))]) :=
    (IsResult.promptFor (by decide) followUp).cons_free (by decide) (by decide)
  have silent : IsResult (record [("draw", int 2)]) :=
    IsResult.nothing.cons_free (by decide) (by decide)
  have second : IsResult
      (record [("draw", int 3), ("select_option", promptFor "second" nothing)]) :=
    (IsResult.promptFor (by decide) .nothing).cons_free (by decide) (by decide)
  rw [threeResults]
  simp only [List.forall_mem_cons]
  refine ⟨.of_plain first (fun _ => rfl) (by decide) (by decide) ?_,
    .of_plain silent (fun _ => rfl) (by decide) (by decide) ?_,
    .of_plain second (fun has => ?_) (by decide) (by decide) ?_, fun _ member => nomatch member⟩
  · simp only [List.forall_mem_cons]
    refine ⟨fun isKey => absurd isKey (by decide), fun _ => ⟨_, _, rfl, by decide, by decide⟩, ?_⟩
    exact fun _ member => nomatch member
  · exact List.forall_mem_singleton.2 fun isKey => absurd isKey (by decide)
  · exact absurd has (by decide)
  · simp only [List.forall_mem_cons]
    refine ⟨fun isKey => absurd isKey (by decide), fun _ => ⟨_, [], rfl, by decide, by decide⟩, ?_⟩
    exact fun _ member => nomatch member

/-- The follow-up comes before the second question, and what goes with the second
question is only applied then. -/
theorem merging_threeResults_asks_one_after_another :
    ∃ merged, merge (threeResults.map record) = .ok merged ∧
      (Walk.through merged (default : Moment).session [default, default, default]).map
          (fun stage => (Multiset.card (stage.map leavesOf).applied, stage.standing.title?)) =
        [(2, some "first"), (1, some "follow-up"), (1, some "second"), (0, none)] := by
  obtain ⟨merged, succeeds, same⟩ := merging_asks_one_after_another steady_threeResults
  refine ⟨merged, succeeds, ?_⟩
  have stages := congrArg (List.map fun stage => (Multiset.card stage.applied,
    stage.standing.title?)) (same (default : Moment).session [default, default, default])
  rw [List.map_map] at stages
  exact stages

end Outcome

end CreatureCards
