import CreatureCards.Proofs.Tally

/-!
# Merging loses nothing

The tallies of a merged result are the sums of tallies of its parts.  Linking a
question to waiting results adds their tallies to whatever the question leads
to, and going on to a waiting result adds its tallies to those of the answer;
which of the two places a question or a descriptor is kept in makes no
difference to the sum.
-/

namespace CreatureCards

open scoped Pointwise

namespace Outcome

variable {fields first : Descriptors}

theorem sum_put_eq (distinct : (KeyedList.keys fields).Nodup) {key : String}
    {payload : Outcome} {more : Set Tally}
    (grows : fieldTallies (key, payload) =
      ((fields.lookup key).toList.map fun earlier => fieldTallies (key, earlier)).sum + more) :
    ((KeyedList.put key payload fields).map fieldTallies).sum =
      (fields.map fieldTallies).sum + more := by
  rw [((KeyedList.put_perm key payload distinct).map fieldTallies).sum_eq,
    ((KeyedList.perm_lookup key distinct).map fieldTallies).sum_eq, List.map_cons, List.sum_cons,
    grows, List.map_append, List.sum_append, List.map_map, add_right_comm]
  rfl

theorem sum_put_pending (shaped : Shaped (record fields)) (more : List Outcome) :
    ((KeyedList.put pendingKey (list (fields.pending ++ more)) fields).map fieldTallies).sum =
      (fields.map fieldTallies).sum + (more.map tallies).sum := by
  refine sum_put_eq shaped.distinct ?_
  rw [fieldTallies_pending, List.map_append, List.sum_append]
  congr 1
  cases found : fields.lookup pendingKey with
  | none => simp [Descriptors.pending, found]
  | some payload =>
      rw [shaped.pending_eq found]
      simp [fieldTallies_pending]

/-- What can be applied of a result and what is for a player to deal with make
up the result. -/
theorem tallies_immediate_add (shaped : Shaped (record fields)) :
    (record fields.immediate).tallies + (fields.prompting.map fieldTallies).sum =
      (record fields).tallies := by
  rw [counts_tallies.record _ shaped.immediate.distinct, counts_tallies.record _ shaped.distinct,
    Descriptors.immediate, Descriptors.prompting, add_comm, ← List.sum_append,
    ← List.map_append]
  exact ((List.filter_append_perm _ fields).map fieldTallies).sum_eq

theorem sum_inFront (shaped : Shaped (record fields)) (remaining : List Outcome) :
    ((inFront fields remaining).map fieldTallies).sum =
      (fields.prompting.map fieldTallies).sum + (remaining.map tallies).sum := by
  rw [inFront]
  split
  · rename_i isEmpty
    simp [List.isEmpty_iff.1 isEmpty]
  · rw [← Descriptors.pending_prompting]
    exact sum_put_pending shaped.prompting remaining

theorem exists_tallies_advance (shaped : Shaped (record fields)) (paired : fields.Paired)
    {rest : List Descriptors} (each : ∀ waiting ∈ rest, Shaped (record waiting)) :
    ∃ advanced, advance (record fields) (rest.map record) = .ok advanced ∧
      advanced.tallies =
        (record fields).tallies + (rest.map fun waiting => (record waiting).tallies).sum := by
  cases rest with
  | nil => exact ⟨record fields, rfl, by simp⟩
  | cons upcoming remaining =>
      obtain ⟨shapedUpcoming, shapedRemaining⟩ := List.forall_mem_cons.1 each
      have behind : ((remaining.map record).map tallies).sum =
          (remaining.map fun waiting => (record waiting).tallies).sum := by
        rw [List.map_map]
        rfl
      cases asks : fields.asks with
      | true =>
          -- The answer asks: the others wait behind its own question.
          refine ⟨_, advance_of_asks shaped.formed asks _ _, ?_⟩
          rw [counts_tallies.record _ (KeyedList.nodup_keys_put _ _ shaped.distinct),
            sum_put_pending shaped, ← counts_tallies.record _ shaped.distinct, List.map_cons,
            List.sum_cons, behind, List.map_cons, List.sum_cons]
      | false =>
          obtain ⟨merged, fitting, colliding, advanced, unprompted, side⟩ :=
            exists_advance_of_silent shaped.formed paired asks shapedUpcoming.formed
              (remaining.map record)
          -- The answer is silent: it is combined with the immediate part of the next one.
          have both : ∀ result ∈ [fields, upcoming.immediate], Shaped (record result) := by
            simpa using ⟨shaped, shapedUpcoming.immediate⟩
          have whole : Shaped (record (merged ++ inFront upcoming (remaining.map record))) := by
            refine (side.shaped both).append (shaped_inFront shapedUpcoming ?_) ?_
            · simpa using shapedRemaining
            · exact fun key member => unprompted key (keys_inFront member)
          have total := side.total_eq counts_tallies
            (fun result member => (both result member).distinct)
            fun result member _ found => ((both result member).suits found).composite rfl
          refine ⟨_, advanced, ?_⟩
          rw [counts_tallies.record _ whole.distinct, List.map_append, List.sum_append,
            ← counts_tallies.record _ side.nodup_keys, total, sum_inFront shapedUpcoming, behind]
          simp only [List.map_cons, List.map_nil, List.sum_cons, List.sum_nil, add_zero,
            ← tallies_immediate_add shapedUpcoming, add_assoc]

theorem tallies_linked {inquiry : Inquiry}
    {answer : Choice → Engine Outcome}
    (shaped : Shaped (question inquiry answer))
    (paired : ∀ following : Descriptors, ComesTo answer (record following) → following.Paired)
    {rest : List Descriptors} (each : ∀ waiting ∈ rest, Shaped (record waiting)) :
    (questions (question inquiry (linked answer (rest.map record)))).tallies =
      (questions (question inquiry answer)).tallies +
        (rest.map fun waiting => (record waiting).tallies).sum := by
  rw [tallies_question, tallies_question, Set.iUnion_add]
  refine Set.iUnion_congr fun moment => ?_
  rw [add_assoc]
  congr 1
  rw [linked_apply]
  rcases own : answer moment.choice moment.board moment.session with ⟨failure | outcome, after⟩
  · simp [visitAnswer, visitAnswered, Play.tallies]
  · have comes : ComesTo answer outcome.orNothing :=
      ⟨_, _, _, outcome, after, own, rfl⟩
    obtain ⟨isRecord, shapedOwn⟩ := shaped.isResult_of_answer own
    obtain ⟨following, same⟩ := isRecord.exists_eq
    rw [same] at comes shapedOwn
    obtain ⟨advanced, succeeds, total⟩ :=
      exists_tallies_advance shapedOwn (paired following comes) each
    have visited (result : Outcome) (session : Session) :
        (visitAnswer (.ok result, session)).tallies = result.tallies := rfl
    have present : outcome.tallies = (record following).tallies := by
      rw [← same, tallies, tallies, visit_orNothing]
    simp only [same, succeeds, visited, total, present]

theorem sum_chained (chainable : Chainable first) (asks : first.asks = true)
    {rest : List Descriptors} (each : ∀ waiting ∈ rest, Shaped (record waiting)) :
    ((chained first rest).map fieldTallies).sum =
      (first.prompting.map fieldTallies).sum +
        (rest.map fun waiting => (record waiting).tallies).sum := by
  obtain ⟨shaped, -, answers⟩ := chainable
  obtain ⟨inquiry, answer, found, shapedQuestion⟩ := shaped.exists_asked asks
  have isKey := first.askedKey_mem
  rw [chained]
  split
  · rename_i isEmpty
    simp [List.isEmpty_iff.1 isEmpty]
  · simp only [found]
    refine sum_put_eq shaped.prompting.distinct ?_
    have foundPrompt : first.prompting.lookup first.askedKey = some (question inquiry answer) := by
      rw [Descriptors.lookup_prompting first (List.mem_append_left _ isKey), found]
    rw [foundPrompt, fieldTallies_question isKey,
      tallies_linked shapedQuestion (answers _ isKey _ _ found) each]
    simp [fieldTallies_question isKey]

theorem sum_present (results : List Descriptors) :
    ((present results).map fun fields => (record fields).tallies).sum =
      (results.map fun fields => (record fields).tallies).sum := by
  induction results with
  | nil => rfl
  | cons fields rest ih =>
      have absent : (record []).tallies = 0 := by
        rw [counts_tallies.record [] .nil]
        rfl
      cases fields with
      | nil =>
          rw [List.map_cons, List.sum_cons, absent, zero_add, ← ih]
          rfl
      | cons field others =>
          rw [List.map_cons, List.sum_cons, ← ih]
          rfl

/-- Merged results have the sums of the tallies of the results. -/
theorem MergedInto.tallies_eq {results : List Descriptors} {merged : Descriptors}
    (mergedInto : MergedInto results merged) (each : ∀ fields ∈ results, Chainable fields) :
    (record merged).tallies = (results.map fun fields => (record fields).tallies).sum := by
  cases mergedInto with
  | none =>
      rw [counts_tallies.record [] .nil]
      rfl
  | only => simp
  | silent silent side =>
      exact side.total_eq counts_tallies (fun fields member => (each fields member).shaped.distinct)
        fun fields member _ found => ((each fields member).shaped.suits found).composite rfl
  | @asking _ rest fitting colliding first merged asking unprompted side =>
      obtain ⟨isFirst, asks⟩ := mem_of_asking asking
      have shapedRest : ∀ waiting ∈ rest, Shaped (record waiting) := fun waiting member =>
        (each waiting (mem_of_asking_rest asking member).1).shaped
      have beside := shaped_besideFirst each isFirst
      have whole := shaped_append_chained each asking unprompted side
      have total := side.total_eq counts_tallies
        (fun fields member => (beside fields member).distinct)
        fun fields member _ found => ((beside fields member).suits found).composite rfl
      -- The others are counted in the combined part, or in the link of the first question.
      have parted := ((List.filter_append_perm Descriptors.asks results).map fun fields =>
        (record fields).tallies).sum_eq
      rw [counts_tallies.record _ whole.distinct, List.map_append, List.sum_append,
        ← counts_tallies.record _ side.nodup_keys, total,
        sum_chained (each first isFirst) asks shapedRest, ← parted, asking, besideFirst,
        List.map_append, List.map_append, List.sum_append, List.sum_append]
      simp only [List.map_cons, List.map_nil, List.sum_cons, List.sum_nil, add_zero,
        ← tallies_immediate_add (each first isFirst).shaped]
      abel

/-- Tallies of a sum are left by walks through each of the results. -/
theorem mem_sum_tallies_iff {results : List Descriptors}
    (each : ∀ fields ∈ results, Shaped (record fields)) {tally : Tally} :
    tally ∈ (results.map fun fields => (record fields).tallies).sum ↔
      ∃ tallies : List Tally,
        List.Forall₂ (fun fields own => Walk.CanLeave (record fields) own) results tallies ∧
          tally = tallies.sum := by
  induction results generalizing tally with
  | nil => simp
  | cons fields rest ih =>
      obtain ⟨shaped, others⟩ := List.forall_mem_cons.1 each
      have result : IsResult (record fields) := ⟨trivial, shaped⟩
      rw [List.map_cons, List.sum_cons, Set.mem_add]
      constructor
      · rintro ⟨own, member, behind, inRest, rfl⟩
        obtain ⟨tallies, forall₂, rfl⟩ := (ih others).1 inRest
        exact ⟨own :: tallies, .cons ((Walk.mem_tallies_iff result).1 member) forall₂,
          List.sum_cons.symm⟩
      · rintro ⟨_, _ | ⟨leaves, forall₂⟩, rfl⟩
        exact ⟨_, (Walk.mem_tallies_iff result).2 leaves, _, (ih others).2 ⟨_, forall₂, rfl⟩,
          List.sum_cons.symm⟩

/-- Merging loses and doubles nothing: carried to its end, a walk through the
merged result asks the questions and applies the descriptors of walks through
the single results, each counted as often as it occurs; and any such walks add
up to one through the merged result. -/
theorem merging_loses_nothing {results : List Descriptors}
    (chainable : ∀ fields ∈ results, Chainable fields) :
    ∃ merged, merge (results.map record) = .ok merged ∧
      ∀ tally, Walk.CanLeave merged tally ↔
        ∃ tallies : List Tally,
          List.Forall₂ (fun fields own => Walk.CanLeave (record fields) own) results tallies ∧
            tally = tallies.sum := by
  obtain ⟨merged, succeeds, mergedInto⟩ := exists_merge_eq chainable
  have each : ∀ fields ∈ present results, Chainable fields :=
    fun fields member => chainable fields (List.mem_filter.1 member).1
  have result : IsResult (record merged) := ⟨trivial, mergedInto.shaped each⟩
  refine ⟨record merged, succeeds, fun tally => ?_⟩
  rw [← Walk.mem_tallies_iff result, mergedInto.tallies_eq each, sum_present]
  exact mem_sum_tallies_iff fun fields member => (chainable fields member).shaped

/-- Two results with a key in common.  One has a follow-up and keeps a question;
the other asks for a target and an option, and a further question waits for
both. -/
def collidingResults : List Descriptors :=
  [[("draw", int 1), ("select_target", promptFor "first"
      (record [("select_option", promptFor "follow-up" nothing)])),
      (compositeKey, list [record [("select_target", promptFor "kept" nothing)]])],
    [("draw", int 2), ("select_target", promptFor "second" nothing),
      ("select_option", promptFor "third" nothing),
      (pendingKey, list [record [("select_option", promptFor "waiting" nothing)]])]]

theorem chainable_collidingResults : ∀ fields ∈ collidingResults, Chainable fields := by
  have kept : IsResult (record [("select_target", promptFor "kept" nothing)]) :=
    .promptFor (by decide) .nothing
  have waiting : IsResult (record [("select_option", promptFor "waiting" nothing)]) :=
    .promptFor (by decide) .nothing
  have followUp : IsResult (record [("select_option", promptFor "follow-up" nothing)]) :=
    .promptFor (by decide) .nothing
  have first : IsResult (record [("draw", int 1), ("select_target", promptFor "first"
      (record [("select_option", promptFor "follow-up" nothing)])),
      (compositeKey, list [record [("select_target", promptFor "kept" nothing)]])]) :=
    ((IsResult.nothing.cons_kept (by decide) (List.forall_mem_singleton.2 kept)).cons_promptFor
      (by decide) (by decide) followUp).cons_free (by decide) (by decide)
  have second : IsResult (record [("draw", int 2), ("select_target", promptFor "second" nothing),
      ("select_option", promptFor "third" nothing),
      (pendingKey, list [record [("select_option", promptFor "waiting" nothing)]])]) :=
    (((IsResult.nothing.cons_pending (by decide)
      (List.forall_mem_singleton.2 waiting.shaped)).cons_promptFor (by decide) (by decide)
        .nothing).cons_promptFor (by decide) (by decide) .nothing).cons_free (by decide) (by decide)
  rw [collidingResults, List.forall_mem_cons, List.forall_mem_singleton]
  refine ⟨.of_promptFor first (paired_of_unawaited (by decide)) ?_,
    .of_promptFor second (fun _ => rfl) ?_⟩
  · simp only [List.forall_mem_cons]
    refine ⟨fun isKey => absurd isKey (by decide), fun _ => ⟨_, _, rfl, by decide⟩,
      fun isKey => absurd isKey (by decide), fun _ member => nomatch member⟩
  · simp only [List.forall_mem_cons]
    refine ⟨fun isKey => absurd isKey (by decide), fun _ => ⟨_, [], rfl, by decide⟩,
      fun _ => ⟨_, [], rfl, by decide⟩, fun isKey => absurd isKey (by decide),
      fun _ member => nomatch member⟩

theorem merging_collidingResults_loses_nothing :
    ∃ merged, merge (collidingResults.map record) = .ok merged ∧
      ∀ tally, Walk.CanLeave merged tally ↔
        ∃ tallies : List Tally,
          List.Forall₂ (fun fields own => Walk.CanLeave (record fields) own)
            collidingResults tallies ∧ tally = tallies.sum :=
  merging_loses_nothing chainable_collidingResults

end Outcome

end CreatureCards
