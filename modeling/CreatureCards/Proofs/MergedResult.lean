import CreatureCards.Proofs.Combining

/-!
# Merged results

A merged result has two parts.  One is what its results come to side by side,
with nothing for a player to deal with; behind it stands the prompting part of
one result, whose question is linked to the results that wait for it.  The same
holds of a continuation that goes on to the next waiting result.

Results can be chained when others wait only beside a question of theirs, and
when the same is true of what their questions lead to.
-/

namespace CreatureCards

open Outcome

namespace Descriptors

variable {fields merged prompt : Descriptors}

def Unprompted (fields : Descriptors) : Prop :=
  ∀ key ∈ chainKeys, key ∉ KeyedList.keys fields

theorem asks_eq (fields : Descriptors) :
    fields.asks = true ↔ ∃ key ∈ questionKeys, key ∈ KeyedList.keys fields := by
  simp [asks, KeyedList.has_iff_mem_keys]

/-- Where results wait only beside a question, a record without one has nothing
for a player to deal with. -/
theorem Paired.unprompted (paired : fields.Paired) (silent : fields.asks = false) :
    fields.Unprompted := by
  intro key chain member
  obtain isQuestion | isPending := List.mem_append.1 chain
  · have asks : fields.asks = true := (asks_eq fields).2 ⟨key, isQuestion, member⟩
    simp [silent] at asks
  · rw [List.mem_singleton.1 isPending] at member
    have asks := paired (KeyedList.has_iff_mem_keys.2 member)
    simp [silent] at asks

theorem unprompted_immediate (fields : Descriptors) : (immediate fields).Unprompted := by
  intro key chain member
  obtain ⟨field, kept, rfl⟩ := List.mem_map.1 member
  have free := (List.mem_filter.1 kept).2
  simp [chain] at free

theorem mem_chainKeys_of_prompting {key : String}
    (member : key ∈ KeyedList.keys (prompting fields)) : key ∈ chainKeys := by
  obtain ⟨field, kept, rfl⟩ := List.mem_map.1 member
  simpa using (List.mem_filter.1 kept).2

theorem lookup_immediate (fields : Descriptors) {key : String} (free : key ∉ chainKeys) :
    (immediate fields).lookup key = fields.lookup key := by
  rw [immediate, KeyedList.lookup_filter fun key => !chainKeys.contains key,
    if_pos (by simpa using free)]

theorem pending_prompting (fields : Descriptors) : (prompting fields).pending = fields.pending := by
  rw [pending, lookup_prompting fields (by decide), pending]

theorem kept_immediate (fields : Descriptors) : (immediate fields).kept = fields.kept := by
  rw [kept, lookup_immediate fields (by decide), kept]

/-- What a player has to deal with is looked up behind fields without any. -/
theorem lookup_append_prompt (unprompted : merged.Unprompted) {key : String}
    (chain : key ∈ chainKeys) : (merged ++ prompt).lookup key = prompt.lookup key := by
  rw [List.lookup_append, KeyedList.lookup_eq_none_of_not_mem (unprompted key chain)]
  rfl

theorem kept_append_prompt (chain : ∀ key ∈ KeyedList.keys prompt, key ∈ chainKeys) :
    (merged ++ prompt).kept = merged.kept := by
  have absent : compositeKey ∉ KeyedList.keys prompt :=
    fun member => absurd (chain _ member) (by decide)
  rw [kept, List.lookup_append, KeyedList.lookup_eq_none_of_not_mem absent, Option.or_none, kept]

/-- The key of the question that is asked first. -/
def askedKey (fields : Descriptors) : String :=
  if KeyedList.has fields "select_target" then "select_target" else "select_option"

theorem askedKey_mem (fields : Descriptors) : fields.askedKey ∈ questionKeys := by
  rw [askedKey]
  split <;> decide

theorem askedKey_prompting (fields : Descriptors) :
    (prompting fields).askedKey = fields.askedKey := by
  rw [askedKey, KeyedList.has, lookup_prompting fields (by decide), ← KeyedList.has, askedKey]

theorem Formed.immediate (formed : fields.Formed) : Formed (immediate fields) :=
  formed.filter _

theorem Formed.prompting (formed : fields.Formed) : Formed (prompting fields) :=
  formed.filter _

theorem Formed.exists_asked (formed : fields.Formed) (asks : fields.asks = true) :
    ∃ inquiry answer, fields.lookup fields.askedKey = some (question inquiry answer) := by
  obtain ⟨key, isKey, member⟩ := (asks_eq fields).1 asks
  -- With both keys the target comes first; with one of them it is that one.
  have known : KeyedList.has fields fields.askedKey = true := by
    rw [askedKey]
    split
    · assumption
    · rename_i notTarget
      rw [KeyedList.has_iff_mem_keys] at notTarget ⊢
      have isOption : key = "select_option" := by
        simp only [questionKeys, List.mem_cons, List.not_mem_nil, or_false] at isKey
        refine isKey.resolve_left ?_
        rintro rfl
        exact notTarget member
      exact isOption ▸ member
  obtain ⟨payload, found⟩ := Option.isSome_iff_exists.1 known
  obtain ⟨inquiry, answer, rfl⟩ :=
    ((formed.suits_of_lookup found).question fields.askedKey_mem).exists_eq
  exact ⟨inquiry, answer, found⟩

end Descriptors

namespace Outcome

theorem Shaped.immediate {fields : Descriptors} (shaped : Shaped (record fields)) :
    Shaped (record fields.immediate) :=
  shaped.filter _

theorem Shaped.prompting {fields : Descriptors} (shaped : Shaped (record fields)) :
    Shaped (record fields.prompting) :=
  shaped.filter _

theorem SideBySide.unprompted {results fitting colliding : List Descriptors}
    {merged : Descriptors} (side : SideBySide results fitting colliding merged)
    (distinct : ∀ fields ∈ results, (KeyedList.keys fields).Nodup)
    (each : ∀ fields ∈ results, Descriptors.Unprompted fields) :
    Descriptors.Unprompted merged := by
  intro key chain member
  have plain : key ≠ compositeKey := by
    rintro rfl
    exact absurd chain (by decide)
  obtain ⟨payload, found⟩ := Option.isSome_iff_exists.1 (KeyedList.has_iff_mem_keys.2 member)
  obtain ⟨fields, isResult, own⟩ := side.exists_of_lookup distinct plain found
  exact each fields isResult key chain (KeyedList.has_iff_mem_keys.1 (by simp [KeyedList.has, own]))

/-- A result that can be chained: others wait only beside a question of it or of
what its own questions lead to. -/
structure Chainable (fields : Descriptors) : Prop where
  shaped : Shaped (record fields)
  paired : fields.Paired
  answers : ∀ key ∈ questionKeys, ∀ inquiry answer,
    fields.lookup key = some (question inquiry answer) →
      ∀ following : Descriptors, ComesTo answer (record following) → following.Paired

theorem paired_of_unawaited {fields : Descriptors}
    (unawaited : pendingKey ∉ KeyedList.keys fields) : fields.Paired :=
  fun awaited => absurd (KeyedList.has_iff_mem_keys.1 awaited) unawaited

theorem Chainable.of_unprompted {fields : Descriptors} (shaped : Shaped (record fields))
    (unprompted : fields.Unprompted) : Chainable fields where
  shaped := shaped
  paired := paired_of_unawaited (unprompted pendingKey (by decide))
  answers key isKey inquiry answer found := by
    rw [KeyedList.lookup_eq_none_of_not_mem
      (unprompted key (List.mem_append_left _ isKey))] at found
    cases found

theorem Chainable.nil : Chainable [] :=
  .of_unprompted IsResult.nothing.shaped fun _ _ => List.not_mem_nil

/-- A plain question leads to one result only. -/
theorem eq_of_comesTo_promptFor {title : String} {follow following : Descriptors}
    {inquiry : Inquiry} {answer : Choice → Engine Outcome}
    (asked : promptFor title (record follow) = question inquiry answer)
    (comes : ComesTo answer (record following)) : following = follow := by
  cases asked
  obtain ⟨_, _, _, _, _, ⟨⟩, same⟩ := comes
  rw [orNothing] at same
  cases follow with
  | nil => exact record.inj same
  | cons field rest => exact record.inj same

theorem Chainable.of_promptFor {fields : Descriptors} (result : IsResult (record fields))
    (paired : fields.Paired)
    (plain : ∀ field ∈ fields, field.1 ∈ questionKeys → ∃ title follow,
      field.2 = promptFor title (record follow) ∧ pendingKey ∉ KeyedList.keys follow) :
    Chainable fields where
  shaped := result.shaped
  paired := paired
  answers key isKey inquiry answer found following comes := by
    obtain ⟨title, follow, asked, unawaited⟩ := plain _ (KeyedList.mem_of_lookup found) isKey
    rw [eq_of_comesTo_promptFor asked.symm comes]
    exact paired_of_unawaited unawaited

theorem Shaped.exists_asked {fields : Descriptors} (shaped : Shaped (record fields))
    (asks : fields.asks = true) :
    ∃ inquiry answer, fields.lookup fields.askedKey = some (question inquiry answer) ∧
      Shaped (question inquiry answer) := by
  obtain ⟨inquiry, answer, found⟩ := shaped.formed.exists_asked asks
  have isPart : question inquiry answer ∈ parts fields.askedKey (question inquiry answer) := by
    rw [parts_of_question fields.askedKey_mem]
    exact List.mem_singleton_self _
  exact ⟨inquiry, answer, found, shaped.part found isPart⟩

theorem asks_record (fields : Descriptors) : (record fields).asks = .ok fields.asks := by
  have target : (record fields).mentions "select_target" =
      .ok (KeyedList.has fields "select_target") := rfl
  have option : (record fields).mentions "select_option" =
      .ok (KeyedList.has fields "select_option") := rfl
  cases fields with
  | nil => rfl
  | cons field rest =>
      rw [Outcome.asks, target, option]
      simp only [bind, Except.bind, isTruthy, pure, Except.pure, Descriptors.asks, questionKeys,
        List.any_cons, List.any_nil]
      cases KeyedList.has (field :: rest) "select_target" <;>
        cases KeyedList.has (field :: rest) "select_option" <;> rfl

def linked (answer : Choice → Engine Outcome) (rest : List Outcome) (choice : Choice) :
    Engine Outcome := do
  let result : Outcome ← answer choice
  Engine.orFail (advance result.orNothing rest)

theorem linked_apply (answer : Choice → Engine Outcome) (rest : List Outcome) (choice : Choice)
    (board : Board) (session : Session) :
    linked answer rest choice board session = match answer choice board session with
      | (.ok outcome, after) => (advance outcome.orNothing rest, after)
      | (.error failure, after) => (.error failure, after) := by
  rw [linked, Engine.bind_apply]
  rcases answer choice board session with ⟨failure | outcome, after⟩
  · rfl
  · change Engine.orFail (advance outcome.orNothing rest) board after =
      (advance outcome.orNothing rest, after)
    cases advance outcome.orNothing rest <;> rfl

theorem link_eq {prompt : Descriptors} {inquiry : Inquiry}
    {answer : Choice → Engine Outcome}
    (found : prompt.lookup prompt.askedKey = some (question inquiry answer))
    (rest : List Outcome) :
    link prompt rest =
      .ok (KeyedList.put prompt.askedKey (question inquiry (linked answer rest)) prompt) := by
  have keyed : (if KeyedList.has prompt "select_target" then "select_target"
      else "select_option") = prompt.askedKey := rfl
  rw [link]
  simp only [keyed, found]
  rfl

theorem advance_of_asks {fields : Descriptors} (formed : fields.Formed)
    (asks : fields.asks = true) (upcoming : Outcome) (remaining : List Outcome) :
    advance (record fields) (upcoming :: remaining) =
      .ok (record (KeyedList.put pendingKey
        (list (fields.pending ++ upcoming :: remaining)) fields)) := by
  -- A copy of the answer, with the others behind what waits in it already.
  have copied : addTo [] (record fields) = .ok fields := by
    have same : KeyedList.putAll [] fields = [] ++ fields :=
      KeyedList.putAll_of_disjoint formed.distinct fun _ _ => List.not_mem_nil
    rw [addTo, same, List.nil_append]
  have behind : queued fields (upcoming :: remaining) =
      .ok (list (fields.pending ++ upcoming :: remaining)) := by
    rw [queued]
    cases found : fields.lookup pendingKey with
    | none => simp [Descriptors.pending, found, bind, Except.bind, pure, Except.pure]
    | some payload =>
        rw [formed.pending_eq found]
        rfl
  simp [advance, asks_record, asks, copied, behind, bind, Except.bind, pure, Except.pure]

/-- The prompting part of a result with further results behind those that wait
for it. -/
def inFront (upcoming : Descriptors) (remaining : List Outcome) : Descriptors :=
  if remaining.isEmpty then upcoming.prompting
  else KeyedList.put pendingKey (list (upcoming.pending ++ remaining)) upcoming.prompting

theorem keys_inFront {upcoming : Descriptors} {remaining : List Outcome} {key : String}
    (member : key ∈ KeyedList.keys (inFront upcoming remaining)) : key ∈ chainKeys := by
  rw [inFront] at member
  split at member
  · exact Descriptors.mem_chainKeys_of_prompting member
  · obtain ⟨field, isField, rfl⟩ := List.mem_map.1 member
    obtain rfl | known := KeyedList.mem_put isField
    · exact List.mem_append_right _ (List.mem_singleton_self _)
    · exact Descriptors.mem_chainKeys_of_prompting (List.mem_map.2 ⟨field, known, rfl⟩)

theorem shaped_inFront {upcoming : Descriptors} (shaped : Shaped (record upcoming))
    {remaining : List Outcome} (each : ∀ item ∈ remaining, Shaped item) :
    Shaped (record (inFront upcoming remaining)) := by
  rw [inFront]
  split
  · exact shaped.prompting
  · refine Shaped.put shaped.prompting (.of_pending _) fun item member => ?_
    rw [parts_pendingKey, items_list] at member
    exact (List.mem_append.1 member).elim shaped.of_mem_pending (each item)

theorem exists_combine_formed (results : List Descriptors)
    (each : ∀ fields ∈ results, fields.Formed) :
    ∃ merged fitting colliding, combine (results.map record) = .ok merged ∧
      SideBySide results fitting colliding merged :=
  exists_combine_eq (fun fields member => (each fields member).distinct)
    fun fields member _ found => ((each fields member).suits_of_lookup found).composite rfl

/-- An answer that opened no question goes on to the next waiting result. -/
theorem exists_advance_of_silent {fields upcoming : Descriptors} (formed : fields.Formed)
    (paired : fields.Paired) (silent : fields.asks = false)
    (formedUpcoming : upcoming.Formed) (remaining : List Outcome) :
    ∃ (merged : Descriptors) (fitting colliding : List Descriptors),
      advance (record fields) (record upcoming :: remaining) =
        .ok (record (merged ++ inFront upcoming remaining)) ∧
      merged.Unprompted ∧
      SideBySide [fields, upcoming.immediate] fitting colliding merged := by
  obtain ⟨merged, fitting, colliding, combined, side⟩ :=
    exists_combine_formed [fields, upcoming.immediate]
      (by simpa using ⟨formed, formedUpcoming.immediate⟩)
  rw [List.map_cons, List.map_cons, List.map_nil] at combined
  have unprompted : merged.Unprompted := by
    refine side.unprompted ?_ ?_
    · simpa using ⟨formed.distinct, formedUpcoming.immediate.distinct⟩
    · simpa using ⟨paired.unprompted silent, Descriptors.unprompted_immediate upcoming⟩
  -- Nothing prompting was merged so far, so the prompting part of the next one goes
  -- behind it without replacing anything.
  have appended : KeyedList.putAll merged upcoming.prompting = merged ++ upcoming.prompting := by
    refine KeyedList.putAll_of_disjoint formedUpcoming.prompting.distinct fun key member => ?_
    exact unprompted key (Descriptors.mem_chainKeys_of_prompting member)
  have behind : queued upcoming.prompting remaining =
      .ok (list (upcoming.pending ++ remaining)) := by
    rw [queued, Descriptors.lookup_prompting upcoming (by decide)]
    cases found : upcoming.lookup pendingKey with
    | none => simp [Descriptors.pending, found, bind, Except.bind, pure, Except.pure]
    | some payload =>
        rw [formedUpcoming.pending_eq found]
        rfl
  refine ⟨merged, fitting, colliding, ?_, unprompted, side⟩
  have upcomingFields : (record upcoming).fields = .ok upcoming := rfl
  simp only [advance, asks_record, silent, upcomingFields, combined, appended, behind, bind,
    Except.bind, pure, Except.pure, inFront]
  cases remaining with
  | nil => rfl
  | cons next rest =>
      rw [if_neg (by simp), if_neg (by simp), KeyedList.put_append_of_not_mem
        (unprompted pendingKey (by decide))]
      rfl

theorem exists_isResult_advance {fields : Descriptors} (shaped : Shaped (record fields))
    (paired : fields.Paired) {rest : List Descriptors}
    (each : ∀ waiting ∈ rest, Shaped (record waiting)) :
    ∃ advanced, advance (record fields) (rest.map record) = .ok advanced ∧ IsResult advanced := by
  cases rest with
  | nil => exact ⟨record fields, rfl, trivial, shaped⟩
  | cons upcoming remaining =>
      obtain ⟨shapedUpcoming, shapedRemaining⟩ := List.forall_mem_cons.1 each
      have waiting : ∀ item ∈ remaining.map record, Shaped item := by
        simpa using shapedRemaining
      cases asks : fields.asks with
      | true =>
          refine ⟨_, advance_of_asks shaped.formed asks _ _, trivial, shaped.put (.of_pending _) ?_⟩
          intro item member
          rw [parts_pendingKey, items_list] at member
          obtain own | behind := List.mem_append.1 member
          · exact shaped.of_mem_pending own
          · exact (List.mem_cons.1 behind).elim (fun same => same ▸ shapedUpcoming) (waiting item)
      | false =>
          obtain ⟨merged, fitting, colliding, advanced, unprompted, side⟩ :=
            exists_advance_of_silent shaped.formed paired asks shapedUpcoming.formed
              (remaining.map record)
          have shapedMerged : Shaped (record merged) :=
            side.shaped (by simpa using ⟨shaped, shapedUpcoming.immediate⟩)
          refine ⟨_, advanced, trivial,
            shapedMerged.append (shaped_inFront shapedUpcoming waiting) fun key member => ?_⟩
          exact unprompted key (keys_inFront member)

theorem Shaped.linked {inquiry : Inquiry}
    {answer : Choice → Engine Outcome}
    (shaped : Shaped (question inquiry answer))
    (paired : ∀ following : Descriptors, ComesTo answer (record following) → following.Paired)
    {rest : List Descriptors} (each : ∀ waiting ∈ rest, Shaped (record waiting)) :
    Shaped (question inquiry (linked answer (rest.map record))) := by
  have results (result : Outcome)
      (comes : ComesTo (Outcome.linked answer (rest.map record)) result) :
      IsResult result := by
    obtain ⟨choice, board, session, advanced, after, answered, rfl⟩ := comes
    rw [Outcome.linked_apply] at answered
    rcases own : answer choice board session with ⟨failure | outcome, later⟩
    · simp [own] at answered
    · have comesOwn : ComesTo answer outcome.orNothing :=
        ⟨choice, board, session, outcome, later, own, rfl⟩
      obtain ⟨isRecord, shapedOwn⟩ := shaped.isResult_of_answer own
      obtain ⟨fields, same⟩ := isRecord.exists_eq
      rw [same] at comesOwn shapedOwn
      obtain ⟨result, succeeds, isResult⟩ :=
        exists_isResult_advance shapedOwn (paired fields comesOwn) each
      simp only [own, same, succeeds, Prod.mk.injEq, Except.ok.injEq] at answered
      exact answered.1 ▸ isResult.orNothing
  exact .prompt (fun result comes => (results result comes).isRecord)
    fun result comes => (results result comes).shaped

/-- The prompting part of a result, its first question linked to waiting
results. -/
def chained (first : Descriptors) (rest : List Descriptors) : Descriptors :=
  if rest.isEmpty then first.prompting
  else
    match first.lookup first.askedKey with
    | some (question inquiry answer) =>
      KeyedList.put first.askedKey (question inquiry (linked answer (rest.map record)))
        first.prompting
    | _ => first.prompting

theorem link_prompting {first : Descriptors} (formed : first.Formed)
    (asks : first.asks = true) (upcoming : Descriptors) (remaining : List Descriptors) :
    link first.prompting ((upcoming :: remaining).map record) =
      .ok (chained first (upcoming :: remaining)) := by
  obtain ⟨inquiry, answer, found⟩ := formed.exists_asked asks
  have foundPrompt : first.prompting.lookup first.prompting.askedKey =
      some (question inquiry answer) := by
    rw [Descriptors.askedKey_prompting, Descriptors.lookup_prompting first
      (List.mem_append_left _ first.askedKey_mem), found]
  rw [link_eq foundPrompt, Descriptors.askedKey_prompting, chained, if_neg (by simp), found]

theorem keys_chained {first : Descriptors} {rest : List Descriptors} {key : String}
    (member : key ∈ KeyedList.keys (chained first rest)) : key ∈ chainKeys := by
  rw [chained] at member
  split at member
  · exact Descriptors.mem_chainKeys_of_prompting member
  · split at member
    · obtain ⟨field, isField, rfl⟩ := List.mem_map.1 member
      obtain rfl | known := KeyedList.mem_put isField
      · exact List.mem_append_left _ first.askedKey_mem
      · exact Descriptors.mem_chainKeys_of_prompting (List.mem_map.2 ⟨field, known, rfl⟩)
    · exact Descriptors.mem_chainKeys_of_prompting member

theorem formed_chained {first : Descriptors} (formed : first.Formed) (rest : List Descriptors) :
    (chained first rest).Formed := by
  rw [chained]
  split
  · exact formed.prompting
  · split
    · exact formed.prompting.put (.of_question first.askedKey_mem trivial)
    · exact formed.prompting

theorem shaped_chained {first : Descriptors} (chainable : Chainable first)
    {rest : List Descriptors} (each : ∀ waiting ∈ rest, Shaped (record waiting)) :
    Shaped (record (chained first rest)) := by
  obtain ⟨shaped, -, answers⟩ := chainable
  rw [chained]
  split
  · exact shaped.prompting
  · split
    · rename_i inquiry answer found
      have isKey := first.askedKey_mem
      refine shaped.prompting.put (.of_question isKey trivial) fun part member => ?_
      rw [parts_of_question isKey, List.mem_singleton] at member
      have shapedQuestion : Shaped (question inquiry answer) :=
        shaped.part found (by rw [parts_of_question isKey]; exact List.mem_singleton_self _)
      exact member ▸ shapedQuestion.linked (answers _ isKey inquiry answer found) each
    · exact shaped.prompting

/-- What the results apply at once when the question of the first one that asks
is put. -/
def besideFirst (results : List Descriptors) (first : Descriptors) : List Descriptors :=
  (results.filter fun fields => !fields.asks) ++ [first.immediate]

/-- What results that say something are merged into. -/
inductive MergedInto : List Descriptors → Descriptors → Prop
  | none : MergedInto [] []
  | only (fields : Descriptors) : MergedInto [fields] fields
  | silent {results fitting colliding : List Descriptors} {merged : Descriptors}
      (silent : ∀ fields ∈ results, fields.asks = false)
      (side : SideBySide results fitting colliding merged) : MergedInto results merged
  | asking {results rest fitting colliding : List Descriptors} {first merged : Descriptors}
      (asking : results.filter Descriptors.asks = first :: rest)
      (unprompted : merged.Unprompted)
      (side : SideBySide (besideFirst results first) fitting colliding merged) :
      MergedInto results (merged ++ chained first rest)

section Asking

variable {results rest : List Descriptors} {first : Descriptors}

theorem mem_of_asking (asking : results.filter Descriptors.asks = first :: rest) :
    first ∈ results ∧ first.asks = true := by
  rw [← List.mem_filter, asking]
  exact List.mem_cons_self ..

theorem mem_of_asking_rest (asking : results.filter Descriptors.asks = first :: rest)
    {waiting : Descriptors} (member : waiting ∈ rest) :
    waiting ∈ results ∧ waiting.asks = true := by
  rw [← List.mem_filter, asking]
  exact List.mem_cons_of_mem _ member

theorem shaped_besideFirst (each : ∀ fields ∈ results, Chainable fields)
    (isFirst : first ∈ results) :
    ∀ fields ∈ besideFirst results first, Shaped (record fields) := by
  rw [besideFirst, List.forall_mem_append, List.forall_mem_singleton]
  refine ⟨fun fields member => ?_, (each first isFirst).shaped.immediate⟩
  exact (each fields (List.mem_filter.1 member).1).shaped

theorem formed_besideFirst (each : ∀ fields ∈ results, fields.Formed)
    (isFirst : first ∈ results) : ∀ fields ∈ besideFirst results first, fields.Formed := by
  rw [besideFirst, List.forall_mem_append, List.forall_mem_singleton]
  exact ⟨fun fields member => each fields (List.mem_filter.1 member).1,
    (each first isFirst).immediate⟩

theorem unprompted_besideFirst (each : ∀ fields ∈ results, fields.Paired) :
    ∀ fields ∈ besideFirst results first, Descriptors.Unprompted fields := by
  rw [besideFirst, List.forall_mem_append, List.forall_mem_singleton]
  refine ⟨fun fields member => ?_, Descriptors.unprompted_immediate first⟩
  obtain ⟨isResult, isSilent⟩ := List.mem_filter.1 member
  exact (each fields isResult).unprompted (by simpa using isSilent)

theorem shaped_append_chained (each : ∀ fields ∈ results, Chainable fields)
    (asking : results.filter Descriptors.asks = first :: rest)
    {fitting colliding : List Descriptors} {merged : Descriptors} (unprompted : merged.Unprompted)
    (side : SideBySide (besideFirst results first) fitting colliding merged) :
    Shaped (record (merged ++ chained first rest)) := by
  have isFirst := (mem_of_asking asking).1
  refine (side.shaped (shaped_besideFirst each isFirst)).append
    (shaped_chained (each first isFirst) fun waiting member => ?_) fun key member => ?_
  · exact (each waiting (mem_of_asking_rest asking member).1).shaped
  · exact unprompted key (keys_chained member)

end Asking

theorem MergedInto.shaped {results : List Descriptors} {merged : Descriptors}
    (mergedInto : MergedInto results merged) (each : ∀ fields ∈ results, Chainable fields) :
    Shaped (record merged) := by
  cases mergedInto with
  | none => exact IsResult.nothing.shaped
  | only => exact (each merged (List.mem_singleton_self _)).shaped
  | silent silent side => exact side.shaped fun fields member => (each fields member).shaped
  | asking asking unprompted side => exact shaped_append_chained each asking unprompted side

def present (results : List Descriptors) : List Descriptors :=
  results.filter fun fields => !fields.isEmpty

theorem filter_isTruthy_records (results : List Descriptors) :
    (results.map record).filter isTruthy = (present results).map record := by
  rw [List.filter_map]
  rfl

theorem mapM_asks_records (results : List Descriptors) :
    ((results.map record).mapM fun result => return (← result.asks, result) :
        Except Failure (List (Bool × Outcome))) =
      .ok (results.map fun fields : Descriptors => (fields.asks, record fields)) := by
  induction results with
  | nil => rfl
  | cons fields rest ih =>
      rw [List.map_cons, List.mapM_cons, ih, asks_record]
      rfl

theorem map_snd_filter_marked (results : List Descriptors) (keep : Bool → Bool) :
    ((results.map fun fields : Descriptors => (fields.asks, record fields)).filter fun entry =>
        keep entry.1).map Prod.snd =
      (results.filter fun fields : Descriptors => keep fields.asks).map record := by
  rw [List.filter_map, List.map_map]
  rfl

theorem merge_several {results : List Descriptors} {one other : Descriptors}
    {others : List Descriptors} (several : present results = one :: other :: others) :
    merge (results.map record) = (do
      match (present results).filter Descriptors.asks with
      | [] =>
        return record (← combine (((present results).filter fun fields : Descriptors =>
          !fields.asks).map record))
      | first :: rest =>
        let merged ← combine ((besideFirst (present results) first).map record)
        let prompt ← if rest.isEmpty then .ok first.prompting
          else link first.prompting (rest.map record)
        return record (KeyedList.putAll merged prompt)) := by
  have silent := map_snd_filter_marked (present results) not
  have asking : (((present results).map fun fields : Descriptors =>
      (fields.asks, record fields)).filter Prod.fst).map Prod.snd =
        ((present results).filter Descriptors.asks).map record :=
    map_snd_filter_marked (present results) id
  have severalRecords : (present results).map record =
      record one :: record other :: others.map record := by
    rw [several]
    rfl
  rw [merge, filter_isTruthy_records, severalRecords]
  dsimp only
  rw [← severalRecords, mapM_asks_records]
  simp only [bind, Except.bind, asking, silent]
  cases (present results).filter Descriptors.asks with
  | nil => rfl
  | cons first rest =>
      have fields : (record first).fields = .ok first := rfl
      simp only [List.map_cons, fields, besideFirst, List.map_append, List.map_nil,
        List.isEmpty_map]

/-- Results in which others wait only beside a question can be merged. -/
theorem exists_merge_eq_of_formed {results : List Descriptors}
    (formed : ∀ fields ∈ results, fields.Formed) (paired : ∀ fields ∈ results, fields.Paired) :
    ∃ merged : Descriptors, merge (results.map record) = .ok (record merged) ∧
      MergedInto (present results) merged := by
  have each : ∀ fields ∈ present results, fields.Formed :=
    fun fields member => formed fields (List.mem_filter.1 member).1
  have eachPaired : ∀ fields ∈ present results, fields.Paired :=
    fun fields member => paired fields (List.mem_filter.1 member).1
  match saying : present results with
  | [] =>
      refine ⟨[], ?_, .none⟩
      rw [merge, filter_isTruthy_records, saying]
      rfl
  | [only] =>
      refine ⟨only, ?_, .only only⟩
      rw [merge, filter_isTruthy_records, saying]
      rfl
  | one :: other :: others =>
      rw [merge_several saying, ← saying]
      cases asked : (present results).filter Descriptors.asks with
      | nil =>
          have silent : ∀ fields ∈ present results, fields.asks = false := by
            simpa using List.filter_eq_nil_iff.1 asked
          have everybody :
              (present results).filter (fun fields => !fields.asks) = present results := by
            rw [List.filter_eq_self]
            simpa using silent
          obtain ⟨merged, fitting, colliding, combined, side⟩ :=
            exists_combine_formed (present results) each
          refine ⟨merged, ?_, .silent silent side⟩
          simp only [everybody, combined]
          rfl
      | cons first rest =>
          obtain ⟨isFirst, asks⟩ := mem_of_asking asked
          have beside := formed_besideFirst each isFirst
          obtain ⟨merged, fitting, colliding, combined, side⟩ := exists_combine_formed _ beside
          -- The first one that asks is split: its prompting part stays out of the combining.
          have unprompted : Descriptors.Unprompted merged :=
            side.unprompted (fun fields member => (beside fields member).distinct)
              (unprompted_besideFirst eachPaired)
          have appended : KeyedList.putAll merged (chained first rest) =
              merged ++ chained first rest :=
            KeyedList.putAll_of_disjoint (formed_chained (each first isFirst) rest).distinct
              fun key member => unprompted key (keys_chained member)
          refine ⟨merged ++ chained first rest, ?_, .asking asked unprompted side⟩
          rw [← appended]
          simp only [combined, bind, Except.bind]
          cases rest with
          | nil => rfl
          | cons upcoming remaining =>
              rw [if_neg (by simp), link_prompting (each first isFirst) asks]
              rfl

/-- Results that can be chained can be merged. -/
theorem exists_merge_eq {results : List Descriptors}
    (chainable : ∀ fields ∈ results, Chainable fields) :
    ∃ merged : Descriptors, merge (results.map record) = .ok (record merged) ∧
      MergedInto (present results) merged :=
  exists_merge_eq_of_formed (fun fields member => (chainable fields member).shaped.formed)
    fun fields member => (chainable fields member).paired

end Outcome

end CreatureCards
