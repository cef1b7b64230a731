import CreatureCards.Proofs.OneAfterAnother

/-!
# Lists asked in order

Results of a list are meant to be asked in the order of the list.  Merging only
looks for questions under the question keys of a result, so questions of kept
results are put off behind those; and of several results that keep questions,
one that fits into the record comes before those that collide.  This file says
when the order is kept all the same.
-/

namespace CreatureCards

open Outcome

namespace Outcome

def script (outcome : Outcome) : Play Unit :=
  (visit outcome).script

theorem script_eq (outcome : Outcome) : outcome.script = (questions outcome).script := by
  rw [script, visit, Play.script_bring]

theorem script_said (outcome : Outcome) : outcome.said.script = outcome.script := by
  rw [said, Play.script_map, script]

/-- Behind the fields that are taken, results keep their questions in order: when
one that keeps any collides, none of those that fit behind it does. -/
inductive CarryInOrder : Descriptors → List Descriptors → Prop
  | nil {taken : Descriptors} : CarryInOrder taken []
  | fits {taken fields : Descriptors} {rest : List Descriptors}
      (fresh : ∀ key ∈ KeyedList.keys fields, key ∉ KeyedList.keys taken)
      (later : CarryInOrder (taken ++ fields) rest) : CarryInOrder taken (fields :: rest)
  | collides {taken fields : Descriptors} {rest : List Descriptors} {key : String}
      (own : key ∈ KeyedList.keys fields) (isTaken : key ∈ KeyedList.keys taken)
      (light : fields.CarriesNothing ∨ ∀ fitting colliding, Sorts taken rest fitting colliding →
        ∀ other ∈ fitting, Descriptors.CarriesNothing other)
      (later : CarryInOrder taken rest) : CarryInOrder taken (fields :: rest)

theorem inTurn_carried_of_light {results : List Descriptors}
    (light : ∀ fields ∈ results, Descriptors.CarriesNothing fields) :
    Play.inTurn (results.map Descriptors.carried) = .skip := by
  refine Play.inTurn_eq_skip fun play member => ?_
  obtain ⟨fields, isResult, rfl⟩ := List.mem_map.1 member
  exact (light fields isResult).carried_eq

/-- Sorting results keeps the order of what they carry. -/
theorem Sorts.carried_eq {taken : Descriptors} {results : List Descriptors}
    (order : CarryInOrder taken results) {fitting colliding : List Descriptors}
    (sorts : Sorts taken results fitting colliding) :
    Play.inTurn ((fitting ++ colliding).map Descriptors.carried) =
      .inTurn (results.map Descriptors.carried) := by
  induction order generalizing fitting colliding with
  | nil =>
      cases sorts
      rfl
  | fits fresh later ih =>
      cases sorts with
      | fits _ sortsLater =>
          simp only [List.cons_append, List.map_cons, Play.inTurn_cons, ih sortsLater]
      | collides own isTaken _ => exact absurd isTaken (fresh _ own)
  | collides own isTaken light later ih =>
      cases sorts with
      | fits fresh _ => exact absurd isTaken (fresh _ own)
      | collides _ _ sortsLater =>
          have whole := ih sortsLater
          cases light with
          | inl light =>
              simp only [List.map_append, List.map_cons, Play.inTurn_append, Play.inTurn_cons,
                light.carried_eq, Play.skip_andThen] at whole ⊢
              exact whole
          | inr lightFitting =>
              have skipped := inTurn_carried_of_light (lightFitting _ _ sortsLater)
              simp only [List.map_append, List.map_cons, Play.inTurn_append, Play.inTurn_cons,
                skipped, Play.skip_andThen] at whole ⊢
              rw [whole]

/-- The first of some results are sorted among themselves. -/
theorem Sorts.exists_of_append {taken : Descriptors}
    {results others fitting colliding : List Descriptors}
    (sorts : Sorts taken (results ++ others) fitting colliding) :
    ∃ ahead aheadColliding behind, Sorts taken results ahead aheadColliding ∧
      fitting = ahead ++ behind ∧ behind ⊆ others := by
  induction results generalizing taken fitting colliding with
  | nil =>
      exact ⟨[], [], fitting, .nil, rfl,
        fun _ member => sorts.perm.subset (List.mem_append_left _ member)⟩
  | cons fields rest ih =>
      cases sorts with
      | fits fresh later =>
          obtain ⟨ahead, aheadColliding, behind, sortsAhead, rfl, known⟩ := ih later
          exact ⟨fields :: ahead, aheadColliding, behind, .fits fresh sortsAhead, rfl, known⟩
      | collides own isTaken later =>
          obtain ⟨ahead, aheadColliding, behind, sortsAhead, same, known⟩ := ih later
          exact ⟨ahead, fields :: aheadColliding, behind, .collides own isTaken sortsAhead, same,
            known⟩

/-- The results of a list are asked in order.  Questions that a result keeps come
after everything else; so only results behind the last question of the list may
keep any, or the last that asks.  The first of several that ask is linked, which
puts off its option, what waits for it, and what its answers keep; and the second
one is spliced into an answer that asks nothing, which puts off what it keeps if
others wait. -/
structure AsksInOrder (results : List Descriptors) : Prop where
  chainable : ∀ fields ∈ results, Chainable fields
  ahead : ∀ before asking after, results = before ++ asking :: after → asking.asks = true →
    ∀ fields ∈ before, fields.asks = false → fields.CarriesNothing
  only : ∀ only, results.filter Descriptors.asks = [only] →
    only.CarriesNothing ∨
      ∀ fields ∈ results, fields.asks = false → fields.CarriesNothing
  first : ∀ first second rest, results.filter Descriptors.asks = first :: second :: rest →
    Steady first
  second : ∀ first second rest, results.filter Descriptors.asks = first :: second :: rest →
    rest ≠ [] → LeadsOn first ∨ second.CarriesNothing
  silent : CarryInOrder [] (results.filter fun fields => !fields.asks)

theorem CarryInOrder.cons_light {fields : Descriptors} {rest : List Descriptors}
    (light : fields.CarriesNothing) (later : ∀ taken, CarryInOrder taken rest)
    (taken : Descriptors) : CarryInOrder taken (fields :: rest) := by
  by_cases collides : ∃ key ∈ KeyedList.keys fields, key ∈ KeyedList.keys taken
  · obtain ⟨key, own, isTaken⟩ := collides
    exact .collides own isTaken (.inl light) (later taken)
  · exact .fits (fun key own isTaken => collides ⟨key, own, isTaken⟩) (later _)

theorem CarryInOrder.singleton (taken fields : Descriptors) : CarryInOrder taken [fields] := by
  by_cases collides : ∃ key ∈ KeyedList.keys fields, key ∈ KeyedList.keys taken
  · obtain ⟨key, own, isTaken⟩ := collides
    refine .collides own isTaken (.inr fun fitting colliding sorts => ?_) .nil
    cases sorts
    exact List.forall_mem_nil _
  · exact .fits (fun key own isTaken => collides ⟨key, own, isTaken⟩) .nil

theorem CarryInOrder.append_light {taken last : Descriptors} {results : List Descriptors}
    (order : CarryInOrder taken results) (light : last.CarriesNothing) :
    CarryInOrder taken (results ++ [last]) := by
  induction order with
  | nil => exact .singleton _ last
  | fits fresh later ih => exact .fits fresh ih
  | collides own isTaken lightRest later ih =>
      refine .collides own isTaken (lightRest.imp_right fun lightFitting => ?_) ih
      intro fitting colliding sorts
      obtain ⟨ahead, aheadColliding, behind, sortsAhead, rfl, known⟩ := sorts.exists_of_append
      refine List.forall_mem_append.2 ⟨lightFitting _ _ sortsAhead, fun other member => ?_⟩
      exact List.mem_singleton.1 (known member) ▸ light

theorem CarryInOrder.of_light {results : List Descriptors} (last : Descriptors)
    (light : ∀ fields ∈ results, Descriptors.CarriesNothing fields)
    (taken : Descriptors) : CarryInOrder taken (results ++ [last]) := by
  induction results generalizing taken with
  | nil => exact .singleton taken last
  | cons fields rest ih =>
      obtain ⟨here, later⟩ := List.forall_mem_cons.1 light
      exact .cons_light here (ih later) taken

theorem script_of_unprompted {fields : Descriptors} (unprompted : fields.Unprompted) :
    (record fields).script = fields.carried.script := by
  rw [script_eq, unprompted.questions_eq]

/-- With nothing kept ahead of a question, a list is asked in order when first
those of its results are asked that have questions of their own. -/
theorem inTurn_scripts_eq {results : List Descriptors}
    (chainable : ∀ fields ∈ results, Chainable fields)
    (ahead : ∀ before asking after, results = before ++ asking :: after → asking.asks = true →
      ∀ fields ∈ before, fields.asks = false → fields.CarriesNothing) :
    Play.inTurn (results.map fun fields => (record fields).script) =
      (Play.inTurn ((results.filter Descriptors.asks).map fun fields =>
        (record fields).script)).andThen
        (Play.inTurn
          ((results.filter fun fields => !fields.asks).map Descriptors.carried)).script := by
  induction results with
  | nil => rfl
  | cons fields rest ih =>
      obtain ⟨here, later⟩ := List.forall_mem_cons.1 chainable
      have whole := ih later fun before asking after split asks other member =>
        ahead (fields :: before) asking after (by rw [split]; rfl) asks other
          (List.mem_cons_of_mem _ member)
      rw [List.map_cons, Play.inTurn_cons, whole]
      cases asks : fields.asks with
      | true => simp [asks, Play.andThen_assoc]
      | false =>
          have unprompted := here.paired.unprompted asks
          rw [script_of_unprompted unprompted]
          cases asking : rest.filter Descriptors.asks with
          | nil => simp [asks, asking]
          | cons first others =>
              have isFirst : first ∈ rest ∧ first.asks = true := mem_of_asking asking
              obtain ⟨before, after, split⟩ := List.append_of_mem isFirst.1
              -- A silent result ahead of one that asks keeps nothing, so they may change places.
              have light := ahead (fields :: before) first after (by rw [split]; rfl) isFirst.2
                fields (List.mem_cons_self ..) asks
              simp [asks, asking, light.carried_eq]

theorem script_append_prompt {merged prompt : Descriptors} (unprompted : merged.Unprompted)
    (chain : ∀ key ∈ KeyedList.keys prompt, key ∈ chainKeys) :
    (record (merged ++ prompt)).script =
      prompt.asked.script.andThen
        ((Play.inTurn (prompt.pending.map visit)).script.andThen merged.carried.script) := by
  rw [script_eq, Descriptors.questions_append_prompt unprompted chain, Play.script_andThen,
    Play.script_andThen]

theorem script_record (fields : Descriptors) :
    (record fields).script =
      fields.asked.script.andThen
        ((Play.inTurn (fields.pending.map visit)).script.andThen fields.carried.script) := by
  rw [script_eq, Descriptors.questions_eq, Play.script_andThen, Play.script_andThen]

theorem AsksInOrder.besideFirst {results rest : List Descriptors} {first : Descriptors}
    (order : AsksInOrder results) (asking : results.filter Descriptors.asks = first :: rest) :
    CarryInOrder [] (Outcome.besideFirst results first) := by
  have sameKept (light : first.CarriesNothing) : first.immediate.CarriesNothing := by
    rwa [Descriptors.CarriesNothing, Descriptors.kept_immediate]
  cases rest with
  | nil =>
      cases order.only first asking with
      | inl light => exact order.silent.append_light (sameKept light)
      | inr light =>
          refine CarryInOrder.of_light _ (fun fields member => ?_) []
          obtain ⟨isResult, isSilent⟩ := List.mem_filter.1 member
          exact light fields isResult (by simpa using isSilent)
  | cons second others =>
      exact order.silent.append_light (sameKept (order.first first second others asking).light)

/-- The results of a list are asked in the order of the list. -/
theorem MergedInto.script_eq {results : List Descriptors} {merged : Descriptors}
    (mergedInto : MergedInto results merged) (order : AsksInOrder results) :
    (record merged).script =
      .inTurn (results.map fun fields => (record fields).script) := by
  have chainable := order.chainable
  cases mergedInto with
  | none => rfl
  | only => simp
  | @silent _ fitting colliding merged silent side =>
      have unprompted : ∀ fields ∈ results, Descriptors.Unprompted fields :=
        fun fields member => (chainable fields member).paired.unprompted (silent fields member)
      have distinct : ∀ fields ∈ results, (KeyedList.keys fields).Nodup :=
        fun fields member => (chainable fields member).shaped.distinct
      have nobody : results.filter Descriptors.asks = [] := by
        simpa [List.filter_eq_nil_iff] using silent
      have everybody : results.filter (fun fields => !fields.asks) = results := by
        simpa [List.filter_eq_self] using silent
      have carry := order.silent
      rw [everybody] at carry
      have authored := inTurn_scripts_eq chainable order.ahead
      rw [nobody, everybody] at authored
      rw [script_of_unprompted (side.unprompted distinct unprompted), side.carried_eq unprompted,
        side.sorts.carried_eq carry, authored]
      exact (Play.skip_andThen _).symm
  | @asking _ rest fitting colliding first merged asking unprompted side =>
      obtain ⟨isFirst, asks⟩ := mem_of_asking asking
      have shapedRest : ∀ waiting ∈ rest, Shaped (record waiting) := fun waiting member =>
        (chainable waiting (mem_of_asking_rest asking member).1).shaped
      have authored := inTurn_scripts_eq chainable order.ahead
      rw [asking, List.map_cons, Play.inTurn_cons, script_record first, Play.andThen_assoc,
        Play.andThen_assoc] at authored
      -- What is carried comes last, in the order of the results that were combined.
      have carried : merged.carried =
          (Play.inTurn ((results.filter fun fields => !fields.asks).map
            Descriptors.carried)).andThen first.carried := by
        have paired := fun fields member => (chainable fields member).paired
        rw [side.carried_eq (unprompted_besideFirst paired),
          side.sorts.carried_eq (order.besideFirst asking),
          besideFirst, List.map_append, Play.inTurn_append, List.map_cons, List.map_nil,
          Play.inTurn_cons, Play.inTurn_nil, Play.andThen_skip, Descriptors.carried_immediate]
      rw [script_append_prompt unprompted fun _ => keys_chained, pending_chained, carried, authored]
      cases rest with
      | nil =>
          have unlinked : (chained first []).asked = first.asked :=
            Descriptors.asked_prompting first
          rw [unlinked]
          cases order.only first asking with
          | inl light => simp [light.carried_eq]
          | inr light =>
              have silent : Play.inTurn ((results.filter fun fields => !fields.asks).map
                  Descriptors.carried) = .skip := by
                refine inTurn_carried_of_light fun fields member => ?_
                obtain ⟨isResult, isSilent⟩ := List.mem_filter.1 member
                exact light fields isResult (by simpa using isSilent)
              simp [silent]
      | cons second others =>
          have steady := order.first first second others asking
          have linked := congrArg Play.script (map_asked_chained steady.chainable asks shapedRest
            (fun _ => steady.single) (fun _ => steady.follow)
            fun upcoming remaining same several => by
              cases same
              exact (order.second first _ _ asking several).imp_right
                Descriptors.CarriesNothing.carried_eq)
          simp only [Play.script_map, Play.script_andThen, Play.script_inTurn, List.map_map,
            Function.comp_def, script_said] at linked
          rw [linked, steady.pending_eq, steady.light.carried_eq]
          simp [Play.andThen_assoc]

theorem AsksInOrder.of_first {first : Descriptors} {rest : List Descriptors}
    (chainable : ∀ fields ∈ first :: rest, Chainable fields) (asks : first.asks = true)
    (light : first.CarriesNothing) (silent : ∀ fields ∈ rest, fields.asks = false)
    (order : CarryInOrder [] rest) : AsksInOrder (first :: rest) := by
  have nobody : rest.filter Descriptors.asks = [] := by
    simpa [List.filter_eq_nil_iff] using silent
  have everybody : rest.filter (fun fields => !fields.asks) = rest := by
    simpa [List.filter_eq_self] using silent
  have asking : (first :: rest).filter Descriptors.asks = [first] := by
    rw [List.filter_cons_of_pos asks, nobody]
  refine ⟨chainable, ?_, ?_, ?_, ?_, ?_⟩
  · intro before other after split asksOther
    cases before with
    | nil => exact fun _ member => nomatch member
    | cons head tail =>
        cases split
        rw [silent other (by simp)] at asksOther
        cases asksOther
  · intro only one
    cases asking.symm.trans one
    exact .inl light
  · intro one second others several
    cases asking.symm.trans several
  · intro one second others several
    cases asking.symm.trans several
  · rwa [List.filter_cons_of_neg (by simp [asks]), everybody]

theorem exists_asked_eq {fields : Descriptors} {key : String} {inquiry : Inquiry}
    {answer : Choice → Engine Outcome}
    (isFirst : fields.askedKey = key)
    (found : fields.lookup key = some (question inquiry answer)) :
    ∃ after follow, fields.asked = .asks 0 inquiry after follow := by
  rw [← isFirst, Descriptors.askedKey] at found
  rw [Descriptors.asked, questionsAt, questionsAt]
  split at found
  · rw [found]
    exact ⟨_, _, rfl⟩
  · rename_i absent
    have unasked : fields.lookup "select_target" = none :=
      KeyedList.lookup_eq_none_of_not_mem fun member =>
        absent (KeyedList.has_iff_mem_keys.2 member)
    rw [found, unasked, Option.elim_none, Play.skip_andThen]
    exact ⟨_, _, rfl⟩

theorem askedKey_put_askedKey (first : Descriptors) (payload : Outcome) :
    Descriptors.askedKey (KeyedList.put first.askedKey payload first.prompting) =
      first.askedKey := by
  have target : KeyedList.has first.prompting "select_target" =
      KeyedList.has first "select_target" := by
    rw [KeyedList.has, Descriptors.lookup_prompting first (by decide), ← KeyedList.has]
  rw [Descriptors.askedKey, KeyedList.has, KeyedList.lookup_put]
  by_cases isTarget : KeyedList.has first "select_target" = true
  · have key : first.askedKey = "select_target" := if_pos isTarget
    simp [key]
  · have key : first.askedKey = "select_option" := if_neg isTarget
    have differs : "select_target" ≠ first.askedKey := by
      rw [key]
      decide
    rw [if_neg differs, ← KeyedList.has, target, if_neg isTarget, key]

/-- Linking a question to what waits for it leaves it the first one. -/
theorem exists_asked_chained_eq {first : Descriptors} (shaped : Shaped (record first))
    (asks : first.asks = true) (rest : List Descriptors) :
    ∃ inquiry answer, first.lookup first.askedKey = some (question inquiry answer) ∧
      ∃ after follow, (chained first rest).asked = .asks 0 inquiry after follow := by
  obtain ⟨inquiry, answer, found, -⟩ := shaped.exists_asked asks
  refine ⟨inquiry, answer, found, ?_⟩
  rw [chained]
  split
  · rw [Descriptors.asked_prompting]
    exact exists_asked_eq rfl found
  · rw [found]
    have linkedFirst : List.lookup first.askedKey
        (KeyedList.put first.askedKey (question inquiry (linked answer (rest.map record)))
          first.prompting) = some (question inquiry (linked answer (rest.map record))) := by
      rw [KeyedList.lookup_put, if_pos rfl]
    exact exists_asked_eq (askedKey_put_askedKey first _) linkedFirst

/-- A list begins with the first question of the first result that has one under
a question key, whatever the results before it keep. -/
theorem MergedInto.exists_script_eq {results rest : List Descriptors} {first merged : Descriptors}
    (mergedInto : MergedInto results merged) (chainable : ∀ fields ∈ results, Chainable fields)
    (asking : results.filter Descriptors.asks = first :: rest) :
    ∃ inquiry answer, first.lookup first.askedKey = some (question inquiry answer) ∧
      ∃ after follow, (record merged).script = .asks () inquiry after follow := by
  obtain ⟨isFirst, asks⟩ := mem_of_asking asking
  have shaped := (chainable first isFirst).shaped
  cases mergedInto with
  | none => cases isFirst
  | only =>
      cases List.mem_singleton.1 isFirst
      obtain ⟨inquiry, answer, found, -⟩ := shaped.exists_asked asks
      obtain ⟨after, follow, same⟩ := exists_asked_eq rfl found
      refine ⟨inquiry, answer, found, ?_⟩
      rw [script_record, same]
      exact ⟨_, _, rfl⟩
  | silent silent => rw [silent first isFirst] at asks; cases asks
  | asking others unprompted =>
      cases asking.symm.trans others
      obtain ⟨inquiry, answer, found, after, follow, same⟩ :=
        exists_asked_chained_eq shaped asks rest
      refine ⟨inquiry, answer, found, ?_⟩
      rw [script_append_prompt unprompted fun _ => keys_chained, same]
      exact ⟨_, _, rfl⟩

end Outcome

end CreatureCards
