import CreatureCards.OutcomeMerge
import CreatureCards.Proofs.ShapeFault
import CreatureCards.Proofs.Within

/-!
# Bounds add up

Results that are merged, linked and queued behind each other ask no more together
than they ask apart: no part of a result gets into two places.
-/

namespace CreatureCards

variable {conduct : Conduct}

namespace Outcome

/-- A text of two characters holds nothing but a text. -/
theorem exists_text_of_pair {outcome : Outcome} {field : String × Outcome}
    (paired : outcome.pair = .ok field) : ∃ content, field.2 = text content := by
  unfold pair at paired
  split at paired
  · split at paired
    · cases paired
      exact ⟨_, rfl⟩
    · cases paired
  · cases paired

theorem within_pairs {items : List Outcome} {pairs : Descriptors} {bound : ℕ∞}
    (paired : items.mapM pair = .ok pairs) : Within conduct bound (.record pairs) := by
  induction items generalizing pairs with
  | nil =>
      cases paired
      exact .empty
  | cons item rest ih =>
      rw [List.mapM_cons] at paired
      obtain ⟨⟨key, payload⟩, isPair, goesOn⟩ := bind_eq_ok.1 paired
      obtain ⟨others, arePairs, same⟩ := bind_eq_ok.1 goesOn
      cases same
      obtain ⟨content, rfl⟩ := exists_text_of_pair isPair
      exact .field (.text content) (ih arePairs) (zero_add bound).le

theorem Within.addTo {here later : ℕ∞} {merged added : Descriptors} {outcome : Outcome}
    (within : Within conduct here (.record merged)) (other : Within conduct later outcome)
    (made : Outcome.addTo merged outcome = .ok added) :
    Within conduct (here + later) (.record added) := by
  unfold Outcome.addTo at made
  split at made
  · cases made
    exact within.putAll other
  · obtain ⟨items, -, rest⟩ := bind_eq_ok.1 made
    obtain ⟨pairs, arePairs, same⟩ := bind_eq_ok.1 rest
    cases same
    exact within.putAll (within_pairs arePairs)

section Merging

/-- What is merged so far and the results that collided share the bound. -/
def Merging.Within (conduct : Conduct) (bound : ℕ∞) (merging : Merging) : Prop :=
  ∃ here later, here + later ≤ bound ∧ Outcome.Within conduct here (.record merging.merged) ∧
    Outcome.Within conduct later (.list merging.overflow)

variable {bound other : ℕ∞}

theorem Merging.Within.add {merging next : Merging} (within : merging.Within conduct bound)
    {result : Outcome} (isResult : Outcome.Within conduct other result)
    (added : merging.add result = .ok next) : next.Within conduct (bound + other) := by
  obtain ⟨here, later, total, merged, overflow⟩ := within
  have whole : here + later + other ≤ bound + other := add_le_add_left total other
  unfold Merging.add at added
  split at added
  · cases added
    exact ⟨here, later, total.trans le_self_add, merged, overflow⟩
  · obtain ⟨keys, -, rest⟩ := bind_eq_ok.1 added
    obtain ⟨collides, -, rest⟩ := bind_eq_ok.1 rest
    split at rest
    · cases rest
      exact ⟨here, later + other, by rwa [← add_assoc], merged, overflow.append isResult.single⟩
    · obtain ⟨fields, isAdded, same⟩ := bind_eq_ok.1 rest
      cases same
      exact ⟨here + other, later, by rwa [add_right_comm], merged.addTo isResult isAdded, overflow⟩

theorem Merging.Within.addAll {results : List Outcome} {merging last : Merging}
    (within : merging.Within conduct bound) (others : Outcome.Within conduct other (.list results))
    (added : results.foldlM Merging.add merging = .ok last) :
    last.Within conduct (bound + other) := by
  induction results generalizing merging bound other with
  | nil =>
      cases added
      obtain ⟨here, later, total, parts⟩ := within
      exact ⟨here, later, total.trans le_self_add, parts⟩
  | cons result rest ih =>
      rw [List.foldlM_cons] at added
      obtain ⟨here, later, total, first, isRest⟩ := others.exists_cons
      obtain ⟨next, isNext, goesOn⟩ := bind_eq_ok.1 added
      obtain ⟨ahead, behind, sum, parts⟩ := ih (within.add first isNext) isRest goesOn
      refine ⟨ahead, behind, sum.trans ?_, parts⟩
      rw [add_assoc]
      exact add_le_add_right total bound

/-- A payload that is put in the place of an earlier one, and grows by something,
adds that to the record. -/
theorem Within.grow {fields : Descriptors} (within : Within conduct bound (.record fields))
    {key : String} {earlier payload : Outcome} (found : fields.lookup key = some earlier)
    (grown : ∀ here, Within conduct here earlier → Within conduct (here + other) payload) :
    Within conduct (bound + other) (.record (KeyedList.put key payload fields)) := by
  obtain ⟨here, later, total, isEarlier, rest⟩ := within.exists_lookup found
  refine (rest.put_of_without (grown here isEarlier)).mono ?_
  rw [← add_assoc, add_comm later here]
  exact add_le_add_left total other

theorem Merging.Within.finish {merging : Merging} (within : merging.Within conduct bound)
    {fields : Descriptors} (finished : merging.finish = .ok fields) :
    Outcome.Within conduct bound (.record fields) := by
  obtain ⟨here, later, total, merged, overflow⟩ := within
  unfold Merging.finish at finished
  split at finished
  · cases finished
    exact merged.mono (le_self_add.trans total)
  · dsimp only at finished
    split at finished
    · rename_i payload found
      obtain ⟨kept, isKept, same⟩ := bind_eq_ok.1 finished
      cases same
      exact (merged.grow found fun _ isPayload =>
        (isPayload.elements isKept).append overflow).mono total
    · cases finished
      exact (merged.put overflow).mono total

theorem within_combine {results : List Outcome} (within : Within conduct bound (.list results))
    {fields : Descriptors} (combined : combine results = .ok fields) :
    Within conduct bound (.record fields) := by
  obtain ⟨merging, isMerging, finished⟩ := bind_eq_ok.1 combined
  have start : ({} : Merging).Within conduct 0 := ⟨0, 0, by simp, .empty, .nil⟩
  exact ((start.addAll within isMerging).finish finished).mono (zero_add bound).le

end Merging

section Linking

variable {here later bound : ℕ∞}

theorem Within.queued {fields : Descriptors} (within : Within conduct here (.record fields))
    {behind : List Outcome} (others : Within conduct later (.list behind)) {made : Outcome}
    (queues : Outcome.queued fields behind = .ok made) :
    Within conduct (here + later) (.record (KeyedList.put pendingKey made fields)) := by
  unfold Outcome.queued at queues
  dsimp only at queues
  split at queues
  · rename_i payload found
    obtain ⟨waiting, isWaiting, same⟩ := bind_eq_ok.1 queues
    cases same
    exact within.grow found fun _ isPayload => (isPayload.elements isWaiting).append others
  · cases queues
    exact within.put others

/-- The results that wait for a question are queued behind it once it has been put
beside what can be applied. -/
theorem Within.queued_putAll {ahead prompt : Descriptors}
    (within : Within conduct here (.record ahead)) (asked : Within conduct bound (.record prompt))
    {behind : List Outcome} (others : Within conduct later (.list behind)) {made : Outcome}
    (queues : Outcome.queued prompt behind = .ok made) :
    Within conduct (here + bound + later)
      (.record (KeyedList.put pendingKey made (KeyedList.putAll ahead prompt))) := by
  unfold Outcome.queued at queues
  dsimp only at queues
  split at queues
  · rename_i payload found
    obtain ⟨waiting, isWaiting, same⟩ := bind_eq_ok.1 queues
    cases same
    obtain ⟨first, rest, total, isPayload, isRest⟩ := asked.exists_lookup found
    -- The payload that is replaced is the one from which the waiting results come.
    have replaced : Within conduct (here + rest)
        (.record (KeyedList.without pendingKey (KeyedList.putAll ahead prompt))) := by
      rw [KeyedList.without_putAll]
      exact (within.sublist (KeyedList.without_sublist _ _)).putAll
        (isRest.sublist (KeyedList.filter_sublist_without _ _))
    refine (replaced.put_of_without ((isPayload.elements isWaiting).append others)).mono ?_
    rw [← add_assoc, add_assoc here, add_comm rest]
    exact add_le_add_left (add_le_add_right total here) later
  · cases queues
    exact (within.putAll asked).put others

/-- Results that wait ask no more when they are attached to an answer. -/
theorem Within.advance {result : Outcome} (within : Within conduct here result)
    {pending : List Outcome} (others : Within conduct later (.list pending)) {made : Outcome}
    (advanced : Outcome.advance result pending = .ok made) :
    Within conduct (here + later) made := by
  unfold Outcome.advance at advanced
  split at advanced
  · cases advanced
    exact within.mono le_self_add
  · rename_i upcoming remaining
    obtain ⟨asks, -, rest⟩ := bind_eq_ok.1 advanced
    split at rest
    · obtain ⟨fields, isAdded, rest⟩ := bind_eq_ok.1 rest
      obtain ⟨waiting, isQueued, same⟩ := bind_eq_ok.1 rest
      cases same
      have added : Within conduct (0 + here) (.record fields) :=
        Within.addTo .empty within isAdded
      exact (added.queued others isQueued).mono (by rw [zero_add])
    · obtain ⟨first, behind, total, isFirst, isRemaining⟩ := others.exists_cons
      obtain ⟨fields, isFields, rest⟩ := bind_eq_ok.1 rest
      obtain ⟨asked, immediate, split, prompting, rest'⟩ :=
        (isFirst.fields isFields).exists_filter fun field => chainKeys.contains field.1
      obtain ⟨combined, isCombined, rest⟩ := bind_eq_ok.1 rest
      have ahead : Within conduct (here + immediate) (.record combined) :=
        within_combine (.cons within rest'.single le_rfl) isCombined
      have whole : here + immediate + asked + behind ≤ here + later := by
        rw [add_assoc here, add_comm immediate, add_assoc here]
        exact add_le_add_right ((add_le_add_left split behind).trans total) here
      split at rest
      · cases rest
        exact (ahead.putAll prompting).mono (le_self_add.trans whole)
      · obtain ⟨waiting, isQueued, same⟩ := bind_eq_ok.1 rest
        cases same
        exact (ahead.queued_putAll prompting isRemaining isQueued).mono whole

theorem Within.link {prompt linked : Descriptors} (within : Within conduct here (.record prompt))
    {rest : List Outcome} (others : Within conduct later (.list rest))
    (links : Outcome.link prompt rest = .ok linked) :
    Within conduct (here + later) (.record linked) := by
  unfold Outcome.link at links
  dsimp only at links
  split at links
  · rename_i inquiry answer found
    cases links
    refine within.grow found fun bound isQuestion => ?_
    obtain ⟨after, total, answers⟩ := isQuestion.exists_answer
    have linked (choice : Choice) : conduct.Keeps (Within conduct (after + later)) (do
        let result ← answer choice
        Engine.orFail (Outcome.advance result.orNothing rest)) := by
      refine (answers choice).bind fun result isResult => ?_
      refine (Conduct.Keeps.orFail ?_).weaken fun made advanced =>
        isResult.orNothing.advance others advanced
      exact (shapely_advance _ _).weaken fun _ fault =>
        conduct.fails_other fault.ne_endlessReaction
    refine within_question isQuestion.asks linked ?_
    rw [add_right_comm]
    exact add_le_add_left total later
  · cases links

/-- Results that are told apart by a mark share their bound. -/
theorem Within.exists_marked {marked : List (Bool × Outcome)}
    (within : Within conduct bound (.list (marked.map Prod.snd))) :
    ∃ here later, here + later ≤ bound ∧
      Within conduct here (.list ((marked.filter Prod.fst).map Prod.snd)) ∧
      Within conduct later (.list ((marked.filter fun entry => !entry.1).map Prod.snd)) := by
  induction marked generalizing bound with
  | nil => exact ⟨0, bound, by simp, .nil, .nil⟩
  | cons entry rest ih =>
      obtain ⟨mark, result⟩ := entry
      obtain ⟨ahead, behind, total, first, others⟩ := within.exists_cons
      obtain ⟨here, later, split, isMarked, isLeft⟩ := ih others
      have whole : ahead + (here + later) ≤ bound := (add_le_add_right split ahead).trans total
      cases mark with
      | true => exact ⟨ahead + here, later, by rwa [add_assoc], .cons first isMarked le_rfl, isLeft⟩
      | false =>
          exact ⟨here, ahead + later, by rwa [add_left_comm], isMarked, .cons first isLeft le_rfl⟩

theorem map_snd_of_marked {results : List Outcome} {marked : List (Bool × Outcome)}
    (areMarked : (results.mapM fun result => do return (← result.asks, result)) = .ok marked) :
    marked.map Prod.snd = results := by
  induction results generalizing marked with
  | nil =>
      cases areMarked
      rfl
  | cons result rest ih =>
      rw [List.mapM_cons] at areMarked
      obtain ⟨entry, isMarked, goesOn⟩ := bind_eq_ok.1 areMarked
      obtain ⟨others, areOthers, same⟩ := bind_eq_ok.1 goesOn
      obtain ⟨asks, -, made⟩ := bind_eq_ok.1 isMarked
      cases made
      cases same
      rw [List.map_cons, ih areOthers]

/-- Merged results ask no more together than they ask apart. -/
theorem within_merge {results : List Outcome} (within : Within conduct bound (.list results))
    {made : Outcome} (merged : merge results = .ok made) : Within conduct bound made := by
  have present : Within conduct bound (.list (results.filter isTruthy)) :=
    within.list_sublist List.filter_sublist
  unfold merge at merged
  split at merged
  · cases merged
    exact .nothing
  · rename_i filtered
    cases merged
    exact present.of_mem (filtered ▸ List.mem_singleton_self made)
  · obtain ⟨marked, areMarked, rest⟩ := bind_eq_ok.1 merged
    rw [← map_snd_of_marked areMarked] at present
    obtain ⟨here, later, total, asking, silent⟩ := present.exists_marked
    dsimp only at rest
    split at rest
    · obtain ⟨combined, isCombined, same⟩ := bind_eq_ok.1 rest
      cases same
      exact (within_combine silent isCombined).mono (le_add_self.trans total)
    · rename_i first others isAsking
      rw [isAsking] at asking
      obtain ⟨ahead, behind, split, isFirst, areOthers⟩ := asking.exists_cons
      obtain ⟨fields, isFields, rest⟩ := bind_eq_ok.1 rest
      obtain ⟨asked, immediate, share, prompting, applied⟩ :=
        (isFirst.fields isFields).exists_filter fun field => chainKeys.contains field.1
      obtain ⟨combined, isCombined, rest⟩ := bind_eq_ok.1 rest
      have known : Within conduct (later + immediate) (.record combined) :=
        within_combine (silent.append applied.single) isCombined
      have whole : later + immediate + (asked + behind) ≤ bound := by
        refine le_trans ?_ total
        rw [add_comm here, add_assoc, ← add_assoc immediate, add_comm immediate]
        exact add_le_add_right ((add_le_add_left share behind).trans split) later
      split at rest
      · cases rest
        exact (known.putAll prompting).mono ((add_le_add_right le_self_add _).trans whole)
      · obtain ⟨linked, isLinked, same⟩ := bind_eq_ok.1 rest
        cases same
        exact (known.putAll (prompting.link areOthers isLinked)).mono whole

theorem within_collect {results : List Outcome} (within : Within conduct bound (.list results)) :
    Within conduct bound (collect results) := by
  have present : Within conduct bound (.list (results.filter isTruthy)) :=
    within.list_sublist List.filter_sublist
  unfold collect
  split
  · exact .nothing
  · rename_i single filtered
    exact present.of_mem (filtered ▸ List.mem_singleton_self single)
  · exact present.descriptor

end Linking

end Outcome

end CreatureCards
