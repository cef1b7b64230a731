import CreatureCards.Proofs.AuthoredFields
import CreatureCards.Proofs.MergedResult

/-!
# Merges that come to something

Nothing is lost in a merge.  A result that is there is put into the record or kept beside
it, and a question goes on to be asked, so a merge comes to something exactly if one of
the results does.
-/

namespace CreatureCards

namespace KeyedList

variable {α : Type}

theorem put_ne_nil (key : String) (entry : α) (entries : List (String × α)) :
    put key entry entries ≠ [] := by
  cases entries with
  | nil => exact List.cons_ne_nil _ _
  | cons head rest =>
    rw [put]
    split <;> exact List.cons_ne_nil _ _

theorem putAll_ne_nil {entries added : List (String × α)} (present : entries ≠ [] ∨ added ≠ []) :
    putAll entries added ≠ [] := by
  induction added generalizing entries with
  | nil => exact present.resolve_right fun absent => absent rfl
  | cons head rest ih => exact ih (.inl (put_ne_nil _ _ _))

end KeyedList

namespace Outcome

variable {results : List Outcome} {outcome : Outcome}

theorem isTruthy_record {fields : Descriptors} : (record fields).isTruthy = true ↔ fields ≠ [] := by
  cases fields <;> simp [isTruthy]

/-- Stepping through something that is there meets something. -/
theorem elements_ne_nil {met : List Outcome} (present : outcome.isTruthy = true)
    (steps : outcome.elements = .ok met) : met ≠ [] := by
  cases outcome with
  | list items =>
    rw [← Except.ok.inj steps]
    simpa [isTruthy] using present
  | record fields =>
    rw [← Except.ok.inj steps]
    simpa [isTruthy] using present
  | value data =>
    cases data with
    | text content =>
      rw [← Except.ok.inj steps]
      simpa [isTruthy, Value.isTruthy, Value.characters] using present
    | list items =>
      rw [← Except.ok.inj steps]
      simpa [isTruthy, Value.isTruthy] using present
    | object fields =>
      rw [← Except.ok.inj steps]
      simpa [isTruthy, Value.isTruthy] using present
    | _ => cases steps
  | _ => cases steps

theorem addTo_ne_nil {merged added : Descriptors} (present : outcome.isTruthy = true)
    (made : addTo merged outcome = .ok added) : added ≠ [] := by
  unfold addTo at made
  split at made
  · cases made
    exact KeyedList.putAll_ne_nil (.inr (isTruthy_record.1 present))
  · obtain ⟨met, steps, made⟩ := bind_eq_ok.1 made
    obtain ⟨pairs, paired, made⟩ := bind_eq_ok.1 made
    cases made
    refine KeyedList.putAll_ne_nil (.inr ?_)
    obtain ⟨element, isMet⟩ := List.exists_mem_of_ne_nil _ (elements_ne_nil present steps)
    obtain ⟨_, isPair, -⟩ := exists_of_mapM paired isMet
    exact List.ne_nil_of_mem isPair

/-- Something was merged already. -/
def Merging.Holds (merging : Merging) : Prop :=
  merging.merged ≠ [] ∨ merging.overflow ≠ []

theorem Merging.Holds.add {merging after : Merging}
    (present : merging.Holds ∨ outcome.isTruthy = true) (added : merging.add outcome = .ok after) :
    after.Holds := by
  unfold Merging.add at added
  split at added
  · rename_i absent
    cases added
    exact present.resolve_right fun truthy => by simp [truthy] at absent
  · rename_i truthy
    obtain ⟨met, steps, added⟩ := bind_eq_ok.1 added
    obtain ⟨collides, -, added⟩ := bind_eq_ok.1 added
    cases collides with
    | true =>
      cases added
      exact .inr (by simp)
    | false =>
      obtain ⟨merged, made, added⟩ := bind_eq_ok.1 added
      cases added
      exact .inl (addTo_ne_nil (by simpa using truthy) made)

theorem Merging.Holds.foldlM {merging after : Merging}
    (present : merging.Holds ∨ ∃ result ∈ results, result.isTruthy = true)
    (folded : results.foldlM Merging.add merging = .ok after) : after.Holds := by
  induction results generalizing merging with
  | nil =>
    cases folded
    simpa using present
  | cons result rest ih =>
    rw [List.foldlM_cons] at folded
    obtain ⟨next, added, folded⟩ := bind_eq_ok.1 folded
    refine ih ?_ folded
    rcases present with holds | ⟨some, member, truthy⟩
    · exact .inl (.add (.inl holds) added)
    · rcases List.mem_cons.1 member with rfl | later
      · exact .inl (.add (.inr truthy) added)
      · exact .inr ⟨some, later, truthy⟩

theorem combine_ne_nil {fields : Descriptors} (present : ∃ result ∈ results, result.isTruthy = true)
    (combined : combine results = .ok fields) : fields ≠ [] := by
  obtain ⟨merging, folded, finished⟩ := bind_eq_ok.1 combined
  have holds : merging.Holds := .foldlM (.inr present) folded
  unfold Merging.finish at finished
  split at finished
  · rename_i none
    cases finished
    exact holds.resolve_right fun some => some (List.isEmpty_iff.1 none)
  · dsimp only at finished
    split at finished
    all_goals
      obtain ⟨kept, -, finished⟩ := bind_eq_ok.1 finished
      cases finished
      exact KeyedList.put_ne_nil _ _ _

theorem link_ne_nil {prompt linked : Descriptors} {rest : List Outcome}
    (made : link prompt rest = .ok linked) :
    linked ≠ [] := by
  unfold link at made
  dsimp only at made
  generalize (if KeyedList.has prompt "select_target" then "select_target" else "select_option") =
    key at made
  split at made
  · cases made
    exact KeyedList.put_ne_nil _ _ _
  · cases made

/-- What asks a question has a part that a player has to deal with. -/
theorem prompting_ne_nil {fields : Descriptors} (asks : (record fields).asks = .ok true) :
    Descriptors.prompting fields ≠ [] := by
  rw [asks_record, Except.ok.injEq, Descriptors.asks_eq] at asks
  obtain ⟨key, isQuestion, member⟩ := asks
  obtain ⟨field, isField, rfl⟩ := List.mem_map.1 member
  have isChain : field.1 ∈ chainKeys := List.mem_append_left _ isQuestion
  exact List.ne_nil_of_mem (List.mem_filter.2 ⟨isField, by simpa using isChain⟩)

/-- Each result of a merge is marked with whether it asks a question. -/
theorem asks_of_marked {marked : List (Bool × Outcome)}
    (made : (results.mapM fun result => do return (← result.asks, result) : Except Failure _) =
      .ok marked)
    {entry : Bool × Outcome} (member : entry ∈ marked) : entry.2.asks = .ok entry.1 := by
  obtain ⟨result, -, marks⟩ := exists_of_mem_mapM made member
  obtain ⟨asks, answered, same⟩ := bind_eq_ok.1 marks
  cases same
  exact answered

/-- A merge of results, one of which is there, comes to something. -/
theorem isTruthy_of_merge (present : ∃ result ∈ results, result.isTruthy = true)
    (merged : merge results = .ok outcome) : outcome.isTruthy = true := by
  unfold merge at merged
  split at merged
  · rename_i none
    obtain ⟨result, member, truthy⟩ := present
    exact absurd truthy (List.filter_eq_nil_iff.1 none result member)
  · rename_i only isOnly
    have member : only ∈ results.filter isTruthy := isOnly ▸ List.mem_singleton_self only
    rw [← Except.ok.inj merged]
    exact (List.mem_filter.1 member).2
  · have allTruthy : ∀ result ∈ results.filter isTruthy, result.isTruthy = true :=
      fun result member => (List.mem_filter.1 member).2
    obtain ⟨marked, marks, merged⟩ := bind_eq_ok.1 merged
    dsimp only at merged
    split at merged
    · rename_i none
      obtain ⟨fields, combined, same⟩ := bind_eq_ok.1 merged
      cases same
      refine isTruthy_record.2 (combine_ne_nil ?_ combined)
      -- Nothing asks, so all results are combined.
      obtain ⟨result, member, truthy⟩ := present
      obtain ⟨entry, isEntry, marks⟩ := exists_of_mapM marks (List.mem_filter.2 ⟨member, truthy⟩)
      obtain ⟨asks, -, same⟩ := bind_eq_ok.1 marks
      cases same
      have silent : asks = false := by
        by_contra asking
        simp only [Bool.not_eq_false] at asking
        exact List.not_mem_nil (none ▸ List.mem_map_of_mem (List.mem_filter.2 ⟨isEntry, asking⟩))
      exact ⟨result, List.mem_map.2 ⟨_, List.mem_filter.2 ⟨isEntry, by simp [silent]⟩, rfl⟩, truthy⟩
    · rename_i first rest isFirst
      obtain ⟨fields, isRecord, merged⟩ := bind_eq_ok.1 merged
      obtain ⟨beside, -, merged⟩ := bind_eq_ok.1 merged
      split at merged
      · cases merged
        refine isTruthy_record.2 (KeyedList.putAll_ne_nil (.inr ?_))
        have member : first ∈ (marked.filter Prod.fst).map Prod.snd := isFirst ▸ List.mem_cons_self
        obtain ⟨entry, isEntry, rfl⟩ := List.mem_map.1 member
        obtain ⟨isMarked, asks⟩ := List.mem_filter.1 isEntry
        have answered := asks_of_marked marks isMarked
        cases spelled : entry.2 with
        | record own =>
          rw [spelled] at isRecord answered
          cases isRecord
          exact prompting_ne_nil (asks ▸ answered)
        | _ =>
          rw [spelled] at isRecord
          cases isRecord
      · obtain ⟨prompt, linked, merged⟩ := bind_eq_ok.1 merged
        cases merged
        exact isTruthy_record.2 (KeyedList.putAll_ne_nil (.inr (link_ne_nil linked)))

/-- A merge comes to something exactly if one of the results does. -/
theorem isTruthy_merge_iff (merged : merge results = .ok outcome) :
    outcome.isTruthy = true ↔ ∃ result ∈ results, result.isTruthy = true := by
  refine ⟨fun truthy => ?_, fun present => isTruthy_of_merge present merged⟩
  by_contra absent
  have none : results.filter isTruthy = [] :=
    List.filter_eq_nil_iff.2 fun result member isTruthy => absent ⟨result, member, isTruthy⟩
  rw [merge, none] at merged
  cases merged
  cases truthy

end Outcome

end CreatureCards
