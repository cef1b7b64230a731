import CreatureCards.Proofs.ResultShape
import Mathlib

/-!
# Combining results

Results are combined by putting the fitting ones into one record and keeping the
colliding ones whole, behind what the record keeps already.  Whatever is counted
over the fields of results, and over kept results as if they stood by
themselves, comes to the same total before and after.
-/

namespace CreatureCards

namespace Outcome

/-- One after another, results whose keys are all new fit behind the keys that are
taken, and the others collide. -/
inductive Sorts : Descriptors → List Descriptors → List Descriptors → List Descriptors → Prop
  | nil {taken : Descriptors} : Sorts taken [] [] []
  | fits {taken fields : Descriptors} {rest fitting colliding : List Descriptors}
      (fresh : ∀ key ∈ KeyedList.keys fields, key ∉ KeyedList.keys taken)
      (later : Sorts (taken ++ fields) rest fitting colliding) :
      Sorts taken (fields :: rest) (fields :: fitting) colliding
  | collides {taken fields : Descriptors} {rest fitting colliding : List Descriptors}
      {key : String} (own : key ∈ KeyedList.keys fields) (isTaken : key ∈ KeyedList.keys taken)
      (later : Sorts taken rest fitting colliding) :
      Sorts taken (fields :: rest) fitting (fields :: colliding)

structure SideBySide (results fitting colliding : List Descriptors) (merged : Descriptors) :
    Prop where
  sorts : Sorts [] results fitting colliding
  distinct : (KeyedList.keys fitting.flatten).Nodup
  eq : merged =
    if colliding.isEmpty then fitting.flatten
    else KeyedList.put compositeKey
      (list (Descriptors.kept fitting.flatten ++ colliding.map record)) fitting.flatten

theorem Sorts.perm {taken : Descriptors} {results fitting colliding : List Descriptors}
    (sorts : Sorts taken results fitting colliding) : (fitting ++ colliding).Perm results := by
  induction sorts with
  | nil => exact .refl _
  | fits _ _ ih => exact ih.cons _
  | collides _ _ _ ih => exact List.perm_middle.trans (ih.cons _)

theorem SideBySide.perm {results fitting colliding : List Descriptors} {merged : Descriptors}
    (side : SideBySide results fitting colliding merged) : (fitting ++ colliding).Perm results :=
  side.sorts.perm

theorem anyKeyOf_texts (merged fields : Descriptors) :
    anyKeyOf merged (fields.map fun field => text field.1) =
      .ok (fields.any fun field => KeyedList.has merged field.1) := by
  induction fields with
  | nil => rfl
  | cons field rest ih =>
      have here : isKeyOf merged (text field.1) = .ok (KeyedList.has merged field.1) := rfl
      rw [List.map_cons, anyKeyOf, here, ih, List.any_cons]
      cases KeyedList.has merged field.1 <;> rfl

theorem Merging.add_record (merging : Merging) (fields : Descriptors) :
    merging.add (record fields) =
      .ok (if fields.any fun field => KeyedList.has merging.merged field.1 then
          { merging with overflow := merging.overflow ++ [record fields] }
        else { merging with merged := KeyedList.putAll merging.merged fields }) := by
  have elements : (record fields).elements = .ok (fields.map fun field => text field.1) := rfl
  have added : addTo merging.merged (record fields) =
      .ok (KeyedList.putAll merging.merged fields) := rfl
  rw [Merging.add, elements, added]
  simp only [bind, Except.bind, anyKeyOf_texts, isTruthy, pure, Except.pure]
  cases fields with
  | nil => rfl
  | cons field rest =>
      cases taken : (field :: rest).any fun field => KeyedList.has merging.merged field.1 <;>
        simp

theorem foldlM_add_records (results : List Descriptors) (taken : Descriptors)
    (overflow : List Outcome) (each : ∀ fields ∈ results, (KeyedList.keys fields).Nodup)
    (distinct : (KeyedList.keys taken).Nodup) :
    ∃ fitting colliding,
      (results.map record).foldlM Merging.add ⟨taken, overflow⟩ =
        .ok ⟨taken ++ fitting.flatten, overflow ++ colliding.map record⟩ ∧
      Sorts taken results fitting colliding ∧
      (KeyedList.keys (taken ++ fitting.flatten)).Nodup := by
  -- Whether a result fits depends on the fields taken so far, which therefore vary.
  induction results generalizing taken overflow with
  | nil => exact ⟨[], [], by simp [pure, Except.pure], .nil, by simpa using distinct⟩
  | cons fields rest ih =>
      have later := fun other member => each other (List.mem_cons_of_mem _ member)
      rw [List.map_cons, List.foldlM_cons, Merging.add_record]
      simp only [bind, Except.bind]
      split
      · rename_i isTaken
        obtain ⟨field, isField, has⟩ := List.any_eq_true.1 isTaken
        obtain ⟨fitting, colliding, folded, sorts, nodup⟩ :=
          ih taken (overflow ++ [record fields]) later distinct
        refine ⟨fitting, fields :: colliding, by simpa using folded, ?_, nodup⟩
        exact .collides (List.mem_map.2 ⟨field, isField, rfl⟩) (KeyedList.has_iff_mem_keys.1 has)
          sorts
      · rename_i fresh
        have disjoint : ∀ key ∈ KeyedList.keys fields, key ∉ KeyedList.keys taken := by
          intro key member isTaken
          obtain ⟨field, isField, rfl⟩ := List.mem_map.1 member
          exact fresh (List.any_eq_true.2 ⟨field, isField, KeyedList.has_iff_mem_keys.2 isTaken⟩)
        have own := each fields (List.mem_cons_self ..)
        have together : (KeyedList.keys (taken ++ fields)).Nodup := by
          rw [KeyedList.keys, List.map_append]
          refine List.nodup_append.2 ⟨distinct, own, ?_⟩
          rintro key isTaken _ member rfl
          exact disjoint key member isTaken
        obtain ⟨fitting, colliding, folded, sorts, nodup⟩ :=
          ih (taken ++ fields) overflow later together
        refine ⟨fields :: fitting, colliding, ?_, .fits disjoint sorts, by simpa using nodup⟩
        simpa [KeyedList.putAll_of_disjoint own disjoint] using folded

theorem Merging.finish_eq {merging : Merging}
    (lists : ∀ payload, merging.merged.lookup compositeKey = some payload → payload.IsList) :
    merging.finish =
      .ok (if merging.overflow.isEmpty then merging.merged
        else KeyedList.put compositeKey
          (list (Descriptors.kept merging.merged ++ merging.overflow)) merging.merged) := by
  rw [Merging.finish, Descriptors.kept]
  split
  · rfl
  · cases found : merging.merged.lookup compositeKey with
    | none => rfl
    | some payload =>
        rw [(lists payload found).eq_list]
        rfl

theorem exists_map_record {outcomes : List Outcome}
    (records : ∀ outcome ∈ outcomes, outcome.IsRecord) :
    ∃ results : List Descriptors, outcomes = results.map record := by
  induction outcomes with
  | nil => exact ⟨[], rfl⟩
  | cons outcome rest ih =>
      obtain ⟨fields, rfl⟩ := (records outcome (List.mem_cons_self ..)).exists_eq
      obtain ⟨results, rfl⟩ := ih fun other member => records other (List.mem_cons_of_mem _ member)
      exact ⟨fields :: results, rfl⟩

/-- Results that use every key once, and keep lists, can be combined. -/
theorem exists_combine_eq {results : List Descriptors}
    (each : ∀ fields ∈ results, (KeyedList.keys fields).Nodup)
    (lists : ∀ fields ∈ results, ∀ payload, fields.lookup compositeKey = some payload →
      payload.IsList) :
    ∃ merged fitting colliding, combine (results.map record) = .ok merged ∧
      SideBySide results fitting colliding merged := by
  obtain ⟨fitting, colliding, folded, sorts, distinct⟩ :=
    foldlM_add_records results [] [] each .nil
  simp only [List.nil_append] at folded distinct
  have listsMerged : ∀ payload, fitting.flatten.lookup compositeKey = some payload →
      payload.IsList := by
    intro payload found
    obtain ⟨fields, isFitting, member⟩ :=
      List.mem_flatten.1 (KeyedList.mem_of_lookup found)
    have isResult : fields ∈ results := sorts.perm.subset (List.mem_append_left _ isFitting)
    exact lists fields isResult payload (KeyedList.lookup_of_mem (each fields isResult) member)
  refine ⟨_, fitting, colliding, ?_, sorts, distinct, rfl⟩
  rw [combine, folded]
  simp only [bind, Except.bind]
  rw [Merging.finish_eq listsMerged]
  simp

namespace SideBySide

variable {results fitting colliding : List Descriptors} {merged : Descriptors}

theorem nodup_keys (side : SideBySide results fitting colliding merged) :
    (KeyedList.keys merged).Nodup := by
  rw [side.eq]
  split
  · exact side.distinct
  · exact KeyedList.nodup_keys_put _ _ side.distinct

theorem exists_of_lookup_fitting (side : SideBySide results fitting colliding merged)
    (each : ∀ fields ∈ results, (KeyedList.keys fields).Nodup) {key : String} {payload : Outcome}
    (found : fitting.flatten.lookup key = some payload) :
    ∃ fields ∈ results, fields.lookup key = some payload := by
  obtain ⟨fields, isFitting, member⟩ := List.mem_flatten.1 (KeyedList.mem_of_lookup found)
  have isResult : fields ∈ results := side.perm.subset (List.mem_append_left _ isFitting)
  exact ⟨fields, isResult, KeyedList.lookup_of_mem (each fields isResult) member⟩

/-- Under every key but that of kept results, a record looks up what one of the
results does. -/
theorem exists_of_lookup (side : SideBySide results fitting colliding merged)
    (each : ∀ fields ∈ results, (KeyedList.keys fields).Nodup) {key : String} {payload : Outcome}
    (plain : key ≠ compositeKey) (found : merged.lookup key = some payload) :
    ∃ fields ∈ results, fields.lookup key = some payload := by
  refine side.exists_of_lookup_fitting each ?_
  rw [side.eq] at found
  split at found
  · exact found
  · rwa [KeyedList.lookup_put, if_neg plain] at found

theorem kept_eq (side : SideBySide results fitting colliding merged) :
    Descriptors.kept merged = Descriptors.kept fitting.flatten ++ colliding.map record := by
  rw [side.eq]
  cases colliding with
  | nil => simp
  | cons fields rest =>
      rw [if_neg (by simp)]
      simp [Descriptors.kept, KeyedList.lookup_put]

/-- What a record keeps was kept by one of the results, or is one of them. -/
theorem of_mem_kept (side : SideBySide results fitting colliding merged)
    (each : ∀ fields ∈ results, (KeyedList.keys fields).Nodup) {item : Outcome}
    (member : item ∈ Descriptors.kept merged) :
    (∃ fields ∈ results, item ∈ Descriptors.kept fields) ∨
      ∃ fields ∈ results, item = record fields := by
  rw [side.kept_eq] at member
  cases List.mem_append.1 member with
  | inl inFitting =>
      cases found : fitting.flatten.lookup compositeKey with
      | none => simp [Descriptors.kept, found] at inFitting
      | some payload =>
          obtain ⟨fields, isResult, own⟩ := side.exists_of_lookup_fitting each found
          refine .inl ⟨fields, isResult, ?_⟩
          rwa [Descriptors.kept, found, ← own] at inFitting
  | inr collides =>
      obtain ⟨fields, isColliding, rfl⟩ := List.mem_map.1 collides
      exact .inr ⟨fields, side.perm.subset (List.mem_append_right _ isColliding), rfl⟩

/-- A list is there already, or is made for the results that collide. -/
theorem isList_kept (side : SideBySide results fitting colliding merged)
    (each : ∀ fields ∈ results, fields.Formed) {payload : Outcome}
    (found : merged.lookup compositeKey = some payload) : payload.IsList := by
  rw [side.eq] at found
  split at found
  · obtain ⟨fields, member, own⟩ :=
      side.exists_of_lookup_fitting (fun fields member => (each fields member).distinct) found
    exact ((each fields member).suits_of_lookup own).composite rfl
  · rw [KeyedList.lookup_put, if_pos rfl] at found
    cases found
    trivial

theorem shaped (side : SideBySide results fitting colliding merged)
    (each : ∀ fields ∈ results, Shaped (record fields)) : Shaped (record merged) := by
  have distinct : ∀ fields ∈ results, (KeyedList.keys fields).Nodup :=
    fun fields member => (each fields member).distinct
  refine .of_lookup side.nodup_keys ?_ ?_ ?_
  · intro key isKey payload found
    have plain : key ≠ compositeKey := by
      rintro rfl
      exact absurd isKey (by decide)
    obtain ⟨fields, member, own⟩ := side.exists_of_lookup distinct plain found
    obtain ⟨inquiry, answer, rfl, shaped⟩ := (each fields member).question_of_lookup isKey own
    exact ⟨trivial, shaped⟩
  · intro payload found
    obtain ⟨fields, member, own⟩ := side.exists_of_lookup distinct (by decide) found
    refine ⟨((each fields member).suits own).pending rfl, fun item isItem => ?_⟩
    exact (each fields member).part own
      (by simpa using isItem)
  · intro payload found
    refine ⟨side.isList_kept (fun fields member => (each fields member).formed) found,
      fun item isItem => ?_⟩
    have isKept : item ∈ Descriptors.kept merged := by rwa [Descriptors.kept, found]
    obtain ⟨fields, member, own⟩ | ⟨fields, member, rfl⟩ := side.of_mem_kept distinct isKept
    · exact (each fields member).of_mem_kept own
    · exact ⟨trivial, each fields member⟩

end SideBySide

/-- A count over outcomes in which a record counts as its fields do, and kept
results as if they stood by themselves. -/
structure Counts {α : Type} [AddCommMonoid α] (size : String × Outcome → α)
    (total : Outcome → α) : Prop where
  record : ∀ fields : Descriptors, (KeyedList.keys fields).Nodup →
    total (record fields) = (fields.map size).sum
  kept : ∀ items, size (compositeKey, list items) = (items.map total).sum

section Counts

variable {α : Type} [AddCommMonoid α] {size : String × Outcome → α} {total : Outcome → α}
  {results fitting colliding : List Descriptors} {merged : Descriptors}

theorem Counts.sum_fields (counts : Counts size total) {fields : Descriptors}
    (distinct : (KeyedList.keys fields).Nodup)
    (lists : ∀ payload, fields.lookup compositeKey = some payload → payload.IsList) :
    (fields.map size).sum =
      (fields.kept.map total).sum +
        ((fields.filter fun field => field.1 != compositeKey).map size).sum := by
  rw [((KeyedList.perm_lookup compositeKey distinct).map size).sum_eq, List.map_append,
    List.sum_append, Descriptors.kept]
  congr 1
  cases found : fields.lookup compositeKey with
  | none => rfl
  | some payload =>
      rw [(lists payload found).eq_list]
      simp [counts.kept]

/-- Combining results changes no count. -/
theorem SideBySide.total_eq (counts : Counts size total)
    (side : SideBySide results fitting colliding merged)
    (each : ∀ fields ∈ results, (KeyedList.keys fields).Nodup)
    (lists : ∀ fields ∈ results, ∀ payload, fields.lookup compositeKey = some payload →
      payload.IsList) :
    total (Outcome.record merged) =
      (results.map fun fields => total (Outcome.record fields)).sum := by
  have listsFitting : ∀ payload, fitting.flatten.lookup compositeKey = some payload →
      payload.IsList := by
    intro payload found
    obtain ⟨fields, member, own⟩ := side.exists_of_lookup_fitting each found
    exact lists fields member payload own
  have fits : ∀ fields ∈ fitting, fields ∈ results := fun fields member =>
    side.perm.subset (List.mem_append_left _ member)
  have sumFitting : (fitting.flatten.map size).sum =
      (fitting.map fun fields => total (Outcome.record fields)).sum := by
    rw [List.map_flatten, List.sum_flatten, List.map_map]
    refine congrArg List.sum (List.map_congr_left fun fields member => ?_)
    exact (counts.record fields (each fields (fits fields member))).symm
  rw [counts.record merged side.nodup_keys, ← (side.perm.map _).sum_eq, List.map_append,
    List.sum_append, ← sumFitting, side.eq]
  -- Results that collide move behind what is kept already, and count there as before.
  cases colliding with
  | nil => simp
  | cons fields rest =>
      rw [if_neg (by simp), ((KeyedList.put_perm _ _ side.distinct).map size).sum_eq,
        counts.sum_fields side.distinct listsFitting]
      simp only [List.map_cons, List.sum_cons, counts.kept, List.map_append, List.sum_append,
        List.map_map]
      rw [add_right_comm]
      rfl

end Counts

end Outcome

end CreatureCards
