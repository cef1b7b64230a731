import CreatureCards.Proofs.Leaves
import CreatureCards.Proofs.MergedResult

/-!
# Visits of merged results

A visit of a merged result asks the linked question, visits what waits for it,
and only then asks what the results that are kept ask.  So the results that
follow in the chain come directly behind the answer as long as neither the
answer nor the result that goes on next keeps results with questions of their
own; otherwise those questions are put off to the end.
-/

namespace CreatureCards

open Outcome

namespace Play

theorem inTurn_eq_skip {α : Type} [AddMonoid α] {plays : List (Play α)}
    (each : ∀ play ∈ plays, play = skip) : inTurn plays = skip := by
  induction plays with
  | nil => rfl
  | cons play rest ih =>
      rw [inTurn_cons, each play (List.mem_cons_self ..),
        ih fun other member => each other (List.mem_cons_of_mem _ member), skip_andThen]

theorem map_inTurn {α β : Type} [AddMonoid α] [AddMonoid β] (view : α →+ β)
    (plays : List (Play α)) : (inTurn plays).map view = inTurn (plays.map (map view)) := by
  induction plays with
  | nil => exact map_skip view
  | cons play rest ih => rw [inTurn_cons, map_andThen, ih, List.map_cons, inTurn_cons]

end Play

/-- A result without any question, in it or in the results that it keeps. -/
inductive Outcome.Promptless : Outcome → Prop
  | record {fields : Descriptors} (unprompted : fields.Unprompted)
      (kept : ∀ item ∈ fields.kept, Promptless item) : Promptless (record fields)

namespace Descriptors

variable {fields merged prompt upcoming : Descriptors}

def CarriesNothing (fields : Descriptors) : Prop :=
  ∀ item ∈ fields.kept, Promptless item

def asked (fields : Descriptors) : Play (FreeAddMonoid Outcome) :=
  (questionsAt fields "select_target").andThen (questionsAt fields "select_option")

def carried (fields : Descriptors) : Play (FreeAddMonoid Outcome) :=
  .inTurn (fields.kept.map questions)

theorem questions_eq (fields : Descriptors) :
    questions (record fields) =
      fields.asked.andThen ((Play.inTurn (fields.pending.map visit)).andThen fields.carried) := by
  rw [questions_record, asked, carried, Play.andThen_assoc]

theorem Unprompted.lookup_eq_none (unprompted : fields.Unprompted) {key : String}
    (chain : key ∈ chainKeys) : fields.lookup key = none :=
  KeyedList.lookup_eq_none_of_not_mem (unprompted key chain)

theorem Unprompted.questions_eq (unprompted : fields.Unprompted) :
    questions (record fields) = fields.carried := by
  rw [Descriptors.questions_eq, asked, questionsAt, questionsAt, pending,
    unprompted.lookup_eq_none (by decide), unprompted.lookup_eq_none (by decide),
    unprompted.lookup_eq_none (by decide)]
  simp

theorem asked_congr {others : Descriptors}
    (same : ∀ key ∈ questionKeys, fields.lookup key = others.lookup key) :
    fields.asked = others.asked := by
  rw [asked, asked, questionsAt, questionsAt, questionsAt, questionsAt, same _ (by decide),
    same _ (by decide)]

theorem asked_append_prompt (unprompted : merged.Unprompted) :
    (merged ++ prompt).asked = prompt.asked :=
  asked_congr fun _ isKey => lookup_append_prompt unprompted (List.mem_append_left _ isKey)

theorem pending_append_prompt (unprompted : merged.Unprompted) :
    (merged ++ prompt).pending = prompt.pending := by
  rw [pending, lookup_append_prompt unprompted (by decide), pending]

/-- What a visit asks of a record whose prompting part stands behind what can be
applied at once. -/
theorem questions_append_prompt (unprompted : merged.Unprompted)
    (chain : ∀ key ∈ KeyedList.keys prompt, key ∈ chainKeys) :
    questions (record (merged ++ prompt)) =
      prompt.asked.andThen
        ((Play.inTurn (prompt.pending.map visit)).andThen merged.carried) := by
  rw [Descriptors.questions_eq, asked_append_prompt unprompted, pending_append_prompt unprompted,
    carried, kept_append_prompt chain, carried]

theorem asked_prompting (fields : Descriptors) : (prompting fields).asked = fields.asked :=
  asked_congr fun _ isKey => lookup_prompting fields (List.mem_append_left _ isKey)

theorem asked_put_pending (payload : Outcome) (fields : Descriptors) :
    asked (KeyedList.put pendingKey payload fields) = fields.asked := by
  refine asked_congr fun key isKey => ?_
  have differs : key ≠ pendingKey := by
    rintro rfl
    exact absurd isKey (by decide)
  rw [KeyedList.lookup_put, if_neg differs]

theorem pending_put_pending (items : List Outcome) (fields : Descriptors) :
    pending (KeyedList.put pendingKey (list items) fields) = items := by
  rw [pending, KeyedList.lookup_put, if_pos rfl]
  rfl

theorem carried_put_of_ne {key : String} (plain : key ≠ compositeKey) (payload : Outcome)
    (fields : Descriptors) : carried (KeyedList.put key payload fields) = fields.carried := by
  rw [carried, kept, KeyedList.lookup_put, if_neg (Ne.symm plain), ← kept, carried]

theorem asked_inFront (upcoming : Descriptors) (remaining : List Outcome) :
    (inFront upcoming remaining).asked = upcoming.asked := by
  rw [inFront]
  split
  · exact asked_prompting upcoming
  · rw [asked_put_pending, asked_prompting]

theorem pending_inFront (upcoming : Descriptors) (remaining : List Outcome) :
    (inFront upcoming remaining).pending = upcoming.pending ++ remaining := by
  rw [inFront]
  split
  · rename_i isEmpty
    rw [pending_prompting, List.isEmpty_iff.1 isEmpty, List.append_nil]
  · rw [pending_put_pending]

theorem carried_immediate (fields : Descriptors) :
    (immediate fields).carried = fields.carried := by
  rw [carried, kept_immediate, carried]

theorem carried_append {others : Descriptors}
    (distinct : (KeyedList.keys (fields ++ others)).Nodup) :
    (fields ++ others).carried = fields.carried.andThen others.carried := by
  rw [carried, carried, carried, kept, List.lookup_append]
  cases found : fields.lookup compositeKey with
  | none => simp [kept, found]
  | some payload =>
      have isKey : compositeKey ∈ KeyedList.keys fields :=
        KeyedList.has_iff_mem_keys.1 (by simp [KeyedList.has, found])
      rw [KeyedList.keys, List.map_append, List.nodup_append] at distinct
      have absent : compositeKey ∉ KeyedList.keys others :=
        fun member => distinct.2.2 _ isKey _ member rfl
      simp [kept, found, KeyedList.lookup_eq_none_of_not_mem absent]

theorem carried_flatten {fitting : List Descriptors}
    (distinct : (KeyedList.keys fitting.flatten).Nodup) :
    carried fitting.flatten = .inTurn (fitting.map carried) := by
  induction fitting with
  | nil => rfl
  | cons fields rest ih =>
      have later : (KeyedList.keys rest.flatten).Nodup :=
        distinct.sublist ((List.sublist_append_right fields rest.flatten).map Prod.fst)
      rw [List.flatten_cons, carried_append distinct, ih later]
      rfl

end Descriptors

namespace Outcome

theorem Promptless.questions_eq {outcome : Outcome} (promptless : Promptless outcome) :
    questions outcome = .skip := by
  induction promptless with
  | record unprompted kept ih =>
      rw [unprompted.questions_eq, Descriptors.carried]
      refine Play.inTurn_eq_skip fun play member => ?_
      obtain ⟨item, isKept, rfl⟩ := List.mem_map.1 member
      exact ih item isKept

end Outcome

theorem Descriptors.CarriesNothing.carried_eq {fields : Descriptors}
    (light : fields.CarriesNothing) : fields.carried = .skip := by
  refine Play.inTurn_eq_skip fun play member => ?_
  obtain ⟨item, isKept, rfl⟩ := List.mem_map.1 member
  exact (light item isKept).questions_eq

namespace Outcome

namespace SideBySide

variable {results fitting colliding : List Descriptors} {merged : Descriptors}

/-- Combined results ask what the results ask, those that fit first. -/
theorem carried_eq (side : SideBySide results fitting colliding merged)
    (unprompted : ∀ fields ∈ results, Descriptors.Unprompted fields) :
    merged.carried = .inTurn ((fitting ++ colliding).map Descriptors.carried) := by
  have collides : (colliding.map record).map questions = colliding.map Descriptors.carried := by
    rw [List.map_map]
    refine List.map_congr_left fun fields member => ?_
    exact (unprompted fields (side.perm.subset (List.mem_append_right _ member))).questions_eq
  rw [Descriptors.carried, side.kept_eq, List.map_append, collides, Play.inTurn_append,
    ← Descriptors.carried, Descriptors.carried_flatten side.distinct, List.map_append,
    Play.inTurn_append]

theorem carried_eq_skip (side : SideBySide results fitting colliding merged)
    (unprompted : ∀ fields ∈ results, Descriptors.Unprompted fields)
    (light : ∀ fields ∈ results, fields.carried = .skip) : merged.carried = .skip := by
  rw [side.carried_eq unprompted]
  refine Play.inTurn_eq_skip fun play member => ?_
  obtain ⟨fields, isPart, rfl⟩ := List.mem_map.1 member
  exact light fields (side.perm.subset isPart)

end SideBySide

/-- What is said and asked in a visit of an outcome. -/
def said (outcome : Outcome) : Play Leaves :=
  (visit outcome).map leavesOf

theorem said_eq (outcome : Outcome) :
    outcome.said = ((questions outcome).map leavesOf).bring (appliedLeaves outcome) := by
  rw [said, visit, Play.map_bring, appliedLeaves]

theorem map_inTurn_visits (outcomes : List Outcome) :
    (Play.inTurn (outcomes.map visit)).map leavesOf = .inTurn (outcomes.map said) := by
  rw [Play.map_inTurn, List.map_map]
  rfl

theorem counts_appliedLeaves : Counts fieldLeaves appliedLeaves where
  record fields _ := appliedLeaves_record fields
  kept items := by
    have free : compositeKey ∉ chainKeys := by decide
    rw [fieldLeaves, if_neg free, if_pos rfl, items_list]

theorem appliedLeaves_of_prompt {prompt : Descriptors}
    (chain : ∀ key ∈ KeyedList.keys prompt, key ∈ chainKeys) :
    (prompt.map fieldLeaves).sum = 0 := by
  refine List.sum_eq_zero fun size member => ?_
  obtain ⟨field, isField, rfl⟩ := List.mem_map.1 member
  rw [fieldLeaves, if_pos (chain _ (List.mem_map.2 ⟨field, isField, rfl⟩))]

theorem appliedLeaves_append_prompt {merged prompt : Descriptors}
    (chain : ∀ key ∈ KeyedList.keys prompt, key ∈ chainKeys) :
    appliedLeaves (record (merged ++ prompt)) = appliedLeaves (record merged) := by
  rw [appliedLeaves_record, List.map_append, List.sum_append, appliedLeaves_of_prompt chain,
    add_zero, ← appliedLeaves_record]

theorem appliedLeaves_immediate (fields : Descriptors) :
    appliedLeaves (record fields.immediate) = appliedLeaves (record fields) := by
  have parted := ((List.filter_append_perm (fun field => chainKeys.contains field.1)
    fields).map fieldLeaves).sum_eq
  rw [List.map_append, List.sum_append] at parted
  have prompting : (fields.prompting.map fieldLeaves).sum = 0 :=
    appliedLeaves_of_prompt fun key => Descriptors.mem_chainKeys_of_prompting
  rw [Descriptors.prompting] at prompting
  rw [prompting, zero_add] at parted
  rw [appliedLeaves_record, appliedLeaves_record, ← parted, Descriptors.immediate]

theorem appliedLeaves_put_pending {fields : Descriptors}
    (distinct : (KeyedList.keys fields).Nodup) (payload : Outcome) :
    appliedLeaves (record (KeyedList.put pendingKey payload fields)) =
      appliedLeaves (record fields) := by
  have chain : pendingKey ∈ chainKeys := by decide
  have unsaid (waiting : Outcome) : fieldLeaves (pendingKey, waiting) = 0 := if_pos chain
  rw [appliedLeaves_record, appliedLeaves_record,
    ((KeyedList.put_perm pendingKey payload distinct).map fieldLeaves).sum_eq,
    ((KeyedList.perm_lookup pendingKey distinct).map fieldLeaves).sum_eq]
  cases fields.lookup pendingKey <;> simp [unsaid]

end Outcome

end CreatureCards
