import CreatureCards.Proofs.Visit
import Mathlib

/-!
# Leaves

What a result says is the collection of its descriptors, with those of kept
results among them and in no order: its leaves.  What a visit applies has no
questions left in it, and its leaves are those of the result that are not put to
a player.
-/

namespace CreatureCards

namespace Outcome

/-- Descriptors in no order. -/
abbrev Leaves := Multiset (String × Outcome)

mutual

/-- The descriptors of a record and of the results that it keeps. -/
def leaves : Outcome → Leaves
  | record fields => leavesFields fields
  | _ => 0

def leavesFields : List (String × Outcome) → Leaves
  | [] => 0
  | (key, payload) :: rest =>
    (if key = compositeKey then leavesKept payload else {(key, payload)}) + leavesFields rest

def leavesKept : Outcome → Leaves
  | list items => leavesItems items
  | _ => 0

def leavesItems : List Outcome → Leaves
  | [] => 0
  | item :: rest => leaves item + leavesItems rest

end

/-- The descriptors of results that were applied one after the other. -/
def leavesOf : FreeAddMonoid Outcome →+ Leaves :=
  FreeAddMonoid.lift leaves

def appliedLeaves (outcome : Outcome) : Leaves :=
  leavesOf (applied outcome)

def fieldLeaves (field : String × Outcome) : Leaves :=
  if field.1 ∈ chainKeys then 0
  else if field.1 = compositeKey then (field.2.items.map appliedLeaves).sum
  else {field}

/-- A record that can be applied: it says something, uses every key once, has
nothing for a player to deal with, and keeps only such records. -/
inductive Bare : Outcome → Prop
  | record {fields : Descriptors} (present : fields ≠ [])
      (distinct : (KeyedList.keys fields).Nodup)
      (unasked : ∀ key ∈ chainKeys, key ∉ KeyedList.keys fields)
      (lists : ∀ payload, (compositeKey, payload) ∈ fields → payload.IsList)
      (kept : ∀ payload, (compositeKey, payload) ∈ fields → ∀ item ∈ payload.items, Bare item) :
      Bare (record fields)

theorem leavesItems_eq_sum (outcomes : List Outcome) :
    leavesItems outcomes = (outcomes.map leaves).sum := by
  induction outcomes with
  | nil => rfl
  | cons outcome rest ih => simp [leavesItems, ih]

theorem leavesKept_eq_sum (payload : Outcome) :
    leavesKept payload = (payload.items.map leaves).sum := by
  cases payload with
  | list outcomes => exact leavesItems_eq_sum outcomes
  | _ => rfl

@[simp]
theorem leavesOf_of (outcome : Outcome) : leavesOf (.of outcome) = leaves outcome := by
  simp [leavesOf]

theorem leavesOf_eq_sum (outcomes : FreeAddMonoid Outcome) :
    leavesOf outcomes = (outcomes.toList.map leaves).sum :=
  FreeAddMonoid.lift_apply leaves outcomes

theorem applied_eq (outcome : Outcome) :
    applied outcome = if (bare outcome).isEmpty then 0 else .of (record (bare outcome)) := by
  rw [applied]
  cases bare outcome <;> rfl

theorem appliedLeaves_eq (outcome : Outcome) :
    appliedLeaves outcome = leavesFields (bare outcome) := by
  rw [appliedLeaves, applied_eq]
  cases bare outcome with
  | nil => rfl
  | cons field rest => exact leavesOf_of _

/-- Stripping results keeps their descriptors, and so does dropping those of
which nothing is left. -/
theorem sum_leaves_bareItems (outcomes : List Outcome) :
    ((bareItems outcomes).map leaves).sum = (outcomes.map appliedLeaves).sum := by
  induction outcomes with
  | nil => rfl
  | cons outcome rest ih =>
      rw [bareItems, List.map_cons, List.sum_cons, appliedLeaves_eq]
      cases bare outcome with
      | nil => simpa [leavesFields] using ih
      | cons field fields => simp [leaves, ih]

theorem sum_leaves_bareKept (payload : Outcome) :
    ((bareKept payload).map leaves).sum = (payload.items.map appliedLeaves).sum := by
  cases payload with
  | list outcomes => exact sum_leaves_bareItems outcomes
  | _ => rfl

theorem appliedLeaves_record (fields : Descriptors) :
    appliedLeaves (record fields) = (fields.map fieldLeaves).sum := by
  rw [appliedLeaves_eq, bare]
  induction fields with
  | nil => rfl
  | cons field rest ih =>
      obtain ⟨key, payload⟩ := field
      have split := sum_leaves_bareKept payload
      rw [bareFields, List.map_cons, List.sum_cons, fieldLeaves]
      by_cases chain : key ∈ chainKeys
      · simp [chain, ih]
      · by_cases composite : key = compositeKey
        · rw [if_neg chain, if_pos composite, if_neg chain, if_pos composite, ← split]
          cases bareKept payload with
          | nil => simpa using ih
          | cons item items =>
              simp only [leavesFields, if_pos composite, leavesKept_eq_sum, items_list, ih]
        · simp [chain, composite, leavesFields, ih]

theorem keys_bareFields_sublist (fields : Descriptors) :
    (KeyedList.keys (bareFields fields)).Sublist (KeyedList.keys fields) := by
  induction fields with
  | nil => exact .slnil
  | cons field rest ih =>
      obtain ⟨key, payload⟩ := field
      rw [bareFields]
      split
      · exact ih.cons key
      · split
        · split
          · exact ih.cons key
          · exact ih.cons_cons key
        · exact ih.cons_cons key

/-- What is left of a field is the field, and under the key of kept results what
is left of those. -/
theorem exists_of_mem_bareFields {fields : Descriptors} {field : String × Outcome}
    (member : field ∈ bareFields fields) :
    field.1 ∉ chainKeys ∧ ∃ payload, (field.1, payload) ∈ fields ∧
      field.2 = if field.1 = compositeKey then list (bareKept payload) else payload := by
  induction fields with
  | nil => simp [bareFields] at member
  | cons head rest ih =>
      obtain ⟨key, payload⟩ := head
      have later (inRest : field ∈ bareFields rest) :
          field.1 ∉ chainKeys ∧ ∃ other, (field.1, other) ∈ (key, payload) :: rest ∧
            field.2 = if field.1 = compositeKey then list (bareKept other) else other := by
        obtain ⟨free, other, known, same⟩ := ih inRest
        exact ⟨free, other, List.mem_cons_of_mem _ known, same⟩
      rw [bareFields] at member
      split at member
      · exact later member
      · rename_i free
        split at member
        · rename_i isComposite
          cases kept : bareKept payload with
          | nil =>
              rw [kept] at member
              exact later member
          | cons item items =>
              rw [kept] at member
              cases List.mem_cons.1 member with
              | inl same =>
                  subst same
                  exact ⟨free, payload, by simp, by rw [if_pos isComposite, kept]⟩
              | inr inRest => exact later inRest
        · rename_i isPlain
          cases List.mem_cons.1 member with
          | inl same =>
              subst same
              exact ⟨free, payload, by simp, by rw [if_neg isPlain]⟩
          | inr inRest => exact later inRest

theorem exists_of_mem_bareFields_composite {fields : Descriptors} {payload : Outcome}
    (member : (compositeKey, payload) ∈ bareFields fields) :
    ∃ original, (compositeKey, original) ∈ fields ∧ payload = list (bareKept original) := by
  obtain ⟨-, original, known, same⟩ := exists_of_mem_bareFields member
  exact ⟨original, known, by simpa using same⟩

theorem bare_of_mem_bareItems {outcomes : List Outcome}
    (each : ∀ outcome ∈ outcomes, bare outcome ≠ [] → Bare (record (bare outcome)))
    {item : Outcome} (member : item ∈ bareItems outcomes) : Bare item := by
  induction outcomes with
  | nil => simp [bareItems] at member
  | cons outcome rest ih =>
      have others := ih fun other inRest => each other (List.mem_cons_of_mem _ inRest)
      have here := each outcome (List.mem_cons_self ..)
      rw [bareItems] at member
      cases left : bare outcome with
      | nil =>
          rw [left] at member
          exact others member
      | cons field fields =>
          rw [left] at member here
          cases List.mem_cons.1 member with
          | inl same => exact same ▸ here (by simp)
          | inr inRest => exact others inRest

theorem Shaped.bare_record {outcome : Outcome} (shaped : Shaped outcome)
    (present : bare outcome ≠ []) : Bare (record (bare outcome)) := by
  induction shaped with
  | prompt _ _ _ => exact absurd rfl present
  | @result fields distinct suits _ ih =>
      rw [bare] at present ⊢
      refine .record present (distinct.sublist (keys_bareFields_sublist fields)) ?_ ?_ ?_
      · intro key chain member
        obtain ⟨field, isField, rfl⟩ := List.mem_map.1 member
        exact (exists_of_mem_bareFields isField).1 chain
      · intro payload member
        obtain ⟨original, -, rfl⟩ := exists_of_mem_bareFields_composite member
        trivial
      · intro payload member item isItem
        obtain ⟨original, known, rfl⟩ := exists_of_mem_bareFields_composite member
        have isList : original = list original.items := ((suits _ known).composite rfl).eq_list
        rw [items_list, isList] at isItem
        refine bare_of_mem_bareItems (fun outcome isKept => ?_) isItem
        exact ih _ known outcome (by
          simpa using isKept)

end Outcome

end CreatureCards
