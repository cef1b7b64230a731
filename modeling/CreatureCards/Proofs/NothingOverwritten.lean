import CreatureCards.Proofs.WalkRun
import Mathlib

/-!
# Nothing is overwritten

A record that is made of several results has every field of them somewhere: a
result either contributes all its fields or is kept whole, behind what the
contributing results keep.  The key of kept results is a key like any other when
it is decided which results collide, so a result that keeps others can
contribute, collide, or come behind results that did.
-/

namespace CreatureCards

namespace Descriptors

open Outcome

theorem kept_append {fields others : Descriptors}
    (distinct : (KeyedList.keys (fields ++ others)).Nodup) :
    kept (fields ++ others) = fields.kept ++ others.kept := by
  rw [kept, List.lookup_append, kept]
  cases found : fields.lookup compositeKey with
  | none => rfl
  | some payload =>
      rw [KeyedList.keys, List.map_append, List.nodup_append] at distinct
      have own : compositeKey ∈ KeyedList.keys fields :=
        KeyedList.has_iff_mem_keys.1 (by simp [KeyedList.has, found])
      -- Only one of the two can keep results.
      have absent : compositeKey ∉ KeyedList.keys others :=
        fun member => distinct.2.2 _ own _ member rfl
      rw [kept, KeyedList.lookup_eq_none_of_not_mem absent]
      simp

theorem kept_flatten {results : List Descriptors}
    (distinct : (KeyedList.keys results.flatten).Nodup) :
    kept results.flatten = results.flatMap kept := by
  induction results with
  | nil => rfl
  | cons fields rest ih =>
      rw [List.flatten_cons] at distinct ⊢
      have later : (KeyedList.keys rest.flatten).Nodup :=
        distinct.sublist ((List.sublist_append_right _ _).map Prod.fst)
      rw [kept_append distinct, ih later, List.flatMap_cons]

end Descriptors

namespace Outcome

namespace Sorts

variable {taken : Descriptors} {results contributed whole : List Descriptors}

theorem sublist (sorts : Sorts taken results contributed whole) : whole.Sublist results := by
  induction sorts with
  | nil => exact .slnil
  | fits _ _ ih => exact ih.cons _
  | collides _ _ _ ih => exact ih.cons_cons _

/-- As long as no field is taken every result fits, and so does the first one
that has any. -/
theorem exists_eq_append {ahead behind : List Descriptors} {first : Descriptors}
    (sorts : Sorts [] (ahead ++ first :: behind) contributed whole)
    (empty : ∀ fields ∈ ahead, fields = []) :
    ∃ later, contributed = ahead ++ first :: later := by
  induction ahead generalizing contributed with
  | nil =>
      cases sorts with
      | fits => exact ⟨_, rfl⟩
      | collides _ isTaken => cases isTaken
  -- Behind a result without fields there is still nothing taken.
  | cons fields ahead ih =>
      obtain rfl := empty fields (List.mem_cons_self ..)
      cases sorts with
      | fits _ later =>
          obtain ⟨more, rfl⟩ :=
            ih later fun other member => empty other (List.mem_cons_of_mem _ member)
          exact ⟨more, rfl⟩
      | collides own => cases own

end Sorts

/-- Every result contributes all its fields to the record or is kept whole by it,
and neither gets lost. -/
structure NothingOverwritten (results contributed whole : List Descriptors)
    (merged : Descriptors) : Prop where
  sorts : Sorts [] results contributed whole
  distinct : (KeyedList.keys merged).Nodup
  leaves_eq : leaves (record merged) = (results.map fun fields => leaves (record fields)).sum
  perm : (contributed ++ whole).Perm results
  contributes : ∀ fields ∈ contributed, ∀ key payload, fields.lookup key = some payload →
    merged.lookup key =
      some (if key = compositeKey then list (payload.items ++ whole.map record) else payload)
  kept_eq : merged.kept = contributed.flatMap Descriptors.kept ++ whole.map record
  inOrder : whole.Sublist results
  first : ∀ ahead first behind, results = ahead ++ first :: behind →
    (∀ fields ∈ ahead, fields = []) → ∃ later, contributed = ahead ++ first :: later

namespace SideBySide

variable {results contributed whole : List Descriptors} {merged : Descriptors}

/-- A field of a result that fits is looked up as it was, with the results that
collide behind those that it keeps. -/
theorem lookup_of_fits (side : SideBySide results contributed whole merged)
    {fields : Descriptors} (fits : fields ∈ contributed) {key : String} {payload : Outcome}
    (found : fields.lookup key = some payload)
    (isList : key = compositeKey → payload.IsList) :
    merged.lookup key =
      some (if key = compositeKey then list (payload.items ++ whole.map record) else payload) := by
  have together : contributed.flatten.lookup key = some payload :=
    KeyedList.lookup_of_mem side.distinct
      (List.mem_flatten.2 ⟨fields, fits, KeyedList.mem_of_lookup found⟩)
  rw [side.eq]
  cases whole with
  | nil =>
      rw [if_pos (by rfl), together]
      by_cases composite : key = compositeKey
      · rw [if_pos composite, List.map_nil, List.append_nil, ← (isList composite).eq_list]
      · rw [if_neg composite]
  | cons head rest =>
      rw [if_neg (by simp), KeyedList.lookup_put]
      by_cases composite : key = compositeKey
      · subst composite
        rw [if_pos rfl, if_pos rfl, Descriptors.kept, together]
        rfl
      · rw [if_neg composite, if_neg composite, together]

theorem nothingOverwritten (side : SideBySide results contributed whole merged)
    (each : ∀ fields ∈ results, (KeyedList.keys fields).Nodup)
    (lists : ∀ fields ∈ results, ∀ payload, fields.lookup compositeKey = some payload →
      payload.IsList) :
    NothingOverwritten results contributed whole merged where
  sorts := side.sorts
  distinct := side.nodup_keys
  leaves_eq := side.total_eq counts_leaves each lists
  perm := side.perm
  contributes fields fits key payload found := by
    refine side.lookup_of_fits fits found ?_
    rintro rfl
    exact lists fields (side.perm.subset (List.mem_append_left _ fits)) payload found
  kept_eq := by rw [side.kept_eq, Descriptors.kept_flatten side.distinct]
  inOrder := side.sorts.sublist
  first ahead first behind split empty := by
    have sorts := side.sorts
    rw [split] at sorts
    exact sorts.exists_eq_append empty

end SideBySide

/-- Results whose kept results are lists can be combined, and combining them
overwrites nothing. -/
theorem combining_overwrites_nothing {results : List Descriptors}
    (each : ∀ fields ∈ results, (KeyedList.keys fields).Nodup)
    (lists : ∀ fields ∈ results, ∀ payload, fields.lookup compositeKey = some payload →
      payload.IsList) :
    ∃ merged contributed whole, combine (results.map record) = .ok merged ∧
      NothingOverwritten results contributed whole merged := by
  obtain ⟨merged, contributed, whole, combined, side⟩ := exists_combine_eq each lists
  exact ⟨merged, contributed, whole, combined, side.nothingOverwritten each lists⟩

/-- A result with nothing in it, one that heals and keeps a result, one that
collides, one that keeps a result and collides for it, and one that fits again. -/
def healings : List Descriptors :=
  [[], [("heal", int 1), (compositeKey, list [descriptor "draw" (int 1)])], [("heal", int 2)],
    [("damage", int 3), (compositeKey, list [descriptor "draw" (int 2)])], [("summon", int 4)]]

def healed : Descriptors :=
  [("heal", int 1),
    (compositeKey, list [descriptor "draw" (int 1), descriptor "heal" (int 2),
      record [("damage", int 3), (compositeKey, list [descriptor "draw" (int 2)])]]),
    ("summon", int 4)]

/-- The result that comes last contributes although others collided before it. -/
theorem healings_are_all_found_again :
    (∀ fields ∈ healings, (KeyedList.keys fields).Nodup) ∧
    (∀ fields ∈ healings, ∀ payload, fields.lookup compositeKey = some payload →
      payload.IsList) ∧
    ∃ contributed whole, combine (healings.map record) = .ok healed ∧
      NothingOverwritten healings contributed whole healed := by
  have each : ∀ fields ∈ healings, (KeyedList.keys fields).Nodup := by decide
  have lists : ∀ fields ∈ healings, ∀ payload, fields.lookup compositeKey = some payload →
      payload.IsList := by
    intro fields member payload found
    simp only [healings, List.mem_cons, List.not_mem_nil, or_false] at member
    obtain rfl | rfl | rfl | rfl | rfl := member <;> cases found <;> trivial
  refine ⟨each, lists, ?_⟩
  obtain ⟨merged, contributed, whole, combined, preserved⟩ :=
    combining_overwrites_nothing each lists
  cases combined
  exact ⟨contributed, whole, rfl, preserved⟩

end Outcome

end CreatureCards
