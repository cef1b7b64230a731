/-!
# Keyed lists

Objects and records are lists of entries with a key each.  Putting an entry
under a key replaces the entry that is there and keeps its place, so every key
is looked up as it was put last, and the order of the keys is the order in which
they first came.
-/

namespace CreatureCards

namespace KeyedList

/-- The list with an entry under a key, in place of an earlier one if the key is
there and behind the others if it is not. -/
def put {α : Type} (key : String) (entry : α) : List (String × α) → List (String × α)
  | [] => [(key, entry)]
  | (name, earlier) :: rest =>
    if name = key then (key, entry) :: rest else (name, earlier) :: put key entry rest

def putAll {α : Type} (entries added : List (String × α)) : List (String × α) :=
  added.foldl (fun entries entry => put entry.1 entry.2 entries) entries

def has {α : Type} (entries : List (String × α)) (key : String) : Bool :=
  (entries.lookup key).isSome

/-- A key is looked up as it was put last. -/
theorem lookup_put {α : Type} (key : String) (entry : α) (entries : List (String × α))
    (name : String) :
    (put key entry entries).lookup name =
      if name = key then some entry else entries.lookup name := by
  induction entries with
  | nil =>
    rw [put, List.lookup_cons]
    split <;> simp_all
  | cons head rest ih =>
    obtain ⟨first, earlier⟩ := head
    rw [put]
    by_cases same : first = key
    · subst same
      rw [if_pos rfl, List.lookup_cons, List.lookup_cons]
      cases here : name == first with
      | false => simp [beq_eq_false_iff_ne.1 here]
      | true => simp [beq_iff_eq.1 here]
    · rw [if_neg same, List.lookup_cons, List.lookup_cons, ih]
      cases here : name == first with
      | false => rfl
      | true => simp [beq_iff_eq.1 here, same]

theorem put_of_lookup {α : Type} {key : String} {entry : α} {entries : List (String × α)}
    (found : entries.lookup key = some entry) : put key entry entries = entries := by
  induction entries with
  | nil => simp at found
  | cons head rest ih =>
    obtain ⟨first, earlier⟩ := head
    rw [put]
    by_cases same : first = key
    · subst same
      rw [List.lookup_cons_self, Option.some.injEq] at found
      rw [if_pos rfl, found]
    · have differs : (key == first) = false := by simpa using Ne.symm same
      rw [List.lookup_cons, differs] at found
      rw [if_neg same, ih found]

def keys {α : Type} (entries : List (String × α)) : List String :=
  entries.map Prod.fst

theorem has_iff_mem_keys {α : Type} {entries : List (String × α)} {key : String} :
    has entries key = true ↔ key ∈ keys entries := by
  simp [has, keys]

theorem mem_keys_append {α : Type} {entries others : List (String × α)} {key : String} :
    key ∈ keys (entries ++ others) ↔ key ∈ keys entries ∨ key ∈ keys others := by
  rw [keys, List.map_append, List.mem_append, keys, keys]

theorem lookup_eq_none_of_not_mem {α : Type} {entries : List (String × α)} {key : String}
    (absent : key ∉ keys entries) : entries.lookup key = none := by
  cases found : entries.lookup key with
  | none => rfl
  | some entry => exact absurd (has_iff_mem_keys.1 (by simp [has, found])) absent

theorem mem_of_lookup {α : Type} {entries : List (String × α)} {key : String} {entry : α}
    (found : entries.lookup key = some entry) : (key, entry) ∈ entries := by
  obtain ⟨ahead, behind, rfl, -⟩ := List.lookup_eq_some_iff.1 found
  simp

/-- With every key used once, an entry is the one its key is looked up as. -/
theorem lookup_of_mem {α : Type} {entries : List (String × α)} {key : String} {entry : α}
    (distinct : (keys entries).Nodup) (member : (key, entry) ∈ entries) :
    entries.lookup key = some entry := by
  induction entries with
  | nil => simp at member
  | cons head rest ih =>
    obtain ⟨first, earlier⟩ := head
    obtain ⟨fresh, others⟩ := List.nodup_cons.1 distinct
    rw [List.lookup_cons]
    cases List.mem_cons.1 member with
    | inl same =>
      cases same
      simp
    | inr later =>
      have differs : (key == first) = false := by
        rw [beq_eq_false_iff_ne]
        rintro rfl
        exact fresh (List.mem_map.2 ⟨_, later, rfl⟩)
      rw [differs]
      exact ih others later

theorem lookup_filter {α : Type} (keep : String → Bool) (entries : List (String × α))
    (key : String) :
    (entries.filter fun entry => keep entry.1).lookup key =
      if keep key then entries.lookup key else none := by
  induction entries with
  | nil => simp
  | cons head rest ih =>
    obtain ⟨first, earlier⟩ := head
    by_cases same : key = first
    · subst same
      by_cases kept : keep key <;> simp [kept, ih]
    · have differs : (key == first) = false := by simp [same]
      by_cases kept : keep first <;> simp [kept, List.lookup_cons, differs, ih]

theorem nodup_keys_filter {α : Type} (keep : String × α → Bool) {entries : List (String × α)}
    (distinct : (keys entries).Nodup) : (keys (entries.filter keep)).Nodup :=
  distinct.sublist (List.filter_sublist.map Prod.fst)

theorem put_of_not_mem {α : Type} {key : String} {entries : List (String × α)}
    (absent : key ∉ keys entries) (entry : α) :
    put key entry entries = entries ++ [(key, entry)] := by
  induction entries with
  | nil => rfl
  | cons head rest ih =>
    have differs : head.1 ≠ key := fun same => absent (by simp [keys, same])
    have later : key ∉ keys rest := fun member => absent (List.mem_cons_of_mem _ member)
    rw [put, if_neg differs, ih later, List.cons_append]

/-- Entries under new keys come behind the others. -/
theorem putAll_of_disjoint {α : Type} {entries added : List (String × α)}
    (distinct : (keys added).Nodup) (disjoint : ∀ key ∈ keys added, key ∉ keys entries) :
    putAll entries added = entries ++ added := by
  induction added generalizing entries with
  | nil => simp [putAll]
  | cons head rest ih =>
    obtain ⟨fresh, others⟩ := List.nodup_cons.1 distinct
    have step : putAll entries (head :: rest) = putAll (put head.1 head.2 entries) rest := rfl
    rw [step, put_of_not_mem (disjoint _ (by simp [keys])), ih others]
    · simp
    · intro key member
      have known := disjoint key (List.mem_cons_of_mem _ member)
      simp only [keys, List.map_append, List.mem_append, not_or, List.map_cons, List.map_nil,
        List.mem_singleton]
      exact ⟨known, fun same => fresh (same ▸ member)⟩

theorem mem_put {α : Type} {key : String} {entry : α} {entries : List (String × α)}
    {other : String × α} (member : other ∈ put key entry entries) :
    other = (key, entry) ∨ other ∈ entries := by
  induction entries with
  | nil => exact .inl (List.mem_singleton.1 member)
  | cons head rest ih =>
    rw [put] at member
    split at member
    · exact (List.mem_cons.1 member).imp_right (List.mem_cons_of_mem _)
    · obtain rfl | later := List.mem_cons.1 member
      · exact .inr (List.mem_cons_self ..)
      · exact (ih later).imp_right (List.mem_cons_of_mem _)

/-- An entry under a key that the first list lacks is put into the second. -/
theorem put_append_of_not_mem {α : Type} {key : String} {entries : List (String × α)}
    (absent : key ∉ keys entries) (entry : α) (others : List (String × α)) :
    put key entry (entries ++ others) = entries ++ put key entry others := by
  induction entries with
  | nil => rfl
  | cons head rest ih =>
    have differs : head.1 ≠ key := fun same => absent (by simp [keys, same])
    have later : key ∉ keys rest := fun member => absent (List.mem_cons_of_mem _ member)
    rw [List.cons_append, put, if_neg differs, ih later, List.cons_append]

theorem nodup_keys_put {α : Type} (key : String) (entry : α) {entries : List (String × α)}
    (distinct : (keys entries).Nodup) : (keys (put key entry entries)).Nodup := by
  by_cases known : key ∈ keys entries
  · suffices same : keys (put key entry entries) = keys entries by rwa [same]
    clear distinct
    induction entries with
    | nil => simp [keys] at known
    | cons head rest ih =>
      by_cases here : head.1 = key
      · simp [put, here, keys]
      · have later : key ∈ keys rest := (List.mem_cons.1 known).resolve_left (Ne.symm here)
        rw [put, if_neg here]
        simpa [keys] using ih later
  · rw [put_of_not_mem known, keys, List.map_append, List.nodup_append]
    refine ⟨distinct, by simp, ?_⟩
    rintro first member _ (_ | ⟨_, ⟨⟩⟩) rfl
    exact known member

/-- The entry that was put, and those under other keys. -/
theorem put_perm {α : Type} (key : String) (entry : α) {entries : List (String × α)}
    (distinct : (keys entries).Nodup) :
    (put key entry entries).Perm
      ((key, entry) :: entries.filter fun other => other.1 != key) := by
  induction entries with
  | nil => simp [put]
  | cons head rest ih =>
    obtain ⟨fresh, others⟩ := List.nodup_cons.1 distinct
    by_cases here : head.1 = key
    · have unchanged : rest.filter (fun other => other.1 != key) = rest := by
        rw [List.filter_eq_self]
        intro other member
        have differs : other.1 ≠ key := fun same =>
          fresh (here ▸ same ▸ List.mem_map.2 ⟨other, member, rfl⟩)
        simpa using differs
      rw [put, if_pos here, List.filter_cons_of_neg (by simp [here]), unchanged]
    · rw [put, if_neg here, List.filter_cons_of_pos (by simpa using here)]
      exact ((ih others).cons _).trans (List.Perm.swap _ _ _)

/-- The entry under a key, and those under other keys. -/
theorem perm_lookup {α : Type} (key : String) {entries : List (String × α)}
    (distinct : (keys entries).Nodup) :
    entries.Perm (((entries.lookup key).toList.map fun entry => (key, entry)) ++
      entries.filter fun other => other.1 != key) := by
  cases found : entries.lookup key with
  | none =>
    have unchanged : entries.filter (fun other => other.1 != key) = entries := by
      rw [List.filter_eq_self]
      intro other member
      have differs : other.1 ≠ key := by
        rintro rfl
        have known := lookup_of_mem distinct member
        simp [found] at known
      simpa using differs
    rw [unchanged]
    exact .refl _
  | some entry =>
    have same : put key entry entries = entries := put_of_lookup found
    simpa [same] using put_perm key entry distinct

end KeyedList

end CreatureCards
