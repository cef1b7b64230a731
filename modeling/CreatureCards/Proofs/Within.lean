import CreatureCards.Proofs.Conduct
import CreatureCards.Proofs.PlainEffects
import Mathlib.Data.ENat.Basic

/-!
# Outcomes within bounds

An outcome is within a bound if all of its questions keep to the conduct, now and
after any answers, and if no way of answering them asks more questions than the
bound says; an infinite bound says nothing about their number.  Effects that are handed
to the keeper of the game keep to the conduct as well, but what they ask is not
asked by the walk.
-/

namespace CreatureCards

namespace KeyedList

variable {α : Type}

/-- The list without the entry that its key is looked up as. -/
def without (key : String) (entries : List (String × α)) : List (String × α) :=
  entries.eraseP fun entry => entry.1 == key

theorem without_sublist (key : String) (entries : List (String × α)) :
    (without key entries).Sublist entries :=
  List.eraseP_sublist

theorem without_cons (key name : String) (entry : α) (rest : List (String × α)) :
    without key ((name, entry) :: rest) =
      if name = key then rest else (name, entry) :: without key rest := by
  by_cases same : name = key <;> simp [without, same]

/-- An entry that is put takes the place of the one its key was looked up as. -/
theorem without_put_self (key : String) (entry : α) (entries : List (String × α)) :
    without key (put key entry entries) = without key entries := by
  induction entries with
  | nil => simp [put, without]
  | cons head rest ih =>
      obtain ⟨name, earlier⟩ := head
      rw [put]
      by_cases same : name = key
      · simp [same, without_cons]
      · simp [same, without_cons, ih]

theorem without_put_of_ne {key other : String} (differs : other ≠ key) (entry : α)
    (entries : List (String × α)) :
    without key (put other entry entries) = put other entry (without key entries) := by
  induction entries with
  | nil => simp [put, without, differs]
  | cons head rest ih =>
      obtain ⟨name, earlier⟩ := head
      rw [put]
      by_cases same : name = other
      · simp [same, without_cons, differs, put]
      · by_cases erased : name = key
        · simp [erased, without_cons, Ne.symm differs]
        · simp [same, without_cons, erased, put, ih]

theorem without_putAll (key : String) (entries added : List (String × α)) :
    without key (putAll entries added) =
      putAll (without key entries) (added.filter fun entry => entry.1 != key) := by
  induction added generalizing entries with
  | nil => rfl
  | cons head rest ih =>
      obtain ⟨name, entry⟩ := head
      change without key (putAll (put name entry entries) rest) = _
      rw [ih]
      by_cases same : name = key
      · simp [same, without_put_self]
      · rw [without_put_of_ne same]
        simp [same, putAll]

theorem filter_sublist_without (key : String) (entries : List (String × α)) :
    (entries.filter fun entry => entry.1 != key).Sublist (without key entries) := by
  induction entries with
  | nil => exact .slnil
  | cons head rest ih =>
      obtain ⟨name, entry⟩ := head
      rw [without_cons]
      by_cases same : name = key
      · simp [same]
      · simpa [same] using ih.cons_cons (name, entry)

end KeyedList

variable {conduct : Conduct}

/-- Whatever comes of the outcome keeps to the conduct, and no more questions are
asked on the way than the bound says. -/
inductive Outcome.Within (conduct : Conduct) : ℕ∞ → Outcome → Prop
  | value {bound : ℕ∞} (data : Value) : Within conduct bound (value data)
  | card {bound : ℕ∞} (id : CardId) : Within conduct bound (card id)
  | player {bound : ℕ∞} (index : Nat) : Within conduct bound (player index)
  | ref {bound : ℕ∞} (target : TargetRef) : Within conduct bound (ref target)
  | nil {bound : ℕ∞} : Within conduct bound (list [])
  | cons {here later bound : ℕ∞} {item : Outcome} {rest : List Outcome}
      (first : Within conduct here item) (others : Within conduct later (list rest))
      (total : here + later ≤ bound) : Within conduct bound (list (item :: rest))
  | empty {bound : ℕ∞} : Within conduct bound (record [])
  | field {here later bound : ℕ∞} {key : String} {payload : Outcome} {rest : Descriptors}
      (first : Within conduct here payload) (others : Within conduct later (record rest))
      (total : here + later ≤ bound) : Within conduct bound (record ((key, payload) :: rest))
  | question {after bound : ℕ∞} {inquiry : Inquiry} {answer : Choice → Engine Outcome}
      (asked : conduct.asks inquiry)
        (keeps : ∀ choice, conduct.Keeps (fun _ => True) (answer choice))
      (follow : ∀ choice board, conduct.admits board → ∀ session outcome later,
        answer choice board session = (.ok outcome, later) → Within conduct after outcome)
      (total : after + 1 ≤ bound) : Within conduct bound (question inquiry answer)
  | callback {bound : ℕ∞} {effect : Effect}
      (keeps : ∀ context, conduct.acts context → conduct.Keeps (fun _ => True) (effect context))
      (follow : ∀ context, conduct.acts context → ∀ board, conduct.admits board →
        ∀ session outcome later, effect context board session = (.ok outcome, later) →
          Within conduct ⊤ outcome) :
      Within conduct bound (callback effect)

namespace Outcome

/-- A question is within a bound if what its answers come to is within one less. -/
theorem within_question {after bound : ℕ∞} {inquiry : Inquiry} {answer : Choice → Engine Outcome}
    (asked : conduct.asks inquiry)
    (each : ∀ choice, conduct.Keeps (Within conduct after) (answer choice))
    (total : after + 1 ≤ bound) : Within conduct bound (question inquiry answer) :=
  .question asked (fun choice => (each choice).weaken fun _ _ => trivial)
    (fun choice _ admitted _ _ _ ran => (each choice).good_of_ok admitted ran) total

theorem within_callback {bound : ℕ∞} {effect : Effect}
    (each : ∀ context, conduct.acts context → conduct.Keeps (Within conduct ⊤) (effect context)) :
    Within conduct bound (callback effect) :=
  .callback (fun context acting => (each context acting).weaken fun _ _ => trivial)
    fun context acting _ admitted _ _ _ ran => (each context acting).good_of_ok admitted ran

namespace Within

variable {bound wider here later : ℕ∞}

theorem mono {outcome : Outcome} (within : Within conduct bound outcome) (le : bound ≤ wider) :
    Within conduct wider outcome := by
  cases within with
  | value data => exact .value data
  | card id => exact .card id
  | player index => exact .player index
  | ref target => exact .ref target
  | nil => exact .nil
  | cons first others total => exact .cons first others (total.trans le)
  | empty => exact .empty
  | field first others total => exact .field first others (total.trans le)
  | question asked keeps follow total => exact .question asked keeps follow (total.trans le)
  | callback keeps follow => exact .callback keeps follow

theorem exists_answer {inquiry : Inquiry} {answer : Choice → Engine Outcome}
    (within : Within conduct bound (.question inquiry answer)) :
    ∃ after, after + 1 ≤ bound ∧
      ∀ choice, conduct.Keeps (Within conduct after) (answer choice) := by
  cases within with
  | question asked keeps follow total =>
    exact ⟨_, total, fun choice => (keeps choice).of_ok (follow choice)⟩

theorem asks {inquiry : Inquiry} {answer : Choice → Engine Outcome}
    (within : Within conduct bound (.question inquiry answer)) : conduct.asks inquiry := by
  cases within with
  | question asked => exact asked

theorem text (content : String) : Within conduct bound (Outcome.text content) :=
  .value _

theorem nothing : Within conduct bound Outcome.nothing :=
  .empty

theorem single {item : Outcome} (within : Within conduct bound item) :
    Within conduct bound (.list [item]) :=
  have none_ : Within conduct 0 (.list []) := .nil
  .cons within none_ (add_zero bound).le

theorem descriptor {key : String} {payload : Outcome} (within : Within conduct bound payload) :
    Within conduct bound (Outcome.descriptor key payload) :=
  have none_ : Within conduct 0 (.record []) := .empty
  .field within none_ (add_zero bound).le

/-- A payload that is data asks nothing. -/
theorem data {key : String} {value : Value} {fields : Descriptors}
    (within : Within conduct bound (.record fields)) :
    Within conduct bound (.record ((key, .value value) :: fields)) := by
  have none_ : Within conduct 0 (.value value) := .value value
  exact .field none_ within (zero_add bound).le

theorem orNothing {outcome : Outcome} (within : Within conduct bound outcome) :
    Within conduct bound outcome.orNothing := by
  unfold Outcome.orNothing
  split
  · exact within
  · exact nothing

theorem of_forall_mem {items : List Outcome} (each : ∀ item ∈ items, Within conduct 0 item) :
    Within conduct 0 (.list items) := by
  induction items with
  | nil => exact .nil
  | cons item rest ih =>
      obtain ⟨here, later⟩ := List.forall_mem_cons.1 each
      exact .cons here (ih later) (zero_add 0).le

theorem of_forall_field {fields : Descriptors} (each : ∀ field ∈ fields, Within conduct 0 field.2) :
    Within conduct 0 (.record fields) := by
  induction fields with
  | nil => exact .empty
  | cons field rest ih =>
      obtain ⟨here, later⟩ := List.forall_mem_cons.1 each
      exact .field here (ih later) (zero_add 0).le

/-- What is silent asks nothing. -/
theorem of_silent {outcome : Outcome} (silent : outcome.silent = true) : Within conduct 0 outcome :=
  induction_of_silent .value .card .player .ref (fun _ each => of_forall_mem each)
    (fun _ each => of_forall_field each) silent

section Lists

theorem exists_cons {item : Outcome} {rest : List Outcome}
    (within : Within conduct bound (.list (item :: rest))) :
    ∃ here later, here + later ≤ bound ∧ Within conduct here item ∧
      Within conduct later (.list rest) := by
  cases within with
  | cons first others total => exact ⟨_, _, total, first, others⟩

theorem of_mem {items : List Outcome} (within : Within conduct bound (.list items)) {item : Outcome}
    (member : item ∈ items) : Within conduct bound item := by
  induction items generalizing bound with
  | nil => cases member
  | cons head rest ih =>
      obtain ⟨here, later, total, first, others⟩ := within.exists_cons
      cases member with
      | head => exact first.mono (le_self_add.trans total)
      | tail _ member => exact (ih others member).mono (le_add_self.trans total)

theorem append {first second : List Outcome} (one : Within conduct here (.list first))
    (other : Within conduct later (.list second)) :
    Within conduct (here + later) (.list (first ++ second)) := by
  induction first generalizing here with
  | nil => exact other.mono le_add_self
  | cons item rest ih =>
      obtain ⟨ahead, behind, total, isItem, others⟩ := one.exists_cons
      refine .cons isItem (ih others) ?_
      rw [← add_assoc]
      exact add_le_add_left total later

end Lists

section Records

theorem exists_field {key : String} {payload : Outcome} {rest : Descriptors}
    (within : Within conduct bound (.record ((key, payload) :: rest))) :
    ∃ here later, here + later ≤ bound ∧ Within conduct here payload ∧
      Within conduct later (.record rest) := by
  cases within with
  | field first others total => exact ⟨_, _, total, first, others⟩

theorem sublist {fields part : Descriptors} (sub : part.Sublist fields)
    (within : Within conduct bound (.record fields)) : Within conduct bound (.record part) := by
  induction sub generalizing bound with
  | slnil => exact within
  | cons field _ ih =>
      obtain ⟨here, later, total, -, others⟩ := within.exists_field
      exact (ih others).mono (le_add_self.trans total)
  | cons_cons field _ ih =>
      obtain ⟨here, later, total, first, others⟩ := within.exists_field
      exact .field first (ih others) total

theorem of_field_mem {fields : Descriptors} (within : Within conduct bound (.record fields))
    {field : String × Outcome} (member : field ∈ fields) : Within conduct bound field.2 := by
  obtain ⟨here, later, total, first, -⟩ :=
    (within.sublist (List.singleton_sublist.2 member)).exists_field
  exact first.mono (le_self_add.trans total)

/-- The descriptors that are kept and those that are left share the bound. -/
theorem exists_filter {fields : Descriptors} (within : Within conduct bound (.record fields))
    (keep : String × Outcome → Bool) :
    ∃ here later, here + later ≤ bound ∧ Within conduct here (.record (fields.filter keep)) ∧
      Within conduct later (.record (fields.filter fun field => !keep field)) := by
  induction fields generalizing bound with
  | nil => exact ⟨0, bound, by simp, .empty, .empty⟩
  | cons field rest ih =>
      obtain ⟨ahead, behind, total, first, others⟩ := within.exists_field
      obtain ⟨here, later, split, isKept, isLeft⟩ := ih others
      have whole : ahead + (here + later) ≤ bound := (add_le_add_right split ahead).trans total
      cases kept : keep field with
      | true =>
          refine ⟨ahead + here, later, by rwa [add_assoc], ?_, ?_⟩
          · rw [List.filter_cons_of_pos kept]
            exact .field first isKept le_rfl
          · rwa [List.filter_cons_of_neg (by simp [kept])]
      | false =>
          refine ⟨here, ahead + later, by rwa [add_left_comm], ?_, ?_⟩
          · rwa [List.filter_cons_of_neg (by simp [kept])]
          · rw [List.filter_cons_of_pos (by simp [kept])]
            exact .field first isLeft le_rfl

/-- What a key is looked up as and the rest share the bound. -/
theorem exists_lookup {fields : Descriptors} (within : Within conduct bound (.record fields))
    {key : String} {payload : Outcome} (found : fields.lookup key = some payload) :
    ∃ here later, here + later ≤ bound ∧ Within conduct here payload ∧
      Within conduct later (.record (KeyedList.without key fields)) := by
  induction fields generalizing bound with
  | nil => cases found
  | cons field rest ih =>
      obtain ⟨name, first⟩ := field
      obtain ⟨ahead, behind, total, isFirst, others⟩ := within.exists_field
      rw [KeyedList.without_cons]
      by_cases same : name = key
      · rw [List.lookup_cons, beq_iff_eq.2 same.symm] at found
        cases found
        rw [if_pos same]
        exact ⟨ahead, behind, total, isFirst, others⟩
      · have differs : (key == name) = false := by simpa using Ne.symm same
        rw [List.lookup_cons, differs] at found
        obtain ⟨here, later, split, isFound, isRest⟩ := ih others found
        rw [if_neg same]
        refine ⟨here, ahead + later, ?_, isFound, .field isFirst isRest le_rfl⟩
        rw [add_left_comm]
        exact (add_le_add_right split ahead).trans total

theorem put_of_without {fields : Descriptors} {key : String}
    (within : Within conduct here (.record (KeyedList.without key fields))) {payload : Outcome}
    (added : Within conduct later payload) :
    Within conduct (here + later) (.record (KeyedList.put key payload fields)) := by
  induction fields generalizing here with
  | nil => exact .field added .empty (add_comm here later).ge
  | cons field rest ih =>
      obtain ⟨name, earlier⟩ := field
      rw [KeyedList.without_cons] at within
      rw [KeyedList.put]
      by_cases same : name = key
      · rw [if_pos same] at within ⊢
        exact .field added within (add_comm here later).ge
      · rw [if_neg same] at within ⊢
        obtain ⟨ahead, behind, total, isFirst, others⟩ := within.exists_field
        refine .field isFirst (ih others) ?_
        rw [← add_assoc]
        exact add_le_add_left total later

theorem put {fields : Descriptors} (within : Within conduct here (.record fields)) {key : String}
    {payload : Outcome} (added : Within conduct later payload) :
    Within conduct (here + later) (.record (KeyedList.put key payload fields)) :=
  (within.sublist (KeyedList.without_sublist key fields)).put_of_without added

theorem putAll {fields added : Descriptors} (within : Within conduct here (.record fields))
    (others : Within conduct later (.record added)) :
    Within conduct (here + later) (.record (KeyedList.putAll fields added)) := by
  induction added generalizing fields here later with
  | nil => exact within.mono le_self_add
  | cons field rest ih =>
      obtain ⟨ahead, behind, total, isFirst, isRest⟩ := others.exists_field
      refine (ih (within.put isFirst) isRest).mono ?_
      rw [add_assoc]
      exact add_le_add_right total here

end Records

theorem of_texts {entries : List Outcome} (texts : ∀ entry ∈ entries, ∃ data, entry = .value data) :
    Within conduct bound (.list entries) := by
  refine (of_forall_mem fun entry member => ?_).mono zero_le
  obtain ⟨data, rfl⟩ := texts entry member
  exact .value data

theorem elements {outcome : Outcome} (within : Within conduct bound outcome) {items : List Outcome}
    (stepped : outcome.elements = .ok items) : Within conduct bound (.list items) := by
  unfold Outcome.elements at stepped
  split at stepped
  · cases stepped
    exact within
  · cases stepped
    refine of_texts fun entry member => ?_
    obtain ⟨field, -, rfl⟩ := List.mem_map.1 member
    exact ⟨_, rfl⟩
  · rename_i data
    cases found : data.elements? with
    | none => simp [found] at stepped
    | some entries =>
        simp only [found, Option.map_some, Option.elim_some, Except.ok.injEq] at stepped
        subst stepped
        refine of_texts fun entry member => ?_
        obtain ⟨part, -, rfl⟩ := List.mem_map.1 member
        exact ⟨_, rfl⟩
  · cases stepped

theorem fields {outcome : Outcome} (within : Within conduct bound outcome) {fields : Descriptors}
    (taken : outcome.fields = .ok fields) : Within conduct bound (.record fields) := by
  cases outcome <;> cases taken
  exact within

theorem list_sublist {items part : List Outcome} (sub : part.Sublist items)
    (within : Within conduct bound (.list items)) : Within conduct bound (.list part) := by
  induction sub generalizing bound with
  | slnil => exact within
  | cons item _ ih =>
      obtain ⟨here, later, total, -, others⟩ := within.exists_cons
      exact (ih others).mono (le_add_self.trans total)
  | cons_cons item _ ih =>
      obtain ⟨here, later, total, first, others⟩ := within.exists_cons
      exact .cons first (ih others) total

end Within

end Outcome

end CreatureCards
