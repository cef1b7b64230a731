import CreatureCards.OutcomeMerge

/-!
# The shape of results

Outcomes may be any data, but a result that is merged or walked through is a
record that uses every key once, with questions under the question keys and
lists of results under the keys of waiting and of kept results; and so are the
results in those lists and the results that its answers come to.  Payloads under
other keys are free.
-/

namespace CreatureCards

namespace Outcome

def IsRecord : Outcome → Prop
  | record _ => True
  | _ => False

def IsQuestion : Outcome → Prop
  | question _ _ => True
  | _ => False

def IsList : Outcome → Prop
  | list _ => True
  | _ => False

def items : Outcome → List Outcome
  | list items => items
  | _ => []

@[simp]
theorem items_list (entries : List Outcome) : (list entries).items = entries :=
  rfl

theorem IsRecord.exists_eq {outcome : Outcome} (isRecord : outcome.IsRecord) :
    ∃ fields, outcome = record fields := by
  cases outcome with
  | record fields => exact ⟨fields, rfl⟩
  | _ => exact isRecord.elim

theorem IsQuestion.exists_eq {outcome : Outcome} (isQuestion : outcome.IsQuestion) :
    ∃ inquiry answer, outcome = question inquiry answer := by
  cases outcome with
  | question inquiry answer => exact ⟨inquiry, answer, rfl⟩
  | _ => exact isQuestion.elim

theorem IsList.eq_list {outcome : Outcome} (isList : outcome.IsList) :
    outcome = list outcome.items := by
  cases outcome with
  | list items => rfl
  | _ => exact isList.elim

/-- The payload is of the kind that its key calls for. -/
structure SuitsKey (key : String) (payload : Outcome) : Prop where
  question : key ∈ questionKeys → payload.IsQuestion
  pending : key = pendingKey → payload.IsList
  composite : key = compositeKey → payload.IsList
  kept : key = compositeKey → ∀ item ∈ payload.items, item.IsRecord

/-- What a walk goes into behind a key. -/
def parts (key : String) (payload : Outcome) : List Outcome :=
  if key ∈ questionKeys then [payload]
  else if key = pendingKey ∨ key = compositeKey then payload.items
  else []

theorem SuitsKey.of_question {key : String} {payload : Outcome} (isKey : key ∈ questionKeys)
    (isQuestion : payload.IsQuestion) : SuitsKey key payload where
  question _ := isQuestion
  pending same := absurd isKey (same ▸ by decide)
  composite same := absurd isKey (same ▸ by decide)
  kept same := absurd isKey (same ▸ by decide)

theorem SuitsKey.of_pending (items : List Outcome) : SuitsKey pendingKey (list items) where
  question isKey := absurd isKey (by decide)
  pending _ := trivial
  composite same := absurd same (by decide)
  kept same := absurd same (by decide)

theorem SuitsKey.of_kept {items : List Outcome} (records : ∀ item ∈ items, item.IsRecord) :
    SuitsKey compositeKey (list items) where
  question isKey := absurd isKey (by decide)
  pending same := absurd same (by decide)
  composite _ := trivial
  kept _ := records

theorem parts_of_question {key : String} (isKey : key ∈ questionKeys) (payload : Outcome) :
    parts key payload = [payload] :=
  if_pos isKey

@[simp]
theorem parts_pendingKey (payload : Outcome) : parts pendingKey payload = payload.items := by
  simp [parts, pendingKey, questionKeys]

@[simp]
theorem parts_compositeKey (payload : Outcome) : parts compositeKey payload = payload.items := by
  simp [parts, compositeKey, questionKeys]

theorem SuitsKey.of_free {key : String} (payload : Outcome)
    (free : key ∉ compositeKey :: chainKeys) : SuitsKey key payload ∧ parts key payload = [] := by
  have others : key ≠ compositeKey ∧ key ∉ questionKeys ∧ key ≠ pendingKey := by
    simpa [chainKeys] using free
  obtain ⟨notComposite, notQuestion, notPending⟩ := others
  refine ⟨⟨?_, ?_, ?_, ?_⟩, by simp [parts, notQuestion, notPending, notComposite]⟩
  · exact fun isKey => absurd isKey notQuestion
  · exact fun same => absurd same notPending
  · exact fun same => absurd same notComposite
  · exact fun same => absurd same notComposite

/-- Some choice in some moment makes the answer come to the result. -/
def ComesTo (answer : Choice → Engine Outcome)
    (result : Outcome) : Prop :=
  ∃ choice board session outcome after,
    answer choice board session = (.ok outcome, after) ∧ result = outcome.orNothing

/-- The outcome is a result, or a question that leads to results. -/
inductive Shaped : Outcome → Prop
  | result {fields : Descriptors} (distinct : (KeyedList.keys fields).Nodup)
      (suits : ∀ field ∈ fields, SuitsKey field.1 field.2)
      (inner : ∀ field ∈ fields, ∀ part ∈ parts field.1 field.2, Shaped part) :
      Shaped (record fields)
  | prompt {inquiry : Inquiry}
      {answer : Choice → Engine Outcome}
      (isRecord : ∀ result, ComesTo answer result → result.IsRecord)
      (follow : ∀ result, ComesTo answer result → Shaped result) :
      Shaped (question inquiry answer)

/-- A result: a shaped record. -/
structure IsResult (outcome : Outcome) : Prop where
  isRecord : outcome.IsRecord
  shaped : Shaped outcome

end Outcome

namespace Descriptors

open Outcome

/-- The results that wait for the questions of a record. -/
def pending (fields : Descriptors) : List Outcome :=
  (fields.lookup pendingKey).elim [] items

/-- The results that a record keeps because they collided. -/
def kept (fields : Descriptors) : List Outcome :=
  (fields.lookup compositeKey).elim [] items

/-- Results wait only beside a question. -/
def Paired (fields : Descriptors) : Prop :=
  KeyedList.has fields pendingKey = true → fields.asks = true

theorem lookup_prompting (fields : Descriptors) {key : String} (chain : key ∈ chainKeys) :
    (prompting fields).lookup key = fields.lookup key := by
  rw [prompting, KeyedList.lookup_filter chainKeys.contains, if_pos (by simpa using chain)]

/-- The record uses every key once, and has under each what the key calls for. -/
structure Formed (fields : Descriptors) : Prop where
  distinct : (KeyedList.keys fields).Nodup
  suits : ∀ field ∈ fields, SuitsKey field.1 field.2

namespace Formed

variable {fields : Descriptors}

theorem suits_of_lookup (formed : fields.Formed) {key : String} {payload : Outcome}
    (found : fields.lookup key = some payload) : SuitsKey key payload :=
  formed.suits _ (KeyedList.mem_of_lookup found)

theorem pending_eq (formed : fields.Formed) {payload : Outcome}
    (found : fields.lookup pendingKey = some payload) : payload = list fields.pending := by
  rw [Descriptors.pending, found]
  exact ((formed.suits_of_lookup found).pending rfl).eq_list

theorem filter (formed : fields.Formed) (keep : String × Outcome → Bool) :
    Formed (fields.filter keep) :=
  ⟨KeyedList.nodup_keys_filter keep formed.distinct,
    fun field member => formed.suits field (List.mem_filter.1 member).1⟩

theorem put {key : String} {payload : Outcome} (formed : fields.Formed)
    (suits : SuitsKey key payload) : Formed (KeyedList.put key payload fields) := by
  refine ⟨KeyedList.nodup_keys_put key payload formed.distinct, fun field member => ?_⟩
  obtain rfl | known := KeyedList.mem_put member
  · exact suits
  · exact formed.suits field known

theorem append {others : Descriptors} (formed : fields.Formed) (formedOthers : others.Formed)
    (disjoint : ∀ key ∈ KeyedList.keys others, key ∉ KeyedList.keys fields) :
    Formed (fields ++ others) := by
  refine ⟨?_, List.forall_mem_append.2 ⟨formed.suits, formedOthers.suits⟩⟩
  rw [KeyedList.keys, List.map_append, List.nodup_append]
  refine ⟨formed.distinct, formedOthers.distinct, ?_⟩
  rintro key member _ other rfl
  exact disjoint key other member

end Formed

end Descriptors

namespace Outcome

variable {fields : Descriptors}

theorem IsResult.nothing : IsResult nothing :=
  ⟨trivial, .result .nil (fun _ member => nomatch member) fun _ member => nomatch member⟩

theorem IsResult.orNothing {outcome : Outcome} (result : IsResult outcome) :
    IsResult outcome.orNothing := by
  rw [Outcome.orNothing]
  split
  · exact result
  · exact .nothing

theorem Shaped.isResult_of_answer {inquiry : Inquiry}
    {answer : Choice → Engine Outcome}
    (shaped : Shaped (question inquiry answer)) {choice : Choice} {board : Board}
    {session after : Session} {outcome : Outcome}
    (answered : answer choice board session = (.ok outcome, after)) :
    IsResult outcome.orNothing := by
  have comes : ComesTo answer outcome.orNothing :=
    ⟨choice, board, session, outcome, after, answered, rfl⟩
  cases shaped with
  | prompt isRecord follow => exact ⟨isRecord _ comes, follow _ comes⟩

theorem Shaped.formed (shaped : Shaped (record fields)) : fields.Formed := by
  cases shaped with
  | result distinct suits _ => exact ⟨distinct, suits⟩

theorem Shaped.distinct (shaped : Shaped (record fields)) : (KeyedList.keys fields).Nodup :=
  shaped.formed.distinct

theorem Shaped.suits (shaped : Shaped (record fields)) {key : String} {payload : Outcome}
    (found : fields.lookup key = some payload) : SuitsKey key payload :=
  shaped.formed.suits_of_lookup found

theorem Shaped.part (shaped : Shaped (record fields)) {key : String} {payload part : Outcome}
    (found : fields.lookup key = some payload) (member : part ∈ parts key payload) :
    Shaped part := by
  cases shaped with
  | result _ _ inner => exact inner _ (KeyedList.mem_of_lookup found) _ member

theorem Shaped.question_of_lookup (shaped : Shaped (record fields)) {key : String}
    (isKey : key ∈ questionKeys) {payload : Outcome} (found : fields.lookup key = some payload) :
    ∃ inquiry answer, payload = question inquiry answer ∧ Shaped (question inquiry answer) := by
  obtain ⟨inquiry, answer, rfl⟩ := ((shaped.suits found).question isKey).exists_eq
  exact ⟨inquiry, answer, rfl, shaped.part found (by simp [parts, isKey])⟩

theorem Shaped.pending_eq (shaped : Shaped (record fields)) {payload : Outcome}
    (found : fields.lookup pendingKey = some payload) : payload = list fields.pending :=
  shaped.formed.pending_eq found

theorem Shaped.of_mem_pending (shaped : Shaped (record fields)) {item : Outcome}
    (member : item ∈ fields.pending) : Shaped item := by
  cases found : fields.lookup pendingKey with
  | none => simp [Descriptors.pending, found] at member
  | some payload =>
      rw [Descriptors.pending, found] at member
      exact shaped.part found (by simpa using member)

theorem Shaped.filter (shaped : Shaped (record fields)) (keep : String × Outcome → Bool) :
    Shaped (record (fields.filter keep)) := by
  have formed := shaped.formed.filter keep
  cases shaped with
  | result _ _ inner =>
      exact .result formed.distinct formed.suits fun field member =>
        inner field (List.mem_filter.1 member).1

theorem Shaped.append {others : Descriptors} (shaped : Shaped (record fields))
    (shapedOthers : Shaped (record others))
    (disjoint : ∀ key ∈ KeyedList.keys others, key ∉ KeyedList.keys fields) :
    Shaped (record (fields ++ others)) := by
  have formed := shaped.formed.append shapedOthers.formed disjoint
  cases shaped with
  | result _ _ inner =>
      cases shapedOthers with
      | result _ _ innerOthers =>
          exact .result formed.distinct formed.suits
            (List.forall_mem_append.2 ⟨inner, innerOthers⟩)

/-- A result with a suitable payload put under a key is a result. -/
theorem Shaped.put {key : String} {payload : Outcome} (shaped : Shaped (record fields))
    (suits : SuitsKey key payload) (inner : ∀ part ∈ parts key payload, Shaped part) :
    Shaped (record (KeyedList.put key payload fields)) := by
  have formed := shaped.formed.put suits
  cases shaped with
  | result _ _ innerFields =>
      refine .result formed.distinct formed.suits fun field member => ?_
      obtain rfl | known := KeyedList.mem_put member
      · exact inner
      · exact innerFields field known

/-- A record whose keys look up what they call for is a result. -/
theorem Shaped.of_lookup (distinct : (KeyedList.keys fields).Nodup)
    (questions : ∀ key ∈ questionKeys, ∀ payload, fields.lookup key = some payload →
      payload.IsQuestion ∧ Shaped payload)
    (pending : ∀ payload, fields.lookup pendingKey = some payload →
      payload.IsList ∧ ∀ item ∈ payload.items, Shaped item)
    (kept : ∀ payload, fields.lookup compositeKey = some payload →
      payload.IsList ∧ ∀ item ∈ payload.items, IsResult item) :
    Shaped (record fields) := by
  refine .result distinct (fun field member => ?_) fun field member part isPart => ?_
  · have found := KeyedList.lookup_of_mem distinct member
    exact
      { question := fun isKey => (questions _ isKey _ found).1
        pending := fun isKey => (pending _ (isKey ▸ found)).1
        composite := fun isKey => (kept _ (isKey ▸ found)).1
        kept := fun isKey item isItem => ((kept _ (isKey ▸ found)).2 item isItem).isRecord }
  · have found := KeyedList.lookup_of_mem distinct member
    rw [parts] at isPart
    split at isPart
    · rename_i isKey
      rw [List.mem_singleton.1 isPart]
      exact (questions _ isKey _ found).2
    · split at isPart
      · rename_i isKey
        cases isKey with
        | inl isPending => exact (pending _ (isPending ▸ found)).2 part isPart
        | inr isComposite => exact ((kept _ (isComposite ▸ found)).2 part isPart).shaped
      · simp at isPart

theorem Shaped.of_mem_kept (shaped : Shaped (record fields)) {item : Outcome}
    (member : item ∈ fields.kept) : IsResult item := by
  cases found : fields.lookup compositeKey with
  | none => simp [Descriptors.kept, found] at member
  | some payload =>
      rw [Descriptors.kept, found] at member
      exact ⟨(shaped.suits found).kept rfl item member,
        shaped.part found (by simpa using member)⟩

theorem IsResult.cons {key : String} {payload : Outcome} (rest : IsResult (record fields))
    (fresh : key ∉ KeyedList.keys fields) (suits : SuitsKey key payload)
    (inner : ∀ part ∈ parts key payload, Shaped part) :
    IsResult (record ((key, payload) :: fields)) := by
  obtain ⟨-, shaped⟩ := rest
  cases shaped with
  | result distinct others innerOthers =>
      exact ⟨trivial, .result (List.nodup_cons.2 ⟨fresh, distinct⟩)
        (List.forall_mem_cons.2 ⟨suits, others⟩) (List.forall_mem_cons.2 ⟨inner, innerOthers⟩)⟩

theorem IsResult.cons_free {key : String} {payload : Outcome} (rest : IsResult (record fields))
    (fresh : key ∉ KeyedList.keys fields) (free : key ∉ compositeKey :: chainKeys) :
    IsResult (record ((key, payload) :: fields)) := by
  obtain ⟨suits, inner⟩ := SuitsKey.of_free payload free
  exact rest.cons fresh suits fun part member => by simp [inner] at member

theorem IsResult.cons_question {key : String} {payload : Outcome}
    (rest : IsResult (record fields)) (fresh : key ∉ KeyedList.keys fields)
    (isKey : key ∈ questionKeys) (isQuestion : payload.IsQuestion) (shaped : Shaped payload) :
    IsResult (record ((key, payload) :: fields)) := by
  refine rest.cons fresh (.of_question isKey isQuestion) fun part member => ?_
  rw [parts_of_question isKey, List.mem_singleton] at member
  exact member ▸ shaped

theorem IsResult.cons_kept {items : List Outcome} (rest : IsResult (record fields))
    (fresh : compositeKey ∉ KeyedList.keys fields) (results : ∀ item ∈ items, IsResult item) :
    IsResult (record ((compositeKey, list items) :: fields)) := by
  refine rest.cons fresh (.of_kept fun item member => (results item member).isRecord) ?_
  intro part member
  rw [parts_compositeKey] at member
  exact (results part member).shaped

theorem IsResult.cons_pending {items : List Outcome} (rest : IsResult (record fields))
    (fresh : pendingKey ∉ KeyedList.keys fields) (shaped : ∀ item ∈ items, Shaped item) :
    IsResult (record ((pendingKey, list items) :: fields)) := by
  refine rest.cons fresh (.of_pending items) fun part member => ?_
  rw [parts_pendingKey] at member
  exact shaped part member

/-- A pick every choice of which comes to the same outcome. -/
def promptFor (title : String) (follow : Outcome) : Outcome :=
  question (.pick { title, source := .listed [] }) fun _ => pure follow

theorem Shaped.promptFor {title : String} {follow : Outcome} (result : IsResult follow) :
    Shaped (promptFor title follow) := by
  have comes {other : Outcome}
      (comes : ComesTo (fun _ => pure follow) other) :
      IsResult other := by
    obtain ⟨_, _, _, _, _, ⟨⟩, rfl⟩ := comes
    exact result.orNothing
  exact .prompt (fun _ other => (comes other).isRecord) fun _ other => (comes other).shaped

theorem IsResult.cons_promptFor {key title : String} {follow : Outcome}
    (rest : IsResult (record fields)) (fresh : key ∉ KeyedList.keys fields)
    (isKey : key ∈ questionKeys) (result : IsResult follow) :
    IsResult (record ((key, Outcome.promptFor title follow) :: fields)) :=
  rest.cons_question fresh isKey trivial (.promptFor result)

theorem IsResult.promptFor {key title : String} {follow : Outcome} (isKey : key ∈ questionKeys)
    (result : IsResult follow) : IsResult (record [(key, Outcome.promptFor title follow)]) :=
  IsResult.nothing.cons_promptFor List.not_mem_nil isKey result

end Outcome

end CreatureCards
