import CreatureCards.OutcomeWalk
import CreatureCards.Proofs.Leaves

/-!
# Walks are visits

A walk takes a result apart at once, while a visit goes through it piece by
piece.  What taking apart yields is what the visit applies, and items for the
queue that are visited one after the other; so the play that is ahead of a walk
is its current question and then the visits of what is in the queue.  Taking in a
result, and settling the queue until a question comes up, keep to that play.
-/

namespace CreatureCards

namespace Outcome

/-- Prompting parts of results put shaped items into the queue, and visiting
those one after the other is the play. -/
def Queues (prompting : List Descriptors) (play : Play (FreeAddMonoid Outcome)) : Prop :=
  ∃ queue, upcomingAll prompting = .ok queue ∧ (∀ item ∈ queue, Shaped item) ∧
    Play.inTurn (queue.map visit) = play

theorem queues_nil : Queues [] .skip :=
  ⟨[], rfl, by simp, rfl⟩

theorem Queues.cons {prompt : Descriptors} {queue : List Outcome} {rest : List Descriptors}
    {play : Play (FreeAddMonoid Outcome)} (found : upcoming prompt = .ok queue)
    (shaped : ∀ item ∈ queue, Shaped item) (queues : Queues rest play) :
    Queues (prompt :: rest) ((Play.inTurn (queue.map visit)).andThen play) := by
  obtain ⟨behind, others, shapedBehind, rfl⟩ := queues
  refine ⟨queue ++ behind, ?_, ?_, by simp⟩
  · rw [upcomingAll, found, others]
    rfl
  · intro item member
    exact (List.mem_append.1 member).elim (shaped item) (shapedBehind item)

theorem Queues.append {first second : List Descriptors}
    {ahead behind : Play (FreeAddMonoid Outcome)} (one : Queues first ahead)
    (other : Queues second behind) : Queues (first ++ second) (ahead.andThen behind) := by
  induction first generalizing ahead with
  | nil =>
      obtain ⟨queue, found, -, rfl⟩ := one
      cases found
      simpa using other
  | cons prompt rest ih =>
      obtain ⟨queue, found, shaped, rfl⟩ := one
      rw [upcomingAll] at found
      obtain ⟨own, ownFound, found⟩ := bind_eq_ok.1 found
      obtain ⟨others, othersFound, found⟩ := bind_eq_ok.1 found
      cases found
      have tail : Queues rest (.inTurn (others.map visit)) :=
        ⟨others, othersFound, fun item member => shaped item (by simp [member]), rfl⟩
      have whole := Queues.cons ownFound (fun item member => shaped item (by simp [member]))
        (ih tail)
      simpa [Play.andThen_assoc] using whole

def dueItems (fields : Descriptors) : List Outcome :=
  (fields.lookup "select_target").toList ++ (fields.lookup "select_option").toList ++
    fields.pending

theorem upcoming_prompting {fields : Descriptors} (formed : fields.Formed) :
    upcoming (Descriptors.prompting fields) = .ok (dueItems fields) := by
  have target := Descriptors.lookup_prompting fields (by decide : "select_target" ∈ chainKeys)
  have option := Descriptors.lookup_prompting fields (by decide : "select_option" ∈ chainKeys)
  have pending := Descriptors.lookup_prompting fields (by decide : pendingKey ∈ chainKeys)
  have asked : questionKeys.filterMap (fun key => (Descriptors.prompting fields).lookup key) =
      (fields.lookup "select_target").toList ++ (fields.lookup "select_option").toList := by
    simp only [questionKeys, List.filterMap_cons, List.filterMap_nil, target, option]
    cases fields.lookup "select_target" <;> cases fields.lookup "select_option" <;> rfl
  rw [upcoming, asked, pending, dueItems]
  cases found : fields.lookup pendingKey with
  | none => simp [Descriptors.pending, found, pure, Except.pure]
  | some payload =>
      rw [formed.pending_eq found]
      rfl

theorem shaped_of_mem_dueItems {fields : Descriptors} (shaped : Shaped (record fields))
    {item : Outcome} (member : item ∈ dueItems fields) : Shaped item := by
  have question {key : String} (isKey : key ∈ questionKeys)
      (inQuestion : item ∈ (fields.lookup key).toList) : Shaped item := by
    have found : fields.lookup key = some item := by simpa using inQuestion
    obtain ⟨inquiry, answer, rfl, shapedItem⟩ := shaped.question_of_lookup isKey found
    exact shapedItem
  rw [dueItems, List.mem_append, List.mem_append] at member
  obtain (inTarget | inOption) | inPending := member
  · exact question (by decide) inTarget
  · exact question (by decide) inOption
  · exact shaped.of_mem_pending inPending

theorem inTurn_questionAt {fields : Descriptors} (shaped : Shaped (record fields)) {key : String}
    (isKey : key ∈ questionKeys) :
    Play.inTurn ((fields.lookup key).toList.map visit) = questionsAt fields key := by
  rw [questionsAt]
  cases found : fields.lookup key with
  | none => rfl
  | some payload =>
      obtain ⟨inquiry, answer, rfl, -⟩ := shaped.question_of_lookup isKey found
      simp [visit_question]

theorem questions_eq_inTurn_dueItems {fields : Descriptors} (shaped : Shaped (record fields)) :
    questions (record fields) =
      (Play.inTurn ((dueItems fields).map visit)).andThen
        (.inTurn (fields.kept.map questions)) := by
  rw [questions_record, dueItems]
  simp only [List.map_append, Play.inTurn_append, Play.andThen_assoc]
  rw [inTurn_questionAt shaped (by decide), inTurn_questionAt shaped (by decide)]

/-- Taking a result apart finds what can be applied, and queues what is asked. -/
def ComesApart (outcome : Outcome) : Prop :=
  ∃ stripped, strip outcome = .ok stripped ∧ stripped.immediate = bare outcome ∧
    Queues stripped.waiting (questions outcome)

theorem stripItems_of_comesApart {outcomes : List Outcome}
    (each : ∀ outcome ∈ outcomes, ComesApart outcome) :
    ∃ inner, stripItems outcomes = .ok (bareItems outcomes, inner) ∧
      Queues inner (.inTurn (outcomes.map questions)) := by
  induction outcomes with
  | nil => exact ⟨[], rfl, queues_nil⟩
  | cons outcome rest ih =>
      obtain ⟨stripped, taken, immediate, queues⟩ := each outcome (List.mem_cons_self ..)
      obtain ⟨inner, others, behind⟩ := ih fun other member =>
        each other (List.mem_cons_of_mem _ member)
      refine ⟨stripped.waiting ++ inner, ?_, queues.append behind⟩
      simp only [stripItems, taken, others, bareItems, bind, Except.bind, immediate]
      cases bare outcome <;> rfl

theorem stripFields_of_comesApart {fields : Descriptors}
    (distinct : (KeyedList.keys fields).Nodup)
    (lists : ∀ payload, (compositeKey, payload) ∈ fields → payload.IsList)
    (each : ∀ payload, (compositeKey, payload) ∈ fields → ∀ item ∈ payload.items,
      ComesApart item) :
    ∃ inner, stripFields fields =
        .ok ⟨bareFields fields, Descriptors.prompting fields, inner⟩ ∧
      Queues inner (.inTurn (fields.kept.map questions)) := by
  induction fields with
  | nil => exact ⟨[], rfl, queues_nil⟩
  | cons field rest ih =>
      obtain ⟨key, payload⟩ := field
      obtain ⟨fresh, others⟩ := List.nodup_cons.1 distinct
      obtain ⟨inner, taken, queues⟩ := ih others
        (fun other member => lists other (List.mem_cons_of_mem _ member))
        (fun other member => each other (List.mem_cons_of_mem _ member))
      -- A field goes to the prompting part, is entered for what it keeps, or is applied.
      by_cases chain : key ∈ chainKeys
      · have plain : (compositeKey == key) = false := by
          rw [beq_eq_false_iff_ne]
          rintro rfl
          exact absurd chain (by decide)
        refine ⟨inner, ?_, ?_⟩
        · simp [stripFields, taken, bareFields, chain, Descriptors.prompting, bind, Except.bind,
            pure, Except.pure]
        · simpa only [Descriptors.kept, List.lookup_cons, plain] using queues
      · by_cases composite : key = compositeKey
        · subst composite
          have isList := (lists payload (List.mem_cons_self ..)).eq_list
          obtain ⟨own, ownTaken, ownQueues⟩ := stripItems_of_comesApart
            (each payload (List.mem_cons_self ..))
          -- Keys are distinct, so no later field keeps results.
          have unkept : Descriptors.kept rest = [] := by
            rw [Descriptors.kept, KeyedList.lookup_eq_none_of_not_mem fresh]
            rfl
          have entries : stripEntries payload = .ok (bareKept payload, own) := by
            rw [isList, stripEntries, ownTaken]
            rfl
          refine ⟨own ++ inner, ?_, ?_⟩
          · simp only [stripFields, taken, entries, bareFields, bind, Except.bind, pure,
              Except.pure]
            cases bareKept payload <;>
              simp [chain, Descriptors.prompting]
          · rw [unkept] at queues
            simpa [Descriptors.kept] using ownQueues.append queues
        · have plain : (compositeKey == key) = false := by
            simpa using Ne.symm composite
          refine ⟨inner, ?_, ?_⟩
          · simp [stripFields, taken, bareFields, chain, composite, Descriptors.prompting, bind,
              Except.bind, pure, Except.pure]
          · simpa only [Descriptors.kept, List.lookup_cons, plain] using queues

theorem IsResult.comesApart {outcome : Outcome} (result : IsResult outcome) :
    ComesApart outcome := by
  obtain ⟨isRecord, shaped⟩ := result
  induction shaped with
  | prompt _ _ _ => exact isRecord.elim
  | @result fields distinct suits inner ih =>
      have shaped : Shaped (record fields) := .result distinct suits inner
      obtain ⟨inside, taken, queues⟩ := stripFields_of_comesApart distinct
        (fun payload member => (suits _ member).composite rfl)
        (fun payload member item isItem =>
          ih _ member item (by simpa using isItem)
            ((suits _ member).kept rfl item isItem))
      have whole := Queues.cons (upcoming_prompting shaped.formed)
        (fun item => shaped_of_mem_dueItems shaped) queues
      rw [← questions_eq_inTurn_dueItems shaped] at whole
      refine ⟨_, by rw [strip, taken], rfl, ?_⟩
      rw [Stripped.waiting]
      -- An empty prompting part is not queued, which makes no difference.
      split
      · rename_i isEmpty
        have absent : Descriptors.prompting fields = [] := List.isEmpty_iff.1 isEmpty
        have nothingDue : dueItems fields = [] := by
          have due := upcoming_prompting shaped.formed
          rw [absent] at due
          simpa [upcoming, questionKeys, pure, Except.pure] using due.symm
        rw [questions_eq_inTurn_dueItems shaped, nothingDue]
        simpa using queues
      · exact whole

end Outcome

theorem Outcome.Shaped.isResult {outcome : Outcome} (shaped : outcome.Shaped)
    (notQuestion : outcome.question? = none) : outcome.IsResult := by
  refine ⟨?_, shaped⟩
  cases shaped with
  | result _ _ _ => trivial
  | prompt _ _ => cases notQuestion

def Question.outcome (question : Question) : Outcome :=
  .question question.inquiry question.answer

theorem Outcome.eq_of_question? {outcome : Outcome} {question : Question}
    (found : outcome.question? = some question) : outcome = question.outcome := by
  cases outcome <;> cases found
  rfl

namespace Walk

open Outcome

/-- What a walk has collected can be applied, and what it has in store are
results and questions that lead to results. -/
structure Sound (walk : Walk) : Prop where
  applied : ∀ part ∈ walk.applied, Bare part
  queue : ∀ item ∈ walk.queue, Shaped item
  current : ∀ question, walk.current = some question → Shaped question.outcome

/-- A walk without a question has nothing in store. -/
def Settled (walk : Walk) : Prop :=
  walk.current = none → walk.queue = []

/-- The play that is still ahead of a walk: its question, and then visits of
what is in store. -/
def ahead (walk : Walk) : Play (FreeAddMonoid Outcome) :=
  (walk.current.elim .skip fun question => questions question.outcome).andThen
    (.inTurn (walk.queue.map visit))

theorem bare_of_mem_applied {outcome : Outcome} (shaped : Shaped outcome) {part : Outcome}
    (member : part ∈ outcome.applied.toList) : Bare part := by
  rw [Outcome.applied_eq] at member
  cases left : bare outcome with
  | nil =>
      rw [left] at member
      cases member
  | cons field fields =>
      rw [left] at member
      have present : bare outcome ≠ [] := by simp [left]
      have same : part = record (bare outcome) := by
        rw [left]
        simpa using member
      exact same ▸ shaped.bare_record present

/-- Absorbing a result applies what can be applied of it and puts what it asks
in front of the queue. -/
theorem exists_absorb_eq {walk : Walk} (sound : walk.Sound) {outcome : Outcome}
    (result : IsResult outcome) :
    ∃ next, walk.absorb outcome = (next, none) ∧ next.Sound ∧ next.current = walk.current ∧
      next.applied = walk.applied ++ outcome.applied.toList ∧
      Play.inTurn (next.queue.map visit) =
        (questions outcome).andThen (.inTurn (walk.queue.map visit)) := by
  obtain ⟨stripped, taken, immediate, items, found, shaped, play⟩ := result.comesApart
  have absorbed : walk.absorb outcome =
      ({ walk with
          applied := walk.applied ++ outcome.applied.toList
          queue := items ++ walk.queue }, none) := by
    rw [absorb, taken]
    simp only [found, immediate, Outcome.applied_eq]
    cases bare outcome with
    | nil => simp
    | cons field fields => rfl
  refine ⟨_, absorbed, ⟨?_, ?_, sound.current⟩, rfl, rfl, by simp [play]⟩
  · intro part member
    exact (List.mem_append.1 member).elim (sound.applied part)
      (bare_of_mem_applied result.shaped)
  · intro item member
    exact (List.mem_append.1 member).elim (shaped item) (sound.queue item)

/-- The walk goes on to a settled one: it has applied what the play applies
first, and has the rest of the play ahead. -/
structure Performs (walk : Walk) (play : Play (FreeAddMonoid Outcome)) (next : Walk) : Prop where
  sound : next.Sound
  settled : next.Settled
  plays : ∃ added, next.applied = walk.applied ++ FreeAddMonoid.toList added ∧
    play = next.ahead.bring added

theorem Performs.bring {walk middle next : Walk} {play : Play (FreeAddMonoid Outcome)}
    {added : FreeAddMonoid Outcome} (performs : middle.Performs play next)
    (applied : middle.applied = walk.applied ++ FreeAddMonoid.toList added) :
    walk.Performs (play.bring added) next := by
  obtain ⟨sound, settled, more, moreApplied, rfl⟩ := performs
  refine ⟨sound, settled, added + more, ?_, by simp⟩
  rw [moreApplied, applied, FreeAddMonoid.toList_add, List.append_assoc]

/-- Settling a walk without a question visits what is in store, up to the next
question. -/
theorem exists_settle_eq (walk : Walk) (sound : walk.Sound) (unasked : walk.current = none) :
    ∃ next, walk.settle = (next, none) ∧
      walk.Performs (.inTurn (walk.queue.map visit)) next := by
  -- The queue may grow with what an item opens, so the induction is on the settling
  -- itself and not on the queue.
  fun_induction Walk.settle walk with
  | case1 walk question asked => simp [asked] at unasked
  | case2 walk _ empty =>
      refine ⟨walk, rfl, sound, fun _ => empty, 0, by simp, ?_⟩
      simp [ahead, unasked]
  | case3 walk _ item rest stored question isQuestion =>
      have same : item = question.outcome := eq_of_question? isQuestion
      have shapedItem : Shaped item := sound.queue item (by simp [stored])
      refine ⟨_, rfl, ⟨sound.applied, ?_, ?_⟩, (fun unasked => nomatch unasked), 0, by simp, ?_⟩
      · exact fun other member => sound.queue other (by simp [stored, member])
      · rintro _ ⟨⟩
        exact same ▸ shapedItem
      · simp [ahead, stored, same, Question.outcome, visit_question]
  | case4 walk _ item rest stored notQuestion next failure absorbed =>
      have behind : ({ walk with queue := rest } : Walk).Sound :=
        ⟨sound.applied, fun other member => sound.queue other (by simp [stored, member]),
          sound.current⟩
      have result : IsResult item := (sound.queue item (by simp [stored])).isResult notQuestion
      obtain ⟨other, succeeded, -⟩ := exists_absorb_eq behind result
      rw [absorbed] at succeeded
      cases succeeded
  | case5 walk _ item rest stored notQuestion next absorbed smaller ih =>
      have behind : ({ walk with queue := rest } : Walk).Sound :=
        ⟨sound.applied, fun other member => sound.queue other (by simp [stored, member]),
          sound.current⟩
      have result : IsResult item := (sound.queue item (by simp [stored])).isResult notQuestion
      obtain ⟨other, succeeded, nextSound, same, applied, play⟩ := exists_absorb_eq behind result
      rw [absorbed] at succeeded
      cases succeeded
      obtain ⟨last, settled, performs⟩ := ih nextSound (same.trans unasked)
      have whole : walk.Performs _ last := performs.bring applied
      refine ⟨last, settled, ?_⟩
      rw [play] at whole
      simpa [stored, visit, Play.bring_andThen] using whole

end Walk

end CreatureCards
