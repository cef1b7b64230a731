import CreatureCards.Proofs.BrokenAnswer
import CreatureCards.Proofs.ReliableOutcome

/-!
# Reliable walks

Taking a reliable result apart never breaks off, and neither does a walk through it: as long
as only choices are made that are shown, every question that comes up can be shown, and every
answer is accepted.
-/

namespace CreatureCards

namespace Outcome

variable {footing : Footing}

/-- The parts put reliable items into the queue. -/
def QueuesReliably (footing : Footing) (prompts : List Descriptors) : Prop :=
  ∃ items, upcomingAll prompts = .ok items ∧ ∀ item ∈ items, Reliable footing item

theorem queuesReliably_nil : QueuesReliably footing [] :=
  ⟨[], rfl, fun _ member => nomatch member⟩

theorem QueuesReliably.cons {prompt : Descriptors} {items : List Outcome} {rest : List Descriptors}
    (found : upcoming prompt = .ok items) (reliable : ∀ item ∈ items, Reliable footing item)
    (queues : QueuesReliably footing rest) : QueuesReliably footing (prompt :: rest) := by
  obtain ⟨behind, others, reliableBehind⟩ := queues
  refine ⟨items ++ behind, ?_, List.forall_mem_append.2 ⟨reliable, reliableBehind⟩⟩
  rw [upcomingAll, found, others]
  rfl

theorem QueuesReliably.append {first second : List Descriptors} (one : QueuesReliably footing first)
    (other : QueuesReliably footing second) : QueuesReliably footing (first ++ second) := by
  induction first with
  | nil => exact other
  | cons prompt rest ih =>
      obtain ⟨items, found, reliable⟩ := one
      rw [upcomingAll] at found
      obtain ⟨own, ownFound, found⟩ := bind_eq_ok.1 found
      obtain ⟨others, othersFound, found⟩ := bind_eq_ok.1 found
      cases found
      obtain ⟨reliableOwn, reliableOthers⟩ := List.forall_mem_append.1 reliable
      exact .cons ownFound reliableOwn (ih ⟨others, othersFound, reliableOthers⟩)

theorem reliable_of_mem_dueItems {fields : Descriptors}
    (reliable : Reliable footing (record fields)) {item : Outcome}
    (member : item ∈ dueItems fields) : Reliable footing item := by
  rw [dueItems, List.mem_append, List.mem_append] at member
  obtain (inTarget | inOption) | inPending := member
  · exact reliable.question_of_lookup (by decide) (Option.mem_toList.1 inTarget)
  · exact reliable.question_of_lookup (by decide) (Option.mem_toList.1 inOption)
  · exact reliable.of_mem_pending inPending

/-- Taking the outcome apart finds something reliable to apply, and reliable items for the
queue. -/
def ComesApartReliably (footing : Footing) (outcome : Outcome) : Prop :=
  ∃ stripped, strip outcome = .ok stripped ∧ Reliable footing (record stripped.immediate) ∧
    QueuesReliably footing stripped.waiting

theorem exists_stripItems {items : List Outcome}
    (each : ∀ item ∈ items, ComesApartReliably footing item) :
    ∃ kept inner, stripItems items = .ok (kept, inner) ∧
      (∀ item ∈ kept, IsReliable footing item) ∧ QueuesReliably footing inner := by
  induction items with
  | nil => exact ⟨[], [], rfl, (fun _ member => nomatch member), queuesReliably_nil⟩
  | cons item rest ih =>
      obtain ⟨⟨stripped, taken, reliable, queues⟩, others⟩ := List.forall_mem_cons.1 each
      obtain ⟨kept, inner, takenRest, reliableRest, behind⟩ := ih others
      refine ⟨if stripped.immediate.isEmpty then kept else record stripped.immediate :: kept,
        stripped.waiting ++ inner, ?_, ?_, queues.append behind⟩
      · simp only [stripItems, taken, takenRest, bind, Except.bind]
        rfl
      · split
        · exact reliableRest
        · exact List.forall_mem_cons.2 ⟨⟨trivial, reliable⟩, reliableRest⟩

/-- A field that may stand in a reliable record that asks nothing. -/
structure SilentField (footing : Footing) (field : String × Outcome) : Prop
    extends ReliableField footing field where
  unasked : field.1 ∉ chainKeys

theorem Reliable.of_silentFields {fields : Descriptors} (distinct : (KeyedList.keys fields).Nodup)
    (each : ∀ field ∈ fields, SilentField footing field) : Reliable footing (record fields) := by
  have unprompted : fields.Unprompted := by
    intro key chain member
    obtain ⟨field, isField, rfl⟩ := List.mem_map.1 member
    exact (each field isField).unasked chain
  exact .of_fields distinct unprompted.paired fun field member =>
    (each field member).toReliableField

/-- The fields of a reliable record are taken apart if the results that it keeps are. -/
theorem exists_stripFields {fields : Descriptors}
    (reliable : ∀ field ∈ fields, ReliableField footing field)
    (each : ∀ payload, (compositeKey, payload) ∈ fields → ∀ item ∈ payload.items,
      ComesApartReliably footing item) :
    ∃ immediate waiting,
      stripFields fields = .ok ⟨immediate, Descriptors.prompting fields, waiting⟩ ∧
      (KeyedList.keys immediate).Sublist (KeyedList.keys fields) ∧
      (∀ field ∈ immediate, SilentField footing field) ∧ QueuesReliably footing waiting := by
  induction fields with
  | nil => exact ⟨[], [], rfl, .slnil, (fun _ member => nomatch member), queuesReliably_nil⟩
  | cons field rest ih =>
      obtain ⟨key, payload⟩ := field
      obtain ⟨here, reliableRest⟩ := List.forall_mem_cons.1 reliable
      obtain ⟨immediate, waiting, taken, sublist, silent, queues⟩ := ih reliableRest
        fun other member => each other (List.mem_cons_of_mem _ member)
      -- A field goes to the prompting part, is entered for what it keeps, or is applied.
      by_cases chain : key ∈ chainKeys
      · refine ⟨immediate, waiting, ?_, sublist.cons key, silent, queues⟩
        simp [stripFields, taken, chain, Descriptors.prompting, bind, Except.bind, pure,
          Except.pure]
      · by_cases composite : key = compositeKey
        · subst composite
          have isList : payload = list payload.items := (here.suits.composite rfl).eq_list
          obtain ⟨kept, own, takenOwn, reliableKept, queuesOwn⟩ :=
            exists_stripItems (each payload List.mem_cons_self)
          have entries : stripEntries payload = .ok (kept, own) := by
            rw [isList, stripEntries, takenOwn]
          have keeps : SilentField footing (compositeKey, list kept) :=
            ⟨.of_kept reliableKept, chain⟩
          refine ⟨if kept.isEmpty then immediate else (compositeKey, list kept) :: immediate,
            own ++ waiting, ?_, ?_, ?_, queuesOwn.append queues⟩
          · simp [stripFields, taken, entries, chain, Descriptors.prompting, bind, Except.bind,
              pure, Except.pure]
          · split
            · exact sublist.cons _
            · exact sublist.cons_cons _
          · split
            · exact silent
            · exact List.forall_mem_cons.2 ⟨keeps, silent⟩
        · refine ⟨(key, payload) :: immediate, waiting, ?_, sublist.cons_cons key,
            List.forall_mem_cons.2 ⟨⟨here, chain⟩, silent⟩, queues⟩
          simp [stripFields, taken, chain, composite, Descriptors.prompting, bind, Except.bind,
            pure, Except.pure]

theorem IsReliable.comesApart {outcome : Outcome} (isReliable : IsReliable footing outcome) :
    ComesApartReliably footing outcome := by
  obtain ⟨isRecord, reliable⟩ := isReliable
  induction reliable with
  | prompt _ _ _ => exact isRecord.elim
  | @result fields formed paired inner runs becomes ih =>
      have reliable : Reliable footing (record fields) := .result formed paired inner runs becomes
      obtain ⟨immediate, waiting, taken, sublist, silent, queues⟩ :=
        exists_stripFields (fun _ => reliable.field) fun payload member item isItem =>
          ih _ member item (by simpa using isItem) ((formed.suits _ member).kept rfl item isItem)
      refine ⟨_, by rw [strip, taken],
        .of_silentFields (formed.distinct.sublist sublist) silent, ?_⟩
      rw [Stripped.waiting]
      split
      · exact queues
      · exact .cons (upcoming_prompting formed)
          (fun item member => reliable_of_mem_dueItems reliable member) queues

theorem Reliable.isReliable {outcome : Outcome} (reliable : Reliable footing outcome)
    (notQuestion : outcome.question? = none) : IsReliable footing outcome := by
  refine ⟨?_, reliable⟩
  cases reliable with
  | result _ _ _ _ _ => trivial
  | prompt _ _ _ => cases notQuestion

/-- Reliable results can be combined. -/
theorem exists_combine_of_reliable {applied : List Outcome}
    (each : ∀ part ∈ applied, IsReliable footing part) :
    ∃ merged, combine applied = .ok merged := by
  obtain ⟨records, rfl⟩ := exists_map_record fun part member => (each part member).isRecord
  obtain ⟨merged, -, -, combined, -⟩ := exists_combine_formed records fun fields member =>
    (each _ (List.mem_map_of_mem member)).reliable.formed
  exact ⟨merged, combined⟩

/-- The effect is handed over by the outcome, or by a result that it keeps. -/
inductive Hands (effect : Effect) : Outcome → Prop
  | request {fields : Descriptors} {payload : Outcome}
      (found : fields.lookup requestKey = some payload)
      (hands : payload.get? "on_consume" = some (callback effect)) : Hands effect (record fields)
  | kept {fields : Descriptors} {item : Outcome} (member : item ∈ fields.kept)
      (hands : Hands effect item) : Hands effect (record fields)

theorem Hands.canRun {effect : Effect} {outcome : Outcome} (hands : Hands effect outcome)
    (isReliable : IsReliable footing outcome) : CanRun footing effect := by
  induction hands with
  | request found hands =>
      refine (isReliable.reliable.field (KeyedList.mem_of_lookup found)).runs effect ?_
      simp [handedOver, hands]
  | kept member _ ih => exact ih (isReliable.reliable.of_mem_kept member)

end Outcome

namespace Walk

open Outcome

variable {footing : Footing} {walk : Walk}

/-- What the walk has collected, what it asks and what it has in store is reliable. -/
structure Reliable (footing : Footing) (walk : Walk) : Prop where
  applied : ∀ part ∈ walk.applied, IsReliable footing part
  queue : ∀ item ∈ walk.queue, item.Reliable footing
  current : ∀ question, walk.current = some question → question.outcome.Reliable footing

theorem exists_absorb_reliable (reliable : walk.Reliable footing) {outcome : Outcome}
    (isReliable : IsReliable footing outcome) :
    ∃ next, walk.absorb outcome = (next, none) ∧ next.Reliable footing ∧
      next.current = walk.current := by
  obtain ⟨stripped, taken, reliableNow, items, found, reliableItems⟩ := isReliable.comesApart
  let collected := if stripped.immediate.isEmpty then walk.applied
    else walk.applied ++ [.record stripped.immediate]
  have absorbed : walk.absorb outcome =
      ({ walk with applied := collected, queue := items ++ walk.queue }, none) := by
    rw [absorb, taken]
    simp only [found]
    rfl
  refine ⟨_, absorbed, ⟨fun part member => ?_, ?_, reliable.current⟩, rfl⟩
  · dsimp only [collected] at member
    split at member
    · exact reliable.applied part member
    · obtain known | isNew := List.mem_append.1 member
      · exact reliable.applied part known
      · exact List.mem_singleton.1 isNew ▸ ⟨trivial, reliableNow⟩
  · exact List.forall_mem_append.2 ⟨reliableItems, reliable.queue⟩

theorem exists_settle_reliable (walk : Walk) (reliable : walk.Reliable footing)
    (unasked : walk.current = none) :
    ∃ next, walk.settle = (next, none) ∧ next.Reliable footing := by
  -- The queue may grow with what an item opens, so the induction is on the settling
  -- itself and not on the queue.
  fun_induction Walk.settle walk with
  | case1 walk question asked => simp [asked] at unasked
  | case2 walk _ empty => exact ⟨walk, rfl, reliable⟩
  | case3 walk _ item rest stored question isQuestion =>
      have same : item = question.outcome := eq_of_question? isQuestion
      have reliableItem : item.Reliable footing := reliable.queue item (by simp [stored])
      refine ⟨_, rfl, reliable.applied, fun other member => ?_, ?_⟩
      · exact reliable.queue other (by simp [stored, member])
      · rintro _ ⟨⟩
        exact same ▸ reliableItem
  | case4 walk _ item rest stored notQuestion next failure absorbed =>
      have behind : ({ walk with queue := rest } : Walk).Reliable footing :=
        ⟨reliable.applied, fun other member => reliable.queue other (by simp [stored, member]),
          reliable.current⟩
      obtain ⟨other, succeeded, -⟩ := exists_absorb_reliable behind
        ((reliable.queue item (by simp [stored])).isReliable notQuestion)
      rw [absorbed] at succeeded
      cases succeeded
  | case5 walk _ item rest stored notQuestion next absorbed smaller ih =>
      have behind : ({ walk with queue := rest } : Walk).Reliable footing :=
        ⟨reliable.applied, fun other member => reliable.queue other (by simp [stored, member]),
          reliable.current⟩
      obtain ⟨other, succeeded, reliableNext, same⟩ := exists_absorb_reliable behind
        ((reliable.queue item (by simp [stored])).isReliable notQuestion)
      rw [absorbed] at succeeded
      cases succeeded
      exact ih reliableNext (same.trans unasked)

theorem exists_take_reliable (reliable : walk.Reliable footing) (unasked : walk.current = none)
    {outcome : Outcome} (isReliable : IsReliable footing outcome) :
    ∃ next, walk.take outcome = (next, none) ∧ next.Reliable footing := by
  obtain ⟨middle, absorbed, reliableMiddle, same⟩ := exists_absorb_reliable reliable isReliable
  rw [take, absorbed]
  exact exists_settle_reliable middle reliableMiddle (same.trans unasked)

theorem exists_start_reliable {outcome : Outcome}
    (isReliable : IsReliable footing outcome.orNothing) :
    ∃ walk, start outcome = .ok walk ∧ walk.Reliable footing := by
  have empty : ({} : Walk).Reliable footing :=
    ⟨(fun _ member => nomatch member), (fun _ member => nomatch member),
      fun _ asked => nomatch asked⟩
  obtain ⟨walk, taken, reliable⟩ := exists_take_reliable empty rfl isReliable
  exact ⟨walk, by rw [start, taken], reliable⟩

/-- A question is open, and the choice of the moment is one that it shows. -/
def Allows (footing : Footing) (walk : Walk) (moment : Moment) : Prop :=
  ∃ question, walk.current = some question ∧ question.inquiry.Allows footing.admits moment

theorem Reliable.exists_candidates (reliable : walk.Reliable footing) {board : Board}
    (admitted : footing.admits board) : ∃ candidates, walk.candidates board = .ok candidates := by
  unfold Walk.candidates
  split
  · rename_i pick answer asked
    cases reliable.current _ asked with
    | prompt shown _ _ => exact shown board admitted
  · exact ⟨[], rfl⟩

/-- A reliable walk accepts every choice that it shows, and stays reliable. -/
theorem Reliable.answered (reliable : walk.Reliable footing) {moment : Moment}
    (allowed : walk.Allows footing moment) :
    (∃ produced, (walk.answered moment).1.1 = .ok produced) ∧
      (walk.answered moment).1.2.Reliable footing := by
  obtain ⟨question, asked, allows⟩ := allowed
  have opened : ({ walk with current := none } : Walk).Reliable footing :=
    ⟨reliable.applied, reliable.queue, fun _ asked => nomatch asked⟩
  cases reliable.current question asked with
  | prompt shown answers follow =>
      obtain ⟨outcome, after, ran, isRecord⟩ := answers moment allows
      obtain ⟨next, taken, reliableNext⟩ :=
        exists_take_reliable opened rfl ⟨isRecord, follow moment allows outcome after ran⟩
      have reliableNew : ∀ part ∈ next.applied.drop walk.applied.length, IsReliable footing part :=
        fun part member => reliableNext.applied part (List.mem_of_mem_drop member)
      obtain ⟨merged, combined⟩ := exists_combine_of_reliable reliableNew
      refine ⟨⟨.record merged, ?_⟩, ?_⟩
      · simp only [Walk.answered, submit, asked, ran, reply, taken, combined]
        rfl
      · rwa [answered_of_taken asked ran taken]

/-- The effect is handed over by something that the walk has collected. -/
def Hands (walk : Walk) (effect : Effect) : Prop :=
  ∃ part ∈ walk.applied, part.Hands effect

/-- The walk is one that can be got to from the outcome by choices that are shown, and by
running effects that are handed over. -/
inductive ReachedFairly (footing : Footing) (outcome : Outcome) : Walk → Prop
  | start {walk : Walk} (started : start outcome = .ok walk) : ReachedFairly footing outcome walk
  | answered {walk : Walk} (reached : ReachedFairly footing outcome walk) {moment : Moment}
      (allowed : walk.Allows footing moment) :
      ReachedFairly footing outcome (walk.answered moment).1.2
  | handed {walk next : Walk} (reached : ReachedFairly footing outcome walk) {effect : Effect}
      (hands : walk.Hands effect) {context : Context} (acting : footing.acts context)
      {board : Board} (admitted : footing.admits board) {session after : Session}
      (usable : session.random.IsUsable) {further : Outcome}
      (ran : effect context board session = (.ok further, after))
      (started : Walk.start further = .ok next) : ReachedFairly footing outcome next

theorem ReachedFairly.reliable {outcome : Outcome}
    (isReliable : IsReliable footing outcome.orNothing)
    (reached : ReachedFairly footing outcome walk) : walk.Reliable footing := by
  induction reached with
  | start started =>
      obtain ⟨walk, starts, reliable⟩ := exists_start_reliable isReliable
      cases starts.symm.trans started
      exact reliable
  | answered _ allowed ih => exact (ih.answered allowed).2
  | handed _ hands acting admitted usable ran started ih =>
      obtain ⟨part, member, hands⟩ := hands
      obtain ⟨further, after, runs, reliable⟩ :=
        hands.canRun (ih.applied part member) _ acting _ admitted _ usable
      cases runs.symm.trans ran
      obtain ⟨next, starts, reliableNext⟩ := exists_start_reliable reliable
      cases starts.symm.trans started
      exact reliableNext

/-- Nothing that can be done with the walk breaks off: what its question shows is found, every
choice that is shown is accepted, and every effect that is handed over comes to something
that can be walked through. -/
structure Unfailing (footing : Footing) (walk : Walk) : Prop where
  shows : ∀ board, footing.admits board → ∃ candidates, walk.candidates board = .ok candidates
  accepts : ∀ moment, walk.Allows footing moment →
    ∃ produced, (walk.answered moment).1.1 = .ok produced
  runs : ∀ effect, walk.Hands effect → ∀ context, footing.acts context → ∀ board,
    footing.admits board → ∀ session : Session, session.random.IsUsable → ∃ outcome after,
      effect context board session = (.ok outcome, after) ∧ ∃ next, start outcome = .ok next

theorem Reliable.unfailing (reliable : walk.Reliable footing) : walk.Unfailing footing where
  shows _ admitted := reliable.exists_candidates admitted
  accepts _ allowed := (reliable.answered allowed).1
  runs effect hands context acting board admitted session usable := by
    obtain ⟨part, member, hands⟩ := hands
    obtain ⟨outcome, after, ran, isReliable⟩ :=
      hands.canRun (reliable.applied part member) context acting board admitted session usable
    obtain ⟨next, started, -⟩ := exists_start_reliable isReliable
    exact ⟨outcome, after, ran, next, started⟩

end Walk

end CreatureCards
