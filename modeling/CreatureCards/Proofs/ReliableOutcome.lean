import CreatureCards.Proofs.Completion
import CreatureCards.Proofs.MergedResult
import CreatureCards.Proofs.PlainEffects
import CreatureCards.Proofs.Play

/-!
# Reliable outcomes

An outcome is reliable if its questions can be shown and answered: on admitted boards, what
a question shows is found, every choice that it shows comes to a result, and this result is
reliable again.  Merging reliable results neither breaks off nor makes them less reliable.
-/

namespace CreatureCards

open Outcome

/-- What a run can rely on: the boards that it meets, and the contexts in which effects act. -/
structure Footing where
  admits : Board → Prop
  acts : Context → Prop

/-- The choice is one of those that the question shows on the board. -/
def Inquiry.Shows (inquiry : Inquiry) (board : Board) (choice : Choice) : Prop :=
  match inquiry with
  | .pick asked => ∃ candidates, asked.source.candidates board = .ok candidates ∧
      choice ∈ candidates.map Candidate.value
  | .menu asked => ∃ place < asked.entries.length, choice = .option place

/-- What the question shows on the board is found. -/
def Inquiry.CanShow (inquiry : Inquiry) (board : Board) : Prop :=
  match inquiry with
  | .pick asked => ∃ candidates, asked.source.candidates board = .ok candidates
  | .menu _ => True

/-- The choice of the moment is shown on the board of the moment, which is admitted, and
there are numbers to draw. -/
structure Inquiry.Allows (admits : Board → Prop) (inquiry : Inquiry) (moment : Moment) : Prop where
  admitted : admits moment.board
  usable : moment.session.random.IsUsable
  shown : inquiry.Shows moment.board moment.choice

namespace Outcome

/-- The key of a request that hands an effect to the keeper of the game. -/
def requestKey : String := "request_consume"

/-- The effect that a request hands over, if it hands one over. -/
def handedOver (key : String) (payload : Outcome) : List Effect :=
  if key = requestKey then
    match payload.get? "on_consume" with
    | some (callback effect) => [effect]
    | _ => []
  else []

/-- The keys behind which there are questions, kept results or effects. -/
def boundKeys : List String := requestKey :: compositeKey :: chainKeys

theorem handedOver_of_ne {key : String} (other : key ≠ requestKey) (payload : Outcome) :
    handedOver key payload = [] :=
  if_neg other

theorem handedOver_of_bound {key : String} (bound : key ∈ compositeKey :: chainKeys)
    (payload : Outcome) : handedOver key payload = [] := by
  refine handedOver_of_ne ?_ payload
  rintro rfl
  exact absurd bound (by decide)

theorem handedOver_of_silent {payload : Outcome} (silent : payload.silent = true) (key : String) :
    handedOver key payload = [] := by
  unfold handedOver
  split
  · split
    · rename_i effect found
      cases payload with
      | record fields =>
          have inner := silentFields_iff.1 (by simpa using silent) _ (KeyedList.mem_of_lookup found)
          simp [Outcome.silent] at inner
      | _ => cases found
    · rfl
  · rfl

/-- The questions of the outcome can be shown and answered with whatever they show, and the
effects that it hands over can be run. -/
inductive Reliable (footing : Footing) : Outcome → Prop
  | result {fields : Descriptors} (formed : fields.Formed) (paired : fields.Paired)
      (inner : ∀ field ∈ fields, ∀ part ∈ parts field.1 field.2, Reliable footing part)
      (runs : ∀ field ∈ fields, ∀ effect ∈ handedOver field.1 field.2,
        ∀ context, footing.acts context → ∀ board, footing.admits board →
          ∀ session : Session, session.random.IsUsable → ∃ outcome after,
            effect context board session = (.ok outcome, after) ∧ outcome.orNothing.IsRecord)
      (becomes : ∀ field ∈ fields, ∀ effect ∈ handedOver field.1 field.2,
        ∀ context, footing.acts context → ∀ board, footing.admits board →
          ∀ session : Session, session.random.IsUsable → ∀ outcome after,
            effect context board session = (.ok outcome, after) →
              Reliable footing outcome.orNothing) :
      Reliable footing (record fields)
  | prompt {inquiry : Inquiry} {answer : Choice → Engine Outcome}
      (shown : ∀ board, footing.admits board → inquiry.CanShow board)
      (answers : ∀ moment, inquiry.Allows footing.admits moment → ∃ outcome after,
        answer moment.choice moment.board moment.session = (.ok outcome, after) ∧
          outcome.orNothing.IsRecord)
      (follow : ∀ moment, inquiry.Allows footing.admits moment → ∀ outcome after,
        answer moment.choice moment.board moment.session = (.ok outcome, after) →
          Reliable footing outcome.orNothing) :
      Reliable footing (question inquiry answer)

/-- A reliable record. -/
structure IsReliable (footing : Footing) (outcome : Outcome) : Prop where
  isRecord : outcome.IsRecord
  reliable : outcome.Reliable footing

/-- In the contexts of the footing the effect comes to something reliable. -/
def CanRun (footing : Footing) (effect : Effect) : Prop :=
  ∀ context, footing.acts context → ∀ board, footing.admits board →
    ∀ session : Session, session.random.IsUsable → ∃ outcome after,
      effect context board session = (.ok outcome, after) ∧ IsReliable footing outcome.orNothing

/-- A field that may stand in a reliable record. -/
structure ReliableField (footing : Footing) (field : String × Outcome) : Prop where
  suits : SuitsKey field.1 field.2
  inner : ∀ part ∈ parts field.1 field.2, Reliable footing part
  runs : ∀ effect ∈ handedOver field.1 field.2, CanRun footing effect

variable {footing : Footing} {fields : Descriptors}

theorem Reliable.formed (reliable : Reliable footing (record fields)) : fields.Formed := by
  cases reliable
  assumption

theorem Reliable.paired (reliable : Reliable footing (record fields)) : fields.Paired := by
  cases reliable
  assumption

theorem Reliable.of_fields (distinct : (KeyedList.keys fields).Nodup) (paired : fields.Paired)
    (each : ∀ field ∈ fields, ReliableField footing field) : Reliable footing (record fields) := by
  refine .result ⟨distinct, fun field member => (each field member).suits⟩ paired
    (fun field member => (each field member).inner) ?_ ?_
  · intro field member effect hands context acting board admitted session usable
    obtain ⟨outcome, after, ran, reliable⟩ :=
      (each field member).runs effect hands context acting board admitted session usable
    exact ⟨outcome, after, ran, reliable.isRecord⟩
  · intro field member effect hands context acting board admitted session usable outcome after ran
    obtain ⟨other, _, ranOther, reliable⟩ :=
      (each field member).runs effect hands context acting board admitted session usable
    obtain rfl : other = outcome := Except.ok.inj (Prod.mk.inj (ranOther.symm.trans ran)).1
    exact reliable.reliable

theorem Reliable.field (reliable : Reliable footing (record fields)) {field : String × Outcome}
    (member : field ∈ fields) : ReliableField footing field := by
  cases reliable with
  | result formed _ inner runs becomes =>
      refine ⟨formed.suits field member, inner field member, ?_⟩
      intro effect hands context acting board admitted session usable
      obtain ⟨outcome, after, ran, isRecord⟩ :=
        runs field member effect hands context acting board admitted session usable
      exact ⟨outcome, after, ran, isRecord,
        becomes field member effect hands context acting board admitted session usable outcome
          after ran⟩

theorem ReliableField.of_question {key : String} {payload : Outcome} (isKey : key ∈ questionKeys)
    (isQuestion : payload.IsQuestion) (reliable : Reliable footing payload) :
    ReliableField footing (key, payload) where
  suits := .of_question isKey isQuestion
  inner part member := by
    rw [parts_of_question isKey, List.mem_singleton] at member
    exact member ▸ reliable
  runs effect hands := by
    have bound : key ∈ compositeKey :: chainKeys :=
      List.mem_cons_of_mem _ (List.mem_append_left _ isKey)
    simp [handedOver_of_bound bound] at hands

theorem ReliableField.of_pending {items : List Outcome}
    (each : ∀ item ∈ items, Reliable footing item) :
    ReliableField footing (pendingKey, list items) where
  suits := .of_pending items
  inner part member := each part (by simpa using member)
  runs effect hands := by
    have bound : pendingKey ∈ compositeKey :: chainKeys := by decide
    simp [handedOver_of_bound bound] at hands

theorem ReliableField.of_kept {items : List Outcome}
    (each : ∀ item ∈ items, IsReliable footing item) :
    ReliableField footing (compositeKey, list items) where
  suits := .of_kept fun item member => (each item member).isRecord
  inner part member := (each part (by simpa using member)).reliable
  runs effect hands := by simp [handedOver_of_bound List.mem_cons_self] at hands

/-- Nothing comes of a payload behind a free key but the effect that it hands over. -/
theorem ReliableField.of_unbound {key : String} {payload : Outcome}
    (free : key ∉ compositeKey :: chainKeys)
    (runs : ∀ effect ∈ handedOver key payload, CanRun footing effect) :
    ReliableField footing (key, payload) := by
  obtain ⟨suits, none⟩ := SuitsKey.of_free payload free
  exact ⟨suits, fun part member => by simp [none] at member, runs⟩

theorem ReliableField.of_free {key : String} (free : key ∉ boundKeys) (payload : Outcome) :
    ReliableField footing (key, payload) := by
  obtain ⟨other, unbound⟩ := not_or.1 (List.mem_cons.not.1 free)
  exact .of_unbound unbound fun effect hands => by simp [handedOver_of_ne other] at hands

theorem Reliable.part (reliable : Reliable footing (record fields)) {key : String}
    {payload part : Outcome} (found : fields.lookup key = some payload)
    (member : part ∈ parts key payload) : Reliable footing part :=
  (reliable.field (KeyedList.mem_of_lookup found)).inner part member

theorem Reliable.question_of_lookup (reliable : Reliable footing (record fields)) {key : String}
    (isKey : key ∈ questionKeys) {payload : Outcome} (found : fields.lookup key = some payload) :
    Reliable footing payload :=
  reliable.part found (by rw [parts_of_question isKey]; exact List.mem_singleton_self _)

theorem Reliable.of_mem_pending (reliable : Reliable footing (record fields)) {item : Outcome}
    (member : item ∈ fields.pending) : Reliable footing item := by
  cases found : fields.lookup pendingKey with
  | none => simp [Descriptors.pending, found] at member
  | some payload =>
      rw [Descriptors.pending, found] at member
      exact reliable.part found (by simpa using member)

theorem Reliable.of_mem_kept (reliable : Reliable footing (record fields)) {item : Outcome}
    (member : item ∈ fields.kept) : IsReliable footing item := by
  cases found : fields.lookup compositeKey with
  | none => simp [Descriptors.kept, found] at member
  | some payload =>
      rw [Descriptors.kept, found] at member
      exact ⟨(reliable.formed.suits_of_lookup found).kept rfl item member,
        reliable.part found (by simpa using member)⟩

theorem Reliable.filter (reliable : Reliable footing (record fields))
    (keep : String × Outcome → Bool) (paired : Descriptors.Paired (fields.filter keep)) :
    Reliable footing (record (fields.filter keep)) :=
  .of_fields (reliable.formed.filter keep).distinct paired fun _ member =>
    reliable.field (List.mem_filter.1 member).1

theorem Reliable.append {others : Descriptors} (reliable : Reliable footing (record fields))
    (reliableOthers : Reliable footing (record others))
    (disjoint : ∀ key ∈ KeyedList.keys others, key ∉ KeyedList.keys fields)
    (paired : Descriptors.Paired (fields ++ others)) :
    Reliable footing (record (fields ++ others)) :=
  .of_fields (reliable.formed.append reliableOthers.formed disjoint).distinct paired
    (List.forall_mem_append.2 ⟨fun _ => reliable.field, fun _ => reliableOthers.field⟩)

theorem Reliable.put {key : String} {payload : Outcome}
    (reliable : Reliable footing (record fields)) (here : ReliableField footing (key, payload))
    (paired : Descriptors.Paired (KeyedList.put key payload fields)) :
    Reliable footing (record (KeyedList.put key payload fields)) := by
  refine .of_fields (reliable.formed.put here.suits).distinct paired fun field member => ?_
  obtain rfl | known := KeyedList.mem_put member
  · exact here
  · exact reliable.field known

theorem IsReliable.nothing : IsReliable footing nothing :=
  ⟨trivial, .of_fields .nil (paired_of_unawaited List.not_mem_nil) fun _ member => nomatch member⟩

theorem IsReliable.orNothing {outcome : Outcome} (reliable : IsReliable footing outcome) :
    IsReliable footing outcome.orNothing := by
  rw [Outcome.orNothing]
  split
  · exact reliable
  · exact .nothing

/-- A record is reliable if the one without its first field is, and what the field holds. -/
theorem IsReliable.cons {key : String} {payload : Outcome}
    (rest : IsReliable footing (record fields)) (fresh : key ∉ KeyedList.keys fields)
    (here : ReliableField footing (key, payload)) (unawaited : key ≠ pendingKey) :
    IsReliable footing (record ((key, payload) :: fields)) := by
  have reliable := rest.reliable
  refine ⟨trivial, .of_fields (List.nodup_cons.2 ⟨fresh, reliable.formed.distinct⟩)
    (fun awaited => ?_) (List.forall_mem_cons.2 ⟨here, fun _ => reliable.field⟩)⟩
  -- What waits in the rest waits beside a question of the rest.
  have behind : KeyedList.has fields pendingKey = true := by
    rw [KeyedList.has_iff_mem_keys] at awaited ⊢
    exact (List.mem_cons.1 awaited).resolve_left unawaited.symm
  obtain ⟨name, isKey, member⟩ := (Descriptors.asks_eq fields).1 (reliable.paired behind)
  exact (Descriptors.asks_eq _).2 ⟨name, isKey, List.mem_cons_of_mem _ member⟩

theorem IsReliable.cons_free {key : String} {payload : Outcome}
    (rest : IsReliable footing (record fields)) (fresh : key ∉ KeyedList.keys fields)
    (free : key ∉ boundKeys) : IsReliable footing (record ((key, payload) :: fields)) := by
  refine rest.cons fresh (.of_free free payload) ?_
  rintro rfl
  exact free (by decide)

/-- A record without questions, kept results and requests is reliable. -/
theorem IsReliable.of_keys (names : List String) (isKeys : KeyedList.keys fields = names)
    (distinct : names.Nodup) (free : ∀ name ∈ names, name ∉ boundKeys) :
    IsReliable footing (record fields) := by
  induction fields generalizing names with
  | nil => exact .nothing
  | cons field rest ih =>
      obtain ⟨key, payload⟩ := field
      subst isKeys
      obtain ⟨fresh, others⟩ := List.nodup_cons.1 distinct
      exact (ih _ rfl others fun name member => free name (List.mem_cons_of_mem _ member)).cons_free
        fresh (free key List.mem_cons_self)

/-- A silent record without questions and kept results is reliable. -/
theorem IsReliable.of_silent (silent : silentFields fields = true)
    (distinct : (KeyedList.keys fields).Nodup)
    (free : ∀ key ∈ KeyedList.keys fields, key ∉ compositeKey :: chainKeys) :
    IsReliable footing (record fields) := by
  have unawaited : pendingKey ∉ KeyedList.keys fields :=
    fun member => free pendingKey member (by decide)
  refine ⟨trivial, .of_fields distinct (paired_of_unawaited unawaited) fun field member => ?_⟩
  refine .of_unbound (free field.1 (List.mem_map_of_mem member)) fun effect hands => ?_
  simp [handedOver_of_silent (silentFields_iff.1 silent field member)] at hands

theorem IsReliable.descriptor {key : String} {payload : Outcome} (free : key ∉ boundKeys) :
    IsReliable footing (.descriptor key payload) :=
  IsReliable.nothing.cons_free List.not_mem_nil free

/-- A request is reliable if the effect that it hands over can be run. -/
theorem IsReliable.request {payload : Outcome}
    (runs : ∀ effect ∈ handedOver requestKey payload, CanRun footing effect) :
    IsReliable footing (.descriptor requestKey payload) :=
  IsReliable.nothing.cons List.not_mem_nil (.of_unbound (by decide) runs) (by decide)

/-- A question is reliable if everything that it may show is answered reliably. -/
theorem Reliable.of_answers {inquiry : Inquiry} {answer : Choice → Engine Outcome}
    (shown : ∀ board, footing.admits board → inquiry.CanShow board)
    (each : ∀ board, footing.admits board → ∀ choice, inquiry.Shows board choice →
      Succeeds footing.admits (fun outcome => IsReliable footing outcome.orNothing)
        (answer choice)) :
    Reliable footing (question inquiry answer) := by
  have answered (moment : Moment) (allowed : inquiry.Allows footing.admits moment) :=
    each moment.board allowed.admitted moment.choice allowed.shown moment.board allowed.admitted
      moment.session allowed.usable
  refine .prompt shown (fun moment allowed => ?_) fun moment allowed outcome after ran => ?_
  · obtain ⟨outcome, after, ran, -, reliable⟩ := answered moment allowed
    exact ⟨outcome, after, ran, reliable.isRecord⟩
  · obtain ⟨other, _, ranOther, -, reliable⟩ := answered moment allowed
    have same : other = outcome := by
      have both := ranOther.symm.trans ran
      exact Except.ok.inj (Prod.mk.inj both).1
    exact same ▸ reliable.reliable

theorem IsReliable.cons_question {key : String} {payload : Outcome}
    (rest : IsReliable footing (record fields)) (fresh : key ∉ KeyedList.keys fields)
    (isKey : key ∈ questionKeys) (isQuestion : payload.IsQuestion)
    (reliable : Reliable footing payload) :
    IsReliable footing (record ((key, payload) :: fields)) := by
  refine rest.cons fresh (.of_question isKey isQuestion reliable) ?_
  rintro rfl
  exact absurd isKey (by decide)

theorem IsReliable.cons_kept {items : List Outcome} (rest : IsReliable footing (record fields))
    (fresh : compositeKey ∉ KeyedList.keys fields)
    (each : ∀ item ∈ items, IsReliable footing item) :
    IsReliable footing (record ((compositeKey, list items) :: fields)) :=
  rest.cons fresh (.of_kept each) (by decide)

/-- Results that are collected side by side are reliable together. -/
theorem IsReliable.collect {results : List Outcome}
    (each : ∀ result ∈ results, IsReliable footing result) :
    IsReliable footing (collect results) := by
  have present : ∀ result ∈ results.filter isTruthy, IsReliable footing result :=
    fun result member => each result (List.mem_filter.1 member).1
  unfold Outcome.collect
  split
  · exact .nothing
  · rename_i only same
    exact present only (by simp [same])
  · exact IsReliable.nothing.cons_kept List.not_mem_nil present

end Outcome

namespace Descriptors

variable {fields merged prompt : Descriptors}

theorem Unprompted.paired (unprompted : fields.Unprompted) : fields.Paired :=
  paired_of_unawaited (unprompted pendingKey (by decide))

theorem asks_prompting (fields : Descriptors) : (prompting fields).asks = fields.asks := by
  simp only [asks, questionKeys, List.any_cons, List.any_nil, KeyedList.has]
  rw [lookup_prompting fields (by decide), lookup_prompting fields (by decide)]

theorem Paired.prompting (paired : fields.Paired) : (prompting fields).Paired := by
  intro awaited
  rw [KeyedList.has, lookup_prompting fields (by decide)] at awaited
  rw [asks_prompting]
  exact paired awaited

theorem asks_put (key : String) (payload : Outcome) (asks : fields.asks = true) :
    Descriptors.asks (KeyedList.put key payload fields) = true := by
  obtain ⟨name, isKey, member⟩ := (asks_eq fields).1 asks
  refine (asks_eq _).2 ⟨name, isKey, ?_⟩
  rw [← KeyedList.has_iff_mem_keys] at member ⊢
  rw [KeyedList.has, KeyedList.lookup_put]
  split
  · rfl
  · exact member

theorem asks_append (asks : prompt.asks = true) : Descriptors.asks (merged ++ prompt) = true := by
  obtain ⟨name, isKey, member⟩ := (asks_eq prompt).1 asks
  exact (asks_eq _).2 ⟨name, isKey, KeyedList.mem_keys_append.2 (.inr member)⟩

end Descriptors

namespace Outcome

variable {footing : Footing}

theorem Reliable.immediate {fields : Descriptors} (reliable : Reliable footing (record fields)) :
    Reliable footing (record fields.immediate) :=
  reliable.filter _ (Descriptors.unprompted_immediate fields).paired

theorem Reliable.prompting {fields : Descriptors} (reliable : Reliable footing (record fields)) :
    Reliable footing (record fields.prompting) :=
  reliable.filter _ reliable.paired.prompting

/-- Reliable results that ask nothing together are reliable side by side. -/
theorem SideBySide.reliable {results fitting colliding : List Descriptors} {merged : Descriptors}
    (side : SideBySide results fitting colliding merged)
    (each : ∀ fields ∈ results, Reliable footing (record fields)) (unprompted : merged.Unprompted) :
    Reliable footing (record merged) := by
  have formed : ∀ fields ∈ results, fields.Formed :=
    fun fields member => (each fields member).formed
  have distinct : ∀ fields ∈ results, (KeyedList.keys fields).Nodup :=
    fun fields member => (formed fields member).distinct
  have kept {item : Outcome} (member : item ∈ merged.kept) : IsReliable footing item := by
    obtain ⟨fields, isResult, own⟩ | ⟨fields, isResult, rfl⟩ := side.of_mem_kept distinct member
    · exact (each fields isResult).of_mem_kept own
    · exact ⟨trivial, each fields isResult⟩
  -- A field is one of a result, but for the one that holds kept results.
  refine .of_fields side.nodup_keys unprompted.paired fun ⟨key, payload⟩ member => ?_
  have found := KeyedList.lookup_of_mem side.nodup_keys member
  by_cases isComposite : key = compositeKey
  · subst isComposite
    rw [(side.isList_kept formed found).eq_list]
    exact .of_kept fun item isItem => kept (by rwa [Descriptors.kept, found])
  · obtain ⟨fields, isResult, own⟩ := side.exists_of_lookup distinct isComposite found
    exact (each fields isResult).field (KeyedList.mem_of_lookup own)

/-- A result that waits for a question, and asks one itself. -/
structure Waits (footing : Footing) (fields : Descriptors) : Prop where
  reliable : Reliable footing (record fields)
  asks : fields.asks = true

theorem Waits.inFront {upcoming : Descriptors} (waits : Waits footing upcoming)
    {remaining : List Outcome} (each : ∀ item ∈ remaining, Reliable footing item) :
    Reliable footing (record (inFront upcoming remaining)) ∧
      (inFront upcoming remaining).asks = true := by
  have asks : upcoming.prompting.asks = true := by rw [Descriptors.asks_prompting, waits.asks]
  rw [Outcome.inFront]
  split
  · exact ⟨waits.reliable.prompting, asks⟩
  · have asksStill := Descriptors.asks_put pendingKey
      (list (upcoming.pending ++ remaining)) asks
    refine ⟨waits.reliable.prompting.put (.of_pending fun item member => ?_) fun _ => asksStill,
      asksStill⟩
    exact (List.mem_append.1 member).elim waits.reliable.of_mem_pending (each item)

/-- Results that wait are attached to a reliable one. -/
theorem exists_advance_reliable {fields : Descriptors} (reliable : Reliable footing (record fields))
    {rest : List Descriptors} (each : ∀ waiting ∈ rest, Waits footing waiting) :
    ∃ advanced, advance (record fields) (rest.map record) = .ok advanced ∧
      IsReliable footing advanced := by
  cases rest with
  | nil => exact ⟨record fields, rfl, trivial, reliable⟩
  | cons upcoming remaining =>
      obtain ⟨waits, waitsRemaining⟩ := List.forall_mem_cons.1 each
      have waiting : ∀ item ∈ remaining.map record, Reliable footing item := by
        simpa using fun other member => (waitsRemaining other member).reliable
      cases asks : fields.asks with
      | true =>
          refine ⟨_, advance_of_asks reliable.formed asks _ _, trivial,
            reliable.put (.of_pending fun item member => ?_) fun _ =>
              Descriptors.asks_put _ _ asks⟩
          obtain own | behind := List.mem_append.1 member
          · exact reliable.of_mem_pending own
          · exact (List.mem_cons.1 behind).elim (fun same => same ▸ waits.reliable) (waiting item)
      | false =>
          obtain ⟨merged, fitting, colliding, advanced, unprompted, side⟩ :=
            exists_advance_of_silent reliable.formed reliable.paired asks waits.reliable.formed
              (remaining.map record)
          have reliableMerged : Reliable footing (record merged) :=
            side.reliable (by simpa using ⟨reliable, waits.reliable.immediate⟩) unprompted
          obtain ⟨reliableFront, asksFront⟩ := waits.inFront waiting
          exact ⟨_, advanced, trivial, reliableMerged.append reliableFront
            (fun key member => unprompted key (keys_inFront member))
            fun _ => Descriptors.asks_append asksFront⟩

/-- A question stays reliable when its answers go on to results that wait. -/
theorem Reliable.linked {inquiry : Inquiry}
    {answer : Choice → Engine Outcome}
    (reliable : Reliable footing (question inquiry answer)) {rest : List Descriptors}
    (each : ∀ waiting ∈ rest, Waits footing waiting) :
    Reliable footing (question inquiry (linked answer (rest.map record))) := by
  cases reliable with
  | prompt shown answers follow =>
      have goesOn (moment : Moment) (allowed : inquiry.Allows footing.admits moment) :
          ∃ advanced after, Outcome.linked answer (rest.map record) moment.choice moment.board
              moment.session = (.ok advanced, after) ∧ IsReliable footing advanced := by
        obtain ⟨outcome, after, ran, isRecord⟩ := answers moment allowed
        have own := follow moment allowed outcome after ran
        obtain ⟨fields, same⟩ := isRecord.exists_eq
        rw [same] at own
        obtain ⟨advanced, succeeds, isReliable⟩ := exists_advance_reliable own each
        refine ⟨advanced, after, ?_, isReliable⟩
        simp only [Outcome.linked_apply, ran, same, succeeds]
      refine .prompt shown (fun moment allowed => ?_) fun moment allowed outcome after ran => ?_
      · obtain ⟨advanced, after, ran, isReliable⟩ := goesOn moment allowed
        exact ⟨advanced, after, ran, isReliable.orNothing.isRecord⟩
      · obtain ⟨advanced, _, ranAdvanced, isReliable⟩ := goesOn moment allowed
        obtain rfl : advanced = outcome :=
          Except.ok.inj (Prod.mk.inj (ranAdvanced.symm.trans ran)).1
        exact isReliable.orNothing.reliable

theorem Waits.chained {first : Descriptors} (waits : Waits footing first) {rest : List Descriptors}
    (each : ∀ waiting ∈ rest, Waits footing waiting) :
    Reliable footing (record (chained first rest)) ∧ (chained first rest).asks = true := by
  have asks : first.prompting.asks = true := by rw [Descriptors.asks_prompting, waits.asks]
  rw [Outcome.chained]
  split
  · exact ⟨waits.reliable.prompting, asks⟩
  · split
    · rename_i inquiry answer found
      have isKey := first.askedKey_mem
      have asksStill := Descriptors.asks_put first.askedKey
        (question inquiry (linked answer (rest.map record))) asks
      have linked := (waits.reliable.question_of_lookup isKey found).linked each
      exact ⟨waits.reliable.prompting.put (.of_question isKey trivial linked) fun _ => asksStill,
        asksStill⟩
    · exact ⟨waits.reliable.prompting, asks⟩

theorem MergedInto.reliable {results : List Descriptors} {merged : Descriptors}
    (mergedInto : MergedInto results merged)
    (each : ∀ fields ∈ results, Reliable footing (record fields)) :
    Reliable footing (record merged) := by
  have formed : ∀ fields ∈ results, fields.Formed :=
    fun fields member => (each fields member).formed
  have paired : ∀ fields ∈ results, fields.Paired :=
    fun fields member => (each fields member).paired
  cases mergedInto with
  | none => exact IsReliable.nothing.reliable
  | only => exact each merged (List.mem_singleton_self _)
  | silent silent side =>
      refine side.reliable each
        (side.unprompted (fun fields member => (formed fields member).distinct)
        fun fields member => (paired fields member).unprompted (silent fields member))
  | @asking _ rest _ _ first merged asking unprompted side =>
      have waits (waiting : Descriptors) (isAsking : waiting ∈ results ∧ waiting.asks = true) :
          Waits footing waiting := ⟨each waiting isAsking.1, isAsking.2⟩
      obtain ⟨isFirst, asks⟩ := mem_of_asking asking
      have beside : ∀ fields ∈ besideFirst results first, Reliable footing (record fields) := by
        rw [besideFirst, List.forall_mem_append, List.forall_mem_singleton]
        exact ⟨fun fields member => each fields (List.mem_filter.1 member).1,
          (each first isFirst).immediate⟩
      obtain ⟨reliableChained, asksChained⟩ := (waits first ⟨isFirst, asks⟩).chained
        fun waiting member => waits waiting (mem_of_asking_rest asking member)
      exact (side.reliable beside unprompted).append reliableChained
        (fun key member => unprompted key (keys_chained member))
        fun _ => Descriptors.asks_append asksChained

end Outcome

/-- Merging reliable results succeeds. -/
theorem Succeeds.merge {footing : Footing} {results : List Outcome}
    (each : ∀ result ∈ results, IsReliable footing result) :
    Succeeds footing.admits (IsReliable footing) (Engine.orFail (merge results)) := by
  obtain ⟨records, rfl⟩ := exists_map_record fun result member => (each result member).isRecord
  have reliable : ∀ fields ∈ records, Reliable footing (record fields) :=
    fun fields member => (each _ (List.mem_map_of_mem member)).reliable
  obtain ⟨merged, succeeds, mergedInto⟩ :=
    exists_merge_eq_of_formed (fun fields member => (reliable fields member).formed)
      fun fields member => (reliable fields member).paired
  refine .orFail succeeds ⟨trivial, mergedInto.reliable fun fields member => ?_⟩
  exact reliable fields (List.mem_filter.1 member).1

end CreatureCards
