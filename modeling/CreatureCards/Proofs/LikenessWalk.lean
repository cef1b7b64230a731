import CreatureCards.OutcomeWalk
import CreatureCards.Proofs.Likeness

/-!
# Walks through outcomes that are alike

Taking outcomes apart keeps every likeness, so walks through outcomes that are alike
come equally far: they collect results that are alike, and wait for questions that
are alike.
-/

namespace CreatureCards

namespace Likeness

variable {likeness : Likeness}

section Stripping

/-- Results taken apart alike. -/
structure Strips (likeness : Likeness) (stripped other : Outcome.Stripped) : Prop where
  immediate : likeness.Fields stripped.immediate other.immediate
  prompting : likeness.Fields stripped.prompting other.prompting
  inner : List.Forall₂ likeness.Fields stripped.inner other.inner

/-- What is kept of results, and the prompting parts inside them. -/
abbrev Keeps (likeness : Likeness) (kept other : List Outcome × List Descriptors) : Prop :=
  likeness.All kept.1 other.1 ∧ List.Forall₂ likeness.Fields kept.2 other.2

theorem Strips.waiting {stripped other : Outcome.Stripped}
    (strips : likeness.Strips stripped other) :
    List.Forall₂ likeness.Fields stripped.waiting other.waiting := by
  unfold Outcome.Stripped.waiting
  rw [isEmpty_eq_of_forall₂ strips.prompting]
  split
  · exact strips.inner
  · exact .cons strips.prompting strips.inner

theorem stripData (data : Value) :
    Matched likeness.Keeps (Outcome.stripData data) (Outcome.stripData data) := by
  refine .refl fun kept taken => ?_
  unfold Outcome.stripData at taken
  split at taken
  · cases taken
    exact ⟨.nil, .nil⟩
  · split at taken
    · cases taken
      exact ⟨.nil, .nil⟩
    · cases taken
  · cases taken

mutual

theorem strip : ∀ {outcome other : Outcome}, likeness.alike outcome other →
    Matched likeness.Strips outcome.strip other.strip
  | .record fields, _, alike => by
      cases likeness.parallel alike with
      | record each =>
          rw [Outcome.strip, Outcome.strip]
          exact stripFields each
  | .value _, _, alike | .card _, _, alike | .player _, _, alike | .ref _, _, alike
  | .list _, _, alike | .question _ _, _, alike | .callback _, _, alike => by
      cases likeness.parallel alike
      simp only [Outcome.strip]
      exact .failed _

theorem stripFields : ∀ {fields others : Descriptors}, likeness.Fields fields others →
    Matched likeness.Strips (Outcome.stripFields fields) (Outcome.stripFields others)
  | [], _, .nil => by
      rw [Outcome.stripFields]
      exact .ok ⟨.nil, .nil, .nil⟩
  | (key, payload) :: rest, (name, payloadOther) :: others, .cons here later => by
      obtain rfl : key = name := likeness.key_eq here
      rw [Outcome.stripFields, Outcome.stripFields]
      refine (stripFields later).bind fun stripped other strips => ?_
      refine .ite (.ok ⟨strips.immediate, .cons here strips.prompting, strips.inner⟩) ?_
      split
      · rename_i isComposite
        subst isComposite
        have isReserved : compositeKey ∈ reservedKeys := List.mem_cons_self
        have entries := stripEntries (likeness.payload isReserved here)
        refine entries.bind fun (kept, inner) (keptOther, innerOther) entries => ?_
        refine .ok ⟨?_, strips.prompting, List.rel_append entries.2 strips.inner⟩
        dsimp only
        rw [isEmpty_eq_of_forall₂ entries.1]
        split
        · exact strips.immediate
        · exact .cons (likeness.reserved isReserved (likeness.list entries.1)) strips.immediate
      · exact .ok ⟨.cons here strips.immediate, strips.prompting, strips.inner⟩

theorem stripEntries : ∀ {payload other : Outcome}, likeness.alike payload other →
    Matched likeness.Keeps payload.stripEntries other.stripEntries
  | .list items, _, alike => by
      cases likeness.parallel alike with
      | list each =>
          rw [Outcome.stripEntries, Outcome.stripEntries]
          exact stripItems each
  | .record fields, _, alike => by
      cases likeness.parallel alike with
      | record each =>
          rw [Outcome.stripEntries, Outcome.stripEntries, isEmpty_eq_of_forall₂ each]
          exact .ite (.ok ⟨.nil, .nil⟩) (.failed _)
  | .value data, _, alike => by
      cases likeness.parallel alike with
      | value =>
          rw [Outcome.stripEntries]
          exact stripData data
  | .card _, _, alike | .player _, _, alike | .ref _, _, alike | .question _ _, _, alike
  | .callback _, _, alike => by
      cases likeness.parallel alike
      simp only [Outcome.stripEntries]
      exact .failed _

theorem stripItems : ∀ {items others : List Outcome}, likeness.All items others →
    Matched likeness.Keeps (Outcome.stripItems items) (Outcome.stripItems others)
  | [], _, .nil => by
      rw [Outcome.stripItems]
      exact .ok ⟨.nil, .nil⟩
  | item :: rest, _ :: _, .cons here later => by
      rw [Outcome.stripItems, Outcome.stripItems]
      refine (strip here).bind fun stripped other strips => ?_
      refine (stripItems later).bind fun (kept, inner) (keptOther, innerOther) entries => ?_
      refine .ok ⟨?_, List.rel_append strips.waiting entries.2⟩
      dsimp only
      rw [isEmpty_eq_of_forall₂ strips.immediate]
      split
      · exact entries.1
      · exact .cons (likeness.record strips.immediate) entries.1

end

theorem upcoming {prompt other : Descriptors} (alike : likeness.Fields prompt other) :
    Matched likeness.All (Outcome.upcoming prompt) (Outcome.upcoming other) := by
  have isReserved {key : String} (isKey : key ∈ questionKeys) : key ∈ reservedKeys :=
    mem_reservedKeys (List.mem_append_left _ isKey)
  have questions : likeness.All (questionKeys.filterMap fun key => prompt.lookup key)
      (questionKeys.filterMap fun key => other.lookup key) := by
    have each :
        List.Forall₂ (fun key name => key = name ∧ key ∈ questionKeys) questionKeys questionKeys :=
      List.forall₂_same.2 fun key member => ⟨rfl, member⟩
    refine List.rel_filterMap ?_ each
    rintro key _ ⟨rfl, member⟩
    exact lookup alike (isReserved member)
  have found := lookup alike pendingKey_mem
  unfold Outcome.upcoming
  generalize prompt.lookup pendingKey = payload at found ⊢
  generalize other.lookup pendingKey = counterpart at found ⊢
  cases found with
  | none => exact .ok questions
  | some same =>
      exact (elements same).bind fun _ _ waiting => .ok (List.rel_append questions waiting)

theorem upcomingAll {parts others : List Descriptors}
    (alike : List.Forall₂ likeness.Fields parts others) :
    Matched likeness.All (Outcome.upcomingAll parts) (Outcome.upcomingAll others) := by
  induction alike with
  | nil => exact .ok .nil
  | cons here later ih =>
      rw [Outcome.upcomingAll, Outcome.upcomingAll]
      exact (upcoming here).bind fun _ _ first => ih.bind fun _ _ rest =>
        .ok (List.rel_append first rest)

theorem question? {outcome other : Outcome} (alike : likeness.alike outcome other) :
    Option.Rel likeness.asked outcome.question? other.question? := by
  cases likeness.parallel alike with
  | question same => exact .some same
  | value | card | player | ref | list | record | callback => exact .none

end Stripping

/-- The walks have come equally far. -/
structure Walks (likeness : Likeness) (walk other : Walk) : Prop where
  applied : likeness.All walk.applied other.applied
  queue : likeness.All walk.queue other.queue
  current : Option.Rel likeness.asked walk.current other.current

/-- The walks have come equally far, and both broke off in the same way if at all. -/
structure Takes (likeness : Likeness) (taken other : Walk × Option Failure) : Prop where
  walk : likeness.Walks taken.1 other.1
  failure : other.2 = taken.2

namespace Walks

variable {walk other : Walk}

theorem absorb (walks : likeness.Walks walk other) {outcome counterpart : Outcome}
    (alike : likeness.alike outcome counterpart) :
    likeness.Takes (walk.absorb outcome) (other.absorb counterpart) := by
  have parts := strip alike
  unfold Walk.absorb
  generalize outcome.strip = stripped at parts ⊢
  generalize counterpart.strip = strippedOther at parts ⊢
  cases parts with
  | failed failure => exact ⟨walks, rfl⟩
  | @ok stripped strippedOther strips =>
      have collected : likeness.All
          (if stripped.immediate.isEmpty then walk.applied
            else walk.applied ++ [.record stripped.immediate])
          (if strippedOther.immediate.isEmpty then other.applied
            else other.applied ++ [.record strippedOther.immediate]) := by
        rw [isEmpty_eq_of_forall₂ strips.immediate]
        split
        · exact walks.applied
        · exact List.rel_append walks.applied (.cons (likeness.record strips.immediate) .nil)
      have found := upcomingAll strips.waiting
      dsimp only
      generalize Outcome.upcomingAll stripped.waiting = items at found ⊢
      generalize Outcome.upcomingAll strippedOther.waiting = itemsOther at found ⊢
      cases found with
      | failed failure => exact ⟨⟨collected, walks.queue, walks.current⟩, rfl⟩
      | ok areAlike => exact ⟨⟨collected, List.rel_append areAlike walks.queue, walks.current⟩, rfl⟩

theorem settle : ∀ {walk other : Walk}, likeness.Walks walk other →
    likeness.Takes walk.settle other.settle
  | ⟨_, _, some _⟩, ⟨_, _, _⟩, ⟨applied, queue, .some same⟩ => by
      rw [Walk.settle, Walk.settle]
      exact ⟨⟨applied, queue, .some same⟩, rfl⟩
  | ⟨_, [], none⟩, ⟨_, _, _⟩, ⟨applied, .nil, .none⟩ => by
      rw [Walk.settle, Walk.settle]
      exact ⟨⟨applied, .nil, .none⟩, rfl⟩
  | ⟨walked, item :: rest, none⟩, ⟨walkedOther, itemOther :: restOther, _⟩,
      ⟨applied, .cons here later, .none⟩ => by
      have asked := question? here
      have absorbs := absorb (⟨applied, later, .none⟩ :
        likeness.Walks ⟨walked, rest, none⟩ ⟨walkedOther, restOther, none⟩) here
      rw [Walk.settle, Walk.settle]
      dsimp only
      generalize item.question? = question at asked ⊢
      generalize itemOther.question? = questionOther at asked ⊢
      cases asked with
      | some same => exact ⟨⟨applied, later, .some same⟩, rfl⟩
      | none =>
          dsimp only
          split
          · rename_i next failure absorbed
            rw [absorbed] at absorbs
            split
            · rename_i nextOther failureOther absorbedOther
              rw [absorbedOther] at absorbs
              exact ⟨absorbs.walk, absorbs.failure⟩
            · rename_i nextOther absorbedOther
              rw [absorbedOther] at absorbs
              cases absorbs.failure
          · rename_i next absorbed
            rw [absorbed] at absorbs
            split
            · rename_i nextOther failureOther absorbedOther
              rw [absorbedOther] at absorbs
              cases absorbs.failure
            · rename_i nextOther absorbedOther
              rw [absorbedOther] at absorbs
              have smaller :
                  Outcome.weightItems next.queue < Outcome.weightItems (item :: rest) := by
                rw [Outcome.weightItems]
                exact Walk.weight_absorb absorbed
              exact settle absorbs.walk
termination_by walk => Outcome.weightItems walk.queue

theorem take (walks : likeness.Walks walk other) {outcome counterpart : Outcome}
    (alike : likeness.alike outcome counterpart) :
    likeness.Takes (walk.take outcome) (other.take counterpart) := by
  have absorbs := walks.absorb alike
  unfold Walk.take
  generalize walk.absorb outcome = absorbed at absorbs ⊢
  generalize other.absorb counterpart = absorbedOther at absorbs ⊢
  obtain ⟨next, failure⟩ := absorbed
  obtain ⟨nextOther, failureOther⟩ := absorbedOther
  obtain rfl : failureOther = failure := absorbs.failure
  cases failureOther with
  | some failure => exact absorbs
  | none => exact absorbs.walk.settle

/-- What an answer added to what can be applied. -/
theorem added (walks : likeness.Walks walk other) {earlier earlierOther : List Outcome}
    (areAlike : likeness.All earlier earlierOther) :
    Matched likeness.alike
      ((Outcome.combine (walk.applied.drop earlier.length)).map .record)
      ((Outcome.combine (other.applied.drop earlierOther.length)).map .record) := by
  have dropped : likeness.All (walk.applied.drop earlier.length)
      (other.applied.drop earlierOther.length) := by
    rw [areAlike.length_eq]
    exact List.forall₂_drop _ walks.applied
  exact (combine dropped).map fun _ _ fields => likeness.record fields

/-- Walks that have come equally far are answered alike, and the sessions compare
afterwards if they do after the answers to questions that are alike. -/
theorem answered (walks : likeness.Walks walk other) (compares : Session → Session → Prop)
    {choice choiceOther : Choice} {board boardOther : Board} {session counterpart : Session}
    (sessions : compares session counterpart)
    (answers : ∀ question questionOther : Question, likeness.asked question questionOther →
      let ran := question.answer choice board session
      let ranOther := questionOther.answer choiceOther boardOther counterpart
      Matched likeness.alike ran.1 ranOther.1 ∧ compares ran.2 ranOther.2) :
    let submitted := walk.submit choice board session
    let submittedOther := other.submit choiceOther boardOther counterpart
    (Matched likeness.alike submitted.1.1 submittedOther.1.1 ∧
      compares submitted.2 submittedOther.2) ∧
      likeness.Walks submitted.1.2 submittedOther.1.2 := by
  obtain ⟨applied, queue, current⟩ := walk
  obtain ⟨appliedOther, queueOther, currentOther⟩ := other
  obtain ⟨areApplied, areQueued, current⟩ := walks
  unfold Walk.submit
  cases current with
  | none => exact ⟨⟨.failed _, sessions⟩, areApplied, areQueued, .none⟩
  | @some question questionOther same =>
      have opened : likeness.Walks ⟨applied, queue, none⟩ ⟨appliedOther, queueOther, none⟩ :=
        ⟨areApplied, areQueued, .none⟩
      have come := answers question questionOther same
      dsimp only at come ⊢
      generalize question.answer choice board session = ran at come ⊢
      generalize questionOther.answer choiceOther boardOther counterpart = ranOther at come ⊢
      obtain ⟨result, after⟩ := ran
      obtain ⟨resultOther, afterOther⟩ := ranOther
      obtain ⟨results, later⟩ := come
      cases results with
      | failed failure => exact ⟨⟨.failed failure, later⟩, opened⟩
      | @ok outcome outcomeOther isAlike =>
          have taken := opened.take (orNothing isAlike)
          unfold Walk.reply
          dsimp only
          generalize Walk.take ⟨applied, queue, none⟩ outcome.orNothing = taking at taken ⊢
          generalize Walk.take ⟨appliedOther, queueOther, none⟩ outcomeOther.orNothing = takingOther
            at taken ⊢
          obtain ⟨next, failure⟩ := taking
          obtain ⟨nextOther, failureOther⟩ := takingOther
          obtain rfl : failureOther = failure := taken.failure
          cases failureOther with
          | some failure => exact ⟨⟨.failed failure, later⟩, taken.walk⟩
          | none => exact ⟨⟨taken.walk.added areApplied, later⟩, taken.walk⟩

end Walks

/-- Walks through outcomes that are alike start alike. -/
theorem walks_start {outcome other : Outcome} (alike : likeness.alike outcome other) :
    Matched likeness.Walks (Walk.start outcome) (Walk.start other) := by
  have nowhere : likeness.Walks {} {} := ⟨.nil, .nil, .none⟩
  have taken := nowhere.take (orNothing alike)
  unfold Walk.start
  generalize ({} : Walk).take outcome.orNothing = taking at taken ⊢
  generalize ({} : Walk).take other.orNothing = takingOther at taken ⊢
  obtain ⟨walk, failure⟩ := taking
  obtain ⟨walkOther, failureOther⟩ := takingOther
  obtain rfl : failureOther = failure := taken.failure
  cases failureOther with
  | some failure => exact .failed failure
  | none => exact .ok taken.walk

end Likeness

end CreatureCards
