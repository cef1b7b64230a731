import CreatureCards.OutcomeWalk
import CreatureCards.Proofs.WithinMerge

/-!
# Walks within bounds

A walk shares what its outcome may ask between the open question and what waits.
Every answer uses up one question at least, and on admitted boards it keeps to the
conduct.
-/

namespace CreatureCards

variable {conduct : Conduct}

namespace Outcome

section Stripping

variable {here later bound : ℕ∞}

/-- The prompting parts of a result taken apart share the bound. -/
def Stripped.Within (conduct : Conduct) (bound : ℕ∞) (stripped : Stripped) : Prop :=
  ∃ here later, here + later ≤ bound ∧ Outcome.Within conduct here (.record stripped.prompting) ∧
    Outcome.Within conduct later (.list (stripped.inner.map record))

theorem Stripped.Within.waiting {stripped : Stripped} (within : stripped.Within conduct bound) :
    Outcome.Within conduct bound (.list (stripped.waiting.map record)) := by
  obtain ⟨here, later, total, prompting, inner⟩ := within
  unfold Stripped.waiting
  split
  · exact inner.mono (le_add_self.trans total)
  · exact .cons prompting inner total

mutual

theorem Within.strip : ∀ {outcome : Outcome} {bound : ℕ∞}, Within conduct bound outcome →
    ∀ {stripped : Stripped}, outcome.strip = .ok stripped → stripped.Within conduct bound
  | .record fields, _, within, stripped, taken => by
      rw [Outcome.strip] at taken
      exact Within.stripFields within taken
  | .value _, _, _, _, taken | .card _, _, _, _, taken | .player _, _, _, _, taken
  | .ref _, _, _, _, taken | .list _, _, _, _, taken | .question _ _, _, _, _, taken
  | .callback _, _, _, _, taken => by
      simp [Outcome.strip] at taken

theorem Within.stripFields : ∀ {fields : Descriptors} {bound : ℕ∞},
    Within conduct bound (.record fields) →
    ∀ {stripped : Stripped}, Outcome.stripFields fields = .ok stripped →
      stripped.Within conduct bound
  | [], _, _, _, taken => by
      rw [Outcome.stripFields] at taken
      cases taken
      exact ⟨0, 0, by simp, .empty, .nil⟩
  | (key, payload) :: rest, bound, within, _, taken => by
      rw [Outcome.stripFields] at taken
      obtain ⟨stripped, isStripped, goesOn⟩ := bind_eq_ok.1 taken
      obtain ⟨ahead, behind, total, first, others⟩ := within.exists_field
      obtain ⟨here, later, split, prompting, inner⟩ := Within.stripFields others isStripped
      have whole : ahead + (here + later) ≤ bound := (add_le_add_right split ahead).trans total
      split at goesOn
      · cases goesOn
        exact ⟨ahead + here, later, by rwa [add_assoc], .field first prompting le_rfl, inner⟩
      · split at goesOn
        · obtain ⟨⟨kept, parts⟩, areKept, same⟩ := bind_eq_ok.1 goesOn
          cases same
          refine ⟨here, ahead + later, by rwa [add_left_comm], prompting, ?_⟩
          rw [List.map_append]
          exact (Within.stripEntries first areKept).append inner
        · cases goesOn
          exact ⟨here, later, le_add_self.trans whole, prompting, inner⟩

theorem Within.stripEntries : ∀ {payload : Outcome} {bound : ℕ∞}, Within conduct bound payload →
    ∀ {kept : List Outcome} {inner : List Descriptors},
      Outcome.stripEntries payload = .ok (kept, inner) →
        Within conduct bound (.list (inner.map record))
  | .list items, _, within, _, _, taken => by
      rw [Outcome.stripEntries] at taken
      exact Within.stripItems within taken
  | .record fields, _, _, _, _, taken => by
      rw [Outcome.stripEntries] at taken
      split at taken
      · cases taken
        exact .nil
      · cases taken
  | .value data, _, _, _, _, taken => by
      rw [Outcome.stripEntries] at taken
      unfold stripData at taken
      split at taken
      · cases taken
        exact .nil
      · split at taken
        · cases taken
          exact .nil
        · cases taken
      · cases taken
  | .card _, _, _, _, _, taken | .player _, _, _, _, _, taken | .ref _, _, _, _, _, taken
  | .question _ _, _, _, _, _, taken | .callback _, _, _, _, _, taken => by
      simp [Outcome.stripEntries] at taken

theorem Within.stripItems : ∀ {items : List Outcome} {bound : ℕ∞},
    Within conduct bound (.list items) → ∀ {kept : List Outcome} {inner : List Descriptors},
      Outcome.stripItems items = .ok (kept, inner) → Within conduct bound (.list (inner.map record))
  | [], _, _, _, _, taken => by
      rw [Outcome.stripItems] at taken
      cases taken
      exact .nil
  | item :: rest, _, within, _, _, taken => by
      rw [Outcome.stripItems] at taken
      obtain ⟨here, later, total, first, others⟩ := within.exists_cons
      obtain ⟨stripped, isStripped, goesOn⟩ := bind_eq_ok.1 taken
      obtain ⟨⟨kept, inner⟩, areKept, same⟩ := bind_eq_ok.1 goesOn
      cases same
      rw [List.map_append]
      exact ((Within.strip first isStripped).waiting.append (Within.stripItems others areKept)).mono
        total

end

/-- What different keys are looked up as and the rest share the bound. -/
theorem Within.exists_lookups {fields : Descriptors}
    (within : Within conduct bound (.record fields)) {keys : List String} (distinct : keys.Nodup) :
    ∃ here later, here + later ≤ bound ∧
      Within conduct here (.list (keys.filterMap fun key => fields.lookup key)) ∧
      Within conduct later (.record (fields.filter fun field => !keys.contains field.1)) := by
  induction keys with
  | nil => exact ⟨0, bound, by simp, .nil, within.sublist List.filter_sublist⟩
  | cons key rest ih =>
      obtain ⟨fresh, others⟩ := List.nodup_cons.1 distinct
      obtain ⟨here, later, total, looked, left⟩ := ih others
      have fewer : ((fields.filter fun field => !rest.contains field.1).filter
          fun field => field.1 != key) =
            fields.filter fun field => !(key :: rest).contains field.1 := by
        rw [List.filter_filter]
        refine List.filter_congr fun field _ => ?_
        by_cases same : field.1 = key <;> simp [same]
      have kept := KeyedList.lookup_filter (fun name => !rest.contains name) fields key
      rw [if_pos (by simpa using fresh)] at kept
      rw [← fewer]
      cases found : fields.lookup key with
      | none =>
          refine ⟨here, later, total, ?_, left.sublist List.filter_sublist⟩
          simpa only [List.filterMap_cons, found] using looked
      | some payload =>
          obtain ⟨ahead, behind, split, first, without⟩ := left.exists_lookup (kept.trans found)
          refine ⟨ahead + here, behind, ?_, ?_,
            without.sublist (KeyedList.filter_sublist_without _ _)⟩
          · rw [add_comm ahead, add_assoc]
            exact (add_le_add_right split here).trans total
          · simp only [List.filterMap_cons, found]
            exact .cons first looked le_rfl

theorem Within.upcoming {prompt : Descriptors} (within : Within conduct bound (.record prompt))
    {items : List Outcome} (found : Outcome.upcoming prompt = .ok items) :
    Within conduct bound (.list items) := by
  have apart : questionKeys.Nodup := by decide
  obtain ⟨here, later, total, questions, left⟩ := within.exists_lookups apart
  unfold Outcome.upcoming at found
  dsimp only at found
  split at found
  · rename_i payload isPending
    obtain ⟨waiting, isWaiting, same⟩ := bind_eq_ok.1 found
    cases same
    have kept := KeyedList.lookup_filter (fun name => !questionKeys.contains name) prompt pendingKey
    obtain ⟨ahead, behind, split, isPayload, -⟩ := left.exists_lookup (kept.trans isPending)
    exact (questions.append (isPayload.elements isWaiting)).mono
      ((add_le_add_right (le_self_add.trans split) here).trans total)
  · cases found
    exact questions.mono (le_self_add.trans total)

theorem within_upcomingAll {parts : List Descriptors}
    (within : Within conduct bound (.list (parts.map record))) {items : List Outcome}
    (found : Outcome.upcomingAll parts = .ok items) : Within conduct bound (.list items) := by
  induction parts generalizing items bound with
  | nil =>
      cases found
      exact .nil
  | cons part rest ih =>
      obtain ⟨here, later, total, isPart, isRest⟩ := within.exists_cons
      rw [Outcome.upcomingAll] at found
      obtain ⟨first, isFirst, goesOn⟩ := bind_eq_ok.1 found
      obtain ⟨others, areOthers, same⟩ := bind_eq_ok.1 goesOn
      cases same
      exact ((isPart.upcoming isFirst).append (ih isRest areOthers)).mono total

end Stripping

end Outcome

namespace Walk

variable {bound other : ℕ∞}

/-- The open question and what waits share the bound. -/
def Within (conduct : Conduct) (bound : ℕ∞) (walk : Walk) : Prop :=
  ∃ here later, here + later ≤ bound ∧
    (∀ question, walk.current = some question →
      Outcome.Within conduct here (.question question.inquiry question.answer)) ∧
    Outcome.Within conduct later (.list walk.queue)

theorem Within.mono {walk : Walk} (within : walk.Within conduct bound) (le : bound ≤ other) :
    walk.Within conduct other := by
  obtain ⟨here, later, total, parts⟩ := within
  exact ⟨here, later, total.trans le, parts⟩

theorem Within.one_le {walk : Walk} (within : walk.Within conduct bound) {question : Question}
    (asked : walk.current = some question) : 1 ≤ bound := by
  obtain ⟨here, later, total, current, -⟩ := within
  obtain ⟨after, less, -⟩ := (current question asked).exists_answer
  exact le_add_self.trans (less.trans (le_self_add.trans total))

theorem Within.absorb {walk : Walk} (within : walk.Within conduct bound) {outcome : Outcome}
    (isOutcome : Outcome.Within conduct other outcome) :
    (walk.absorb outcome).1.Within conduct (bound + other) := by
  obtain ⟨here, later, total, current, queue⟩ := within
  have unchanged : here + later ≤ bound + other := total.trans le_self_add
  unfold Walk.absorb
  split
  · exact ⟨here, later, unchanged, current, queue⟩
  · rename_i stripped isStripped
    dsimp only
    split
    · exact ⟨here, later, unchanged, current, queue⟩
    · rename_i items found
      refine ⟨here, other + later, ?_, current,
        (Outcome.within_upcomingAll (isOutcome.strip isStripped).waiting found).append queue⟩
      rw [add_comm other, ← add_assoc]
      exact add_le_add_left total other

/-- Taking the first of what waits leaves the rest behind. -/
theorem Within.exists_behind {walk : Walk} (within : walk.Within conduct bound)
    (unasked : walk.current = none) {item : Outcome} {rest : List Outcome}
    (stored : walk.queue = item :: rest) :
    ∃ here later, here + later ≤ bound ∧ Outcome.Within conduct here item ∧
      Outcome.Within conduct later (.list rest) ∧
      ({ walk with queue := rest } : Walk).Within conduct later := by
  obtain ⟨ahead, behind, total, -, queue⟩ := within
  rw [stored] at queue
  obtain ⟨here, later, split, first, others⟩ := queue.exists_cons
  refine ⟨here, later, split.trans (le_add_self.trans total), first, others, 0, later, by simp,
    ?_, others⟩
  intro question asked
  rw [unasked] at asked
  cases asked

theorem Within.settle {walk : Walk} (within : walk.Within conduct bound) :
    walk.settle.1.Within conduct bound := by
  fun_induction Walk.settle walk with
  | case1 walk question asked => exact within
  | case2 walk unasked empty => exact within
  | case3 walk unasked item rest stored question isQuestion =>
      obtain ⟨here, later, total, first, others, -⟩ := within.exists_behind unasked stored
      refine ⟨here, later, total, ?_, others⟩
      rintro _ ⟨⟩
      cases item <;> cases isQuestion
      exact first
  | case4 walk unasked item rest stored notQuestion next failure absorbed =>
      obtain ⟨here, later, total, first, -, behind⟩ := within.exists_behind unasked stored
      have absorbs := behind.absorb first
      rw [absorbed] at absorbs
      exact absorbs.mono (by rwa [add_comm])
  | case5 walk unasked item rest stored notQuestion next absorbed smaller ih =>
      obtain ⟨here, later, total, first, -, behind⟩ := within.exists_behind unasked stored
      have absorbs := behind.absorb first
      rw [absorbed] at absorbs
      exact ih (absorbs.mono (by rwa [add_comm]))

theorem Within.take {walk : Walk} (within : walk.Within conduct bound) {outcome : Outcome}
    (isOutcome : Outcome.Within conduct other outcome) :
    (walk.take outcome).1.Within conduct (bound + other) := by
  have absorbs := within.absorb isOutcome
  unfold Walk.take
  rcases absorbed : walk.absorb outcome with ⟨next, _ | failure⟩
  · rw [absorbed] at absorbs
    exact absorbs.settle
  · rw [absorbed] at absorbs
    exact absorbs

theorem within_start {outcome : Outcome} (isOutcome : Outcome.Within conduct bound outcome)
    {walk : Walk} (started : start outcome = .ok walk) : walk.Within conduct bound := by
  have empty : ({} : Walk).Within conduct 0 := ⟨0, 0, by simp, nofun, .nil⟩
  have taken := empty.take isOutcome.orNothing
  unfold start at started
  rcases isTaken : ({} : Walk).take outcome.orNothing with ⟨next, _ | failure⟩
  · rw [isTaken] at started taken
    cases started
    exact taken.mono (zero_add bound).le
  · rw [isTaken] at started
    cases started

/-- Whatever an answer came to within a bound, taking it in leaves the walk within the
bound of what waits and of what the answer may ask. -/
theorem Within.reply {walk : Walk} {later after : ℕ∞}
    (opened : ({ walk with current := none } : Walk).Within conduct later)
    {answered : Except Failure Outcome}
    (isOutcome : ∀ outcome, answered = .ok outcome → outcome.Within conduct after) :
    (walk.reply answered).2.Within conduct (later + after) := by
  cases answered with
  | error failure => exact opened.mono le_self_add
  | ok outcome =>
      have taken := opened.take (isOutcome outcome rfl).orNothing
      unfold Walk.reply
      dsimp only
      split
      all_goals
        rename_i next isTaken
        rwa [isTaken] at taken

/-- Taking an answer in breaks off as the answer did, or because it came to something
without the shape of a result. -/
theorem fails_reply {walk : Walk} {answered : Except Failure Outcome}
    (breaks : ∀ failure, answered = .error failure → conduct.fails failure) {failure : Failure}
    (failed : (walk.reply answered).1 = .error failure) : conduct.fails failure := by
  cases answered with
  | error failure =>
      cases failed
      exact breaks failure rfl
  | ok outcome =>
      unfold reply at failed
      dsimp only at failed
      split at failed
      · rename_i next fault isTaken
        cases failed
        exact conduct.fails_other
          (isShapeFault_of_take (congrArg Prod.snd isTaken)).ne_endlessReaction
      · exact conduct.fails_other
          ((Outcome.shapely_combine _).map _ _ failed).ne_endlessReaction

/-- A walk whose question is taken away, and what an answer comes to, together ask less. -/
theorem Within.exists_opened {walk : Walk} (within : walk.Within conduct bound)
    {question : Question} (asked : walk.current = some question) :
    ∃ left after, left + after + 1 ≤ bound ∧
      ({ walk with current := none } : Walk).Within conduct left ∧
      ∀ choice, conduct.Keeps (Outcome.Within conduct after) (question.answer choice) := by
  obtain ⟨here, left, total, current, queue⟩ := within
  obtain ⟨after, less, answers⟩ := (current question asked).exists_answer
  have whole : left + after + 1 ≤ bound := by
    rw [add_assoc, add_comm left]
    exact (add_le_add_left less left).trans total
  exact ⟨left, after, whole, ⟨0, left, by simp, nofun, queue⟩, answers⟩

/-- An answer on an admitted board keeps to the conduct, and leaves a walk that
asks less. -/
theorem Within.exists_submit {walk : Walk} (within : walk.Within conduct bound)
    {question : Question} (asked : walk.current = some question) (choice : Choice) {board : Board}
    (admitted : conduct.admits board) (session : Session) :
    ∃ after, after + 1 ≤ bound ∧ (walk.submit choice board session).1.2.Within conduct after ∧
      conduct.leaves session (walk.submit choice board session).2 ∧
      ∀ failure, (walk.submit choice board session).1.1 = .error failure →
        conduct.fails failure := by
  obtain ⟨left, after, less, opened, answers⟩ := within.exists_opened asked
  have keeps := answers choice
  have isOutcome (outcome : Outcome)
      (came : (question.answer choice board session).1 = .ok outcome) :
      outcome.Within conduct after := keeps.good_of_ok admitted (Prod.ext came rfl)
  rw [submit, asked]
  exact ⟨left + after, less, opened.reply isOutcome, keeps.leaves admitted session,
    fun failure => fails_reply fun _ failed => keeps.fails admitted failed⟩

/-- A walk that is answered in a game keeps to the conduct, and to its bound. -/
theorem Within.answering {walk : Walk} (within : walk.Within conduct bound) (choice : Choice) :
    conduct.Keeps (fun answered => answered.2.Within conduct bound) (walk.answering choice) := by
  unfold Walk.answering
  split
  · exact .pure within
  · rename_i question asked
    obtain ⟨left, after, less, opened, answers⟩ := within.exists_opened asked
    refine (answers choice).attempted.bind fun answered isOutcome => .pure ?_
    exact (opened.reply isOutcome).mono (le_self_add.trans less)

theorem Within.answeringAll {walk : Walk} (within : walk.Within conduct bound)
    (choices : List Choice) :
    conduct.Keeps (fun next => next.Within conduct bound) (walk.answeringAll choices) := by
  induction choices generalizing walk with
  | nil => exact .pure within
  | cons choice rest ih => exact (within.answering choice).bind fun _ goesOn => ih goesOn

/-- Answering in a game does what answering does on a board that stays as it is. -/
theorem answering_apply (walk : Walk) (choice : Choice) (board : Board) (session : Session) :
    walk.answering choice board session =
      (.ok (walk.submit choice board session).1, (walk.submit choice board session).2) := by
  unfold answering submit
  cases walk.current with
  | none => rfl
  | some question =>
      dsimp only
      rw [Engine.bind_apply, Engine.attempt_apply]
      rfl

/-- Whatever is answered on an admitted board, the walk stays within its bound. -/
theorem Within.submit {walk : Walk} (within : walk.Within conduct bound) (choice : Choice)
    {board : Board} (admitted : conduct.admits board) (session : Session) :
    (walk.submit choice board session).1.2.Within conduct bound ∧
      conduct.leaves session (walk.submit choice board session).2 := by
  have answered := answering_apply walk choice board session
  have keeps := within.answering choice
  have left := keeps.leaves admitted session
  rw [answered] at left
  exact ⟨keeps.good_of_ok admitted answered, left⟩

end Walk

end CreatureCards
