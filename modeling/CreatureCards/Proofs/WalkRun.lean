import CreatureCards.Proofs.Combining
import CreatureCards.Proofs.WalkVisit

/-!
# Runs of walks

A run answers the questions of a walk in given moments, until the walk is over,
an answer fails, or no moment is left.  What is seen of it between two answers
are the stages of the visit of the result: the walk never shows in which order
it keeps its questions in store.

On the way everything that was collected can be applied, and an answer reports
exactly the descriptors that it added.
-/

namespace CreatureCards

namespace Outcome

def ownLeaves (field : String × Outcome) : Leaves :=
  if field.1 = compositeKey then leavesKept field.2 else {field}

theorem leavesFields_eq_sum (fields : Descriptors) :
    leavesFields fields = (fields.map ownLeaves).sum := by
  induction fields with
  | nil => rfl
  | cons field rest ih =>
      rw [leavesFields, ih]
      rfl

theorem counts_leaves : Counts ownLeaves leaves where
  record fields _ := by
    rw [leaves]
    exact leavesFields_eq_sum fields
  kept items := by
    rw [ownLeaves, if_pos rfl, leavesKept_eq_sum, items_list]

theorem Bare.isRecord {outcome : Outcome} (bare : Bare outcome) : outcome.IsRecord := by
  cases bare
  trivial

/-- Records that can be applied can be combined, which loses none of their
descriptors. -/
theorem exists_combine_bare {parts : List Outcome} (bare : ∀ part ∈ parts, Bare part) :
    ∃ merged, combine parts = .ok merged ∧
      leaves (record merged) = (parts.map leaves).sum := by
  obtain ⟨results, rfl⟩ := exists_map_record fun part member => (bare part member).isRecord
  have bareFields : ∀ fields ∈ results, Bare (record fields) :=
    fun fields member => bare _ (List.mem_map.2 ⟨fields, member, rfl⟩)
  have each : ∀ fields ∈ results, (KeyedList.keys fields).Nodup := by
    intro fields member
    cases bareFields fields member
    assumption
  have lists : ∀ fields ∈ results, ∀ payload, fields.lookup compositeKey = some payload →
      payload.IsList := by
    intro fields member payload found
    cases bareFields fields member with
    | record _ _ _ lists _ => exact lists payload (KeyedList.mem_of_lookup found)
  obtain ⟨merged, fitting, colliding, combined, side⟩ := exists_combine_eq each lists
  refine ⟨merged, combined, ?_⟩
  rw [side.total_eq counts_leaves each lists, List.map_map]
  rfl

end Outcome

namespace Walk

open Outcome

/-- Taking a result visits it, and then what is in store, up to the next
question. -/
theorem exists_take_eq {walk : Walk} (sound : walk.Sound) (unasked : walk.current = none)
    {outcome : Outcome} (result : IsResult outcome) :
    ∃ next, walk.take outcome = (next, none) ∧
      walk.Performs ((visit outcome).andThen (.inTurn (walk.queue.map visit))) next := by
  obtain ⟨middle, absorbed, middleSound, same, applied, play⟩ := exists_absorb_eq sound result
  obtain ⟨next, settled, performs⟩ :=
    exists_settle_eq middle middleSound (same.trans unasked)
  refine ⟨next, by rw [take, absorbed]; exact settled, ?_⟩
  have whole : walk.Performs _ next := performs.bring applied
  rwa [play, ← Play.bring_andThen] at whole

theorem exists_start_eq {outcome : Outcome} (result : IsResult outcome) :
    ∃ walk, start outcome = .ok walk ∧ ({} : Walk).Performs (visit outcome) walk := by
  have empty : ({} : Walk).Sound :=
    ⟨(fun _ member => nomatch member), (fun _ member => nomatch member),
      (fun _ asked => nomatch asked)⟩
  obtain ⟨walk, taken, performs⟩ := exists_take_eq empty rfl result.orNothing
  refine ⟨walk, by rw [start, taken], ?_⟩
  simpa [visit_orNothing] using performs

theorem ahead_eq_asks {walk : Walk} {question : Question} (asked : walk.current = some question) :
    walk.ahead = .asks 0 question.inquiry
      (fun moment => (question.answer moment.choice moment.board moment.session).2)
      fun moment =>
        (visitAnswer (question.answer moment.choice moment.board moment.session)).andThen
          (.inTurn (walk.queue.map visit)) := by
  rw [ahead, asked]
  change (questions (.question question.inquiry question.answer)).andThen _ = _
  rw [questions_question]
  rfl

theorem ahead_eq_skip {walk : Walk} (settled : walk.Settled) (unasked : walk.current = none) :
    walk.ahead = .skip := by
  rw [ahead, unasked, settled unasked]
  rfl

theorem submit_of_error {walk : Walk} {question : Question} (asked : walk.current = some question)
    {choice : Choice} {board : Board} {session after : Session} {failure : Failure}
    (answered : question.answer choice board session = (.error failure, after)) :
    walk.submit choice board session =
      ((.error failure, { walk with current := none }), after) := by
  simp only [submit, asked, answered, reply]

/-- An answer that comes to a result goes on to the next question, and reports
the descriptors that it added. -/
theorem exists_submit_eq {walk : Walk} (sound : walk.Sound) {question : Question}
    (asked : walk.current = some question) {choice : Choice} {board : Board}
    {session after : Session} {outcome : Outcome}
    (answered : question.answer choice board session = (.ok outcome, after)) :
    ∃ produced next added, walk.submit choice board session = ((.ok produced, next), after) ∧
      next.Sound ∧ next.Settled ∧
      next.applied = walk.applied ++ FreeAddMonoid.toList added ∧
      (visit outcome).andThen (.inTurn (walk.queue.map visit)) = next.ahead.bring added ∧
      leaves produced = leavesOf added := by
  have opened : ({ walk with current := none } : Walk).Sound :=
    ⟨sound.applied, sound.queue, fun _ asked => nomatch asked⟩
  have result : IsResult outcome.orNothing :=
    (sound.current question asked).isResult_of_answer answered
  obtain ⟨next, taken, nextSound, settled, added, applied, play⟩ :=
    exists_take_eq opened rfl result
  -- What was added is combined once more for the report.
  have bare : ∀ part ∈ FreeAddMonoid.toList added, Bare part := fun part member =>
    nextSound.applied part (by rw [applied]; exact List.mem_append_right _ member)
  obtain ⟨merged, combined, leavesMerged⟩ := exists_combine_bare bare
  refine ⟨.record merged, next, added, ?_, nextSound, settled, applied, ?_, ?_⟩
  · have added : next.applied.drop walk.applied.length = FreeAddMonoid.toList added := by
      rw [applied]
      exact List.drop_left
    simp only [submit, asked, answered, reply, taken, added, combined]
    rfl
  · rwa [visit_orNothing] at play
  · rw [leavesMerged, leavesOf_eq_sum]

/-- Whatever is answered, what a walk has collected can be applied, and what it
has in store are results and questions that lead to results. -/
theorem Sound.submit {walk : Walk} (sound : walk.Sound) (choice : Choice) (board : Board)
    (session : Session) : (walk.submit choice board session).1.2.Sound := by
  cases asked : walk.current with
  | none => simpa only [Walk.submit, asked] using sound
  | some question =>
      rcases answered : question.answer choice board session with ⟨failure | outcome, after⟩
      · rw [submit_of_error asked answered]
        exact ⟨sound.applied, sound.queue, fun _ asked => nomatch asked⟩
      · obtain ⟨produced, next, added, submitted, nextSound, -⟩ :=
          exists_submit_eq sound asked answered
        rw [submitted]
        exact nextSound

def standing (walk : Walk) : Standing :=
  walk.current.elim .finished fun question => .asks question.inquiry

/-- What is seen of a walk whose questions are answered in these moments, after
it applied something in this session. -/
def stages (walk : Walk) (applied : FreeAddMonoid Outcome) (session : Session) :
    List Moment → List (Stage (FreeAddMonoid Outcome))
  | [] => [⟨session, applied, walk.standing⟩]
  | moment :: moments =>
    ⟨session, applied, walk.standing⟩ ::
      if walk.isDone then []
      else
        match walk.submit moment.choice moment.board moment.session with
        | ((.ok _, next), after) =>
          next.stages (.ofList (next.applied.drop walk.applied.length)) after moments
        | ((.error failure, next), after) =>
          [⟨after, .ofList (next.applied.drop walk.applied.length), .broken failure⟩]

/-- What is seen of the walk through an outcome when its questions are answered
in these moments. -/
def through (outcome : Outcome) (session : Session) (moments : List Moment) :
    List (Stage (FreeAddMonoid Outcome)) :=
  match start outcome with
  | .ok walk => walk.stages (.ofList walk.applied) session moments
  | .error failure => [⟨session, 0, .broken failure⟩]

/-- The walk is one that the walk through the outcome can get to, by answers of
any kind. -/
inductive Reached (outcome : Outcome) : Walk → Prop
  | start {walk : Walk} (started : start outcome = .ok walk) : Reached outcome walk
  | submit {walk : Walk} (reached : Reached outcome walk) (choice : Choice) (board : Board)
      (session : Session) : Reached outcome (walk.submit choice board session).1.2

theorem Reached.sound {outcome : Outcome} (result : IsResult outcome) {walk : Walk}
    (reached : Reached outcome walk) : walk.Sound := by
  induction reached with
  | start started =>
      obtain ⟨walk, starts, performs⟩ := exists_start_eq result
      cases starts.symm.trans started
      exact performs.sound
  | submit _ choice board session ih => exact ih.submit choice board session

/-- A settled walk is seen as the play that is ahead of it. -/
theorem stages_eq_ahead {walk : Walk} (sound : walk.Sound) (settled : walk.Settled)
    (applied : FreeAddMonoid Outcome) (session : Session) (moments : List Moment) :
    walk.stages applied session moments = (walk.ahead.bring applied).stages session moments := by
  induction moments generalizing walk applied session with
  | nil =>
      cases asked : walk.current with
      | none =>
          rw [ahead_eq_skip settled asked]
          simp [stages, standing, asked, Play.skip, Play.bring, Play.stages]
      | some question =>
          rw [ahead_eq_asks asked]
          simp [stages, standing, asked, Play.bring, Play.stages]
  | cons moment moments ih =>
      cases asked : walk.current with
      | none =>
          rw [ahead_eq_skip settled asked]
          simp [stages, standing, isDone, asked, Play.skip, Play.bring, Play.stages]
      | some question =>
          rw [ahead_eq_asks asked]
          simp only [stages, standing, isDone, asked, Play.bring, Play.stages, add_zero]
          -- A failure breaks both off; a result settles the walk again, with its play ahead.
          rcases answered : question.answer moment.choice moment.board moment.session with
            ⟨failure | outcome, after⟩
          · rw [submit_of_error asked answered]
            simp [visitAnswer, visitAnswered, Play.andThen, Play.stages]
          · obtain ⟨produced, next, added, submitted, nextSound, nextSettled, appended, play, -⟩ :=
              exists_submit_eq sound asked answered
            have dropped : next.applied.drop walk.applied.length =
                FreeAddMonoid.toList added := by
              rw [appended]
              exact List.drop_left
            have visited : visitAnswer (.ok outcome, after) = visit outcome := rfl
            simp only [submitted, dropped, visited, play]
            simpa using ih nextSound nextSettled added after

theorem through_eq_visit {outcome : Outcome} (result : IsResult outcome) (session : Session)
    (moments : List Moment) :
    through outcome session moments = (visit outcome).stages session moments := by
  obtain ⟨walk, started, sound, settled, added, applied, play⟩ := exists_start_eq result
  rw [through, started]
  simp only [stages_eq_ahead sound settled, applied, play]
  rfl

theorem exists_added_of_submit {walk next : Walk} (sound : walk.Sound) {choice : Choice}
    {board : Board} {session after : Session} {produced : Outcome}
    (submitted : walk.submit choice board session = ((.ok produced, next), after)) :
    ∃ added, next.applied = walk.applied ++ added ∧ leaves produced = (added.map leaves).sum := by
  cases asked : walk.current with
  | none => simp [submit, asked] at submitted
  | some question =>
      rcases answered : question.answer choice board session with ⟨failure | outcome, later⟩
      · simp [submit_of_error asked answered] at submitted
      · obtain ⟨other, last, added, succeeded, -, -, applied, -, same⟩ :=
          exists_submit_eq sound asked answered
        rw [submitted] at succeeded
        cases succeeded
        exact ⟨added.toList, applied, by rw [same, leavesOf_eq_sum]⟩

/-- Walking through a result is visiting it depth first: at every stage the walk
has applied and asks what the visit does.  Whatever was answered before, what
the walk has applied is free of questions and of empty records, and an answer
reports exactly the descriptors that it added. -/
theorem visits_depth_first {outcome : Outcome} (result : IsResult outcome) :
    (∀ session moments,
      through outcome session moments = (visit outcome).stages session moments) ∧
    ∀ walk, Reached outcome walk →
      (∀ part ∈ walk.applied, Bare part) ∧
      ∀ choice board session produced next after,
        walk.submit choice board session = ((.ok produced, next), after) →
          ∃ added, next.applied = walk.applied ++ added ∧
            leaves produced = (added.map leaves).sum := by
  refine ⟨through_eq_visit result, fun walk reached => ?_⟩
  have sound : walk.Sound := reached.sound result
  exact ⟨sound.applied, fun _ _ _ _ _ _ => exists_added_of_submit sound⟩

/-- A question with a follow-up, beside a kept result with a question. -/
def nestedPrompts : Outcome :=
  .record
    [("draw", .int 1),
      ("select_target", promptFor "first"
        (.record [("select_option", promptFor "follow-up" .nothing)])),
      (compositeKey, .list
        [.record [("heal", .int 2), ("select_target", promptFor "kept" .nothing)]])]

theorem isResult_nestedPrompts : IsResult nestedPrompts := by
  have kept : IsResult
      (.record [("heal", .int 2), ("select_target", promptFor "kept" .nothing)]) :=
    (IsResult.promptFor (by decide) .nothing).cons_free (by decide) (by decide)
  refine .cons_free (.cons_question (.cons_kept .nothing (by decide) ?_) (by decide) (by decide)
    trivial (.promptFor (.promptFor (by decide) .nothing))) (by decide) (by decide)
  exact fun item member => List.mem_singleton.1 member ▸ kept

theorem visits_nestedPrompts_depth_first :
    (through nestedPrompts (default : Moment).session [default, default, default]).map
        (fun stage => (stage.applied.toList.length, stage.standing.title?)) =
      [(1, some "first"), (0, some "follow-up"), (0, some "kept"), (0, none)] := by
  rw [(visits_depth_first isResult_nestedPrompts).1]
  rfl

end Walk

end CreatureCards
