import CreatureCards.Proofs.MergedResult
import CreatureCards.Proofs.WalkRun
import Mathlib

/-!
# Tallies of walks

A walk that is carried to its end leaves a tally: which questions were asked,
and answered in which moments, and which descriptors were applied, each counted
as often as it occurred and in no order.  A result allows as many tallies as
there are ways to answer its questions.  Tallies of results that are dealt with
independently add up in every combination.
-/

namespace CreatureCards

open Outcome

open scoped Pointwise

/-- The questions that were asked, each with the moment in which it was answered,
and the descriptors that were applied. -/
abbrev Tally := Multiset (Inquiry × Moment) × Leaves

namespace Play

/-- The tallies of the ways to carry a play to its end. -/
def tallies : Play (FreeAddMonoid Outcome) → Set Tally
  | finished applied => {(0, leavesOf applied)}
  | broken _ _ => ∅
  | asks applied inquiry _ follow =>
    ⋃ moment, {({(inquiry, moment)}, leavesOf applied)} + (follow moment).tallies

@[simp]
theorem tallies_skip : skip.tallies = 0 := by
  simp [skip, tallies]
  rfl

theorem tallies_bring (ahead : FreeAddMonoid Outcome) (play : Play (FreeAddMonoid Outcome)) :
    (play.bring ahead).tallies = {((0 : Multiset (Inquiry × Moment)), leavesOf ahead)} +
      play.tallies := by
  cases play with
  | finished applied => simp [bring, tallies]
  | broken applied failure => simp [bring, tallies]
  | asks applied inquiry after follow =>
      simp only [bring, tallies, map_add, Set.add_iUnion, ← add_assoc, Set.singleton_add_singleton]
      simp

theorem tallies_andThen (first second : Play (FreeAddMonoid Outcome)) :
    (first.andThen second).tallies = first.tallies + second.tallies := by
  induction first with
  | finished applied => rw [andThen, tallies_bring, tallies]
  | broken applied failure => simp [andThen, tallies]
  | asks applied inquiry after follow ih =>
      simp only [andThen, tallies, ih, Set.iUnion_add, add_assoc]

theorem tallies_inTurn (plays : List (Play (FreeAddMonoid Outcome))) :
    (inTurn plays).tallies = (plays.map tallies).sum := by
  induction plays with
  | nil => exact tallies_skip
  | cons play plays ih => rw [inTurn_cons, tallies_andThen, ih, List.map_cons, List.sum_cons]

end Play

namespace Outcome

/-- The tallies of the ways to deal with an outcome. -/
def tallies (outcome : Outcome) : Set Tally :=
  (visit outcome).tallies

def fieldTallies (field : String × Outcome) : Set Tally :=
  if field.1 ∈ questionKeys then (questions field.2).tallies
  else if field.1 = pendingKey ∨ field.1 = compositeKey then (field.2.items.map tallies).sum
  else {(0, {field})}

theorem tallies_eq (outcome : Outcome) :
    outcome.tallies = {((0 : Multiset (Inquiry × Moment)), appliedLeaves outcome)} +
      (questions outcome).tallies := by
  rw [tallies, visit, Play.tallies_bring, appliedLeaves]

theorem tallies_question (inquiry : Inquiry)
    (answer : Choice → Engine Outcome) :
    (questions (question inquiry answer)).tallies =
      ⋃ moment : Moment, {(({(inquiry, moment)} : Multiset (Inquiry × Moment)), (0 : Leaves))} +
        (visitAnswer (answer moment.choice moment.board moment.session)).tallies := by
  rw [questions_question, Play.tallies, map_zero]

theorem sum_tallies (outcomes : List Outcome) :
    (outcomes.map tallies).sum =
      {((0 : Multiset (Inquiry × Moment)), (outcomes.map appliedLeaves).sum)} +
        (outcomes.map fun outcome => (questions outcome).tallies).sum := by
  induction outcomes with
  | nil => simp; rfl
  | cons outcome rest ih =>
      rw [List.map_cons, List.sum_cons, ih, tallies_eq, add_add_add_comm]
      simp

def askedTallies (field : String × Outcome) : Set Tally :=
  if field.1 ∈ questionKeys then (questions field.2).tallies
  else if field.1 = pendingKey then (field.2.items.map tallies).sum
  else if field.1 = compositeKey then
    (field.2.items.map fun item => (questions item).tallies).sum
  else 0

theorem fieldTallies_eq (field : String × Outcome) :
    fieldTallies field =
      {((0 : Multiset (Inquiry × Moment)), fieldLeaves field)} + askedTallies field := by
  obtain ⟨key, payload⟩ := field
  have zero : ({((0 : Multiset (Inquiry × Moment)), (0 : Leaves))} : Set Tally) = 0 := rfl
  rw [fieldTallies, askedTallies, fieldLeaves]
  by_cases isQuestion : key ∈ questionKeys
  · have chain : key ∈ chainKeys := List.mem_append_left _ isQuestion
    simp [isQuestion, chain, zero]
  · by_cases isPending : key = pendingKey
    · subst isPending
      have chain : pendingKey ∈ chainKeys := by decide
      simp [isQuestion, chain, zero]
    · have free : key ∉ chainKeys := by simp [chainKeys, isQuestion, isPending]
      by_cases isComposite : key = compositeKey
      · rw [if_neg isQuestion, if_pos (.inr isComposite), if_neg free, if_pos isComposite,
          if_neg isQuestion, if_neg isPending, if_pos isComposite]
        exact sum_tallies payload.items
      · simp [isQuestion, isPending, isComposite, free]

theorem tallies_play (course : Course) :
    course.play.tallies = course.target.tallies +
      (course.option.tallies + (course.waiting.tallies + course.kept.tallies)) := by
  rw [Course.play, Play.tallies_andThen, Play.tallies_andThen, Play.tallies_andThen]

theorem tallies_inTurn_visits (outcomes : List Outcome) :
    (Play.inTurn (outcomes.map visit)).tallies = (outcomes.map tallies).sum := by
  rw [Play.tallies_inTurn, List.map_map]
  rfl

theorem tallies_questions_record {fields : Descriptors}
    (distinct : (KeyedList.keys fields).Nodup) :
    (questions (record fields)).tallies = (fields.map askedTallies).sum := by
  induction fields with
  | nil =>
      rw [questions, course, tallies_play]
      simp
  | cons field rest ih =>
      obtain ⟨key, payload⟩ := field
      obtain ⟨fresh, others⟩ := List.nodup_cons.1 distinct
      have absent : rest.lookup key = none := KeyedList.lookup_eq_none_of_not_mem fresh
      have restCourse := ih others
      rw [questions, tallies_play] at restCourse
      rw [List.map_cons, List.sum_cons, ← restCourse, questions, tallies_play, course, askedTallies]
      have replaced := course_eq rest
      -- A key stands in a record once, so the rest of it leaves that part of the course out.
      by_cases target : key = "select_target"
      · subst target
        have unasked : (course rest).target = .skip := by simp [replaced, questionsAt, absent]
        simp [questionKeys, unasked]
      · by_cases option : key = "select_option"
        · subst option
          have unasked : (course rest).option = .skip := by simp [replaced, questionsAt, absent]
          simp [questionKeys, unasked, add_left_comm]
        · have isQuestion : key ∉ questionKeys := by simp [questionKeys, target, option]
          by_cases pending : key = pendingKey
          · subst pending
            have unasked : (course rest).waiting = .skip := by
              simp [replaced, Descriptors.pending, absent]
            simp only [target, option, isQuestion, if_true, if_false, unasked, Play.tallies_skip,
              visitWaiting_eq_inTurn, tallies_inTurn_visits]
            abel
          · by_cases composite : key = compositeKey
            · subst composite
              have unasked : (course rest).kept = .skip := by
                simp [replaced, Descriptors.kept, absent]
              simp only [target, option, pending, isQuestion, if_true, if_false, unasked,
                Play.tallies_skip, questionsKept_eq_inTurn, Play.tallies_inTurn, List.map_map]
              abel
            · simp [target, option, pending, composite, isQuestion]

theorem counts_tallies : Counts fieldTallies tallies where
  record fields distinct := by
    rw [tallies_eq, appliedLeaves_record, tallies_questions_record distinct]
    clear distinct
    induction fields with
    | nil => simp; rfl
    | cons field rest ih =>
        rw [List.map_cons, List.map_cons, List.map_cons, List.sum_cons, List.sum_cons,
          List.sum_cons, ← ih, fieldTallies_eq, add_add_add_comm]
        simp
  kept items := by
    simp [fieldTallies, compositeKey, questionKeys]

theorem fieldTallies_pending (items : List Outcome) :
    fieldTallies (pendingKey, list items) = (items.map tallies).sum := by
  simp [fieldTallies, pendingKey, questionKeys]

theorem fieldTallies_question {key : String} (isKey : key ∈ questionKeys) (payload : Outcome) :
    fieldTallies (key, payload) = (questions payload).tallies := by
  simp [fieldTallies, isKey]

end Outcome

namespace Walk

/-- The walk is carried to its end by answers in these moments, none of which
fails. -/
inductive Ends : Walk → List (Inquiry × Moment) → Walk → Prop
  | finished {walk : Walk} (unasked : walk.current = none) : Ends walk [] walk
  | answer {walk next last : Walk} {question : Question} {moment : Moment} {produced : Outcome}
      {after : Session} {asked : List (Inquiry × Moment)}
      (current : walk.current = some question)
      (submitted : walk.submit moment.choice moment.board moment.session =
        ((.ok produced, next), after))
      (ends : Ends next asked last) : Ends walk ((question.inquiry, moment) :: asked) last

def CanLeave (outcome : Outcome) (tally : Tally) : Prop :=
  ∃ walk asked last, start outcome = .ok walk ∧ Ends walk asked last ∧
    tally = (↑asked, (last.applied.map leaves).sum)

theorem Ends.mem_tallies_ahead {walk last : Walk} {asked : List (Inquiry × Moment)}
    (ends : walk.Ends asked last) (sound : walk.Sound) (settled : walk.Settled) :
    ∃ added, last.applied = walk.applied ++ added ∧
      ((↑asked : Multiset (Inquiry × Moment)), (added.map leaves).sum) ∈ walk.ahead.tallies := by
  induction ends with
  | finished unasked =>
      refine ⟨[], by simp, ?_⟩
      rw [ahead_eq_skip settled unasked, Play.tallies_skip]
      rfl
  | @answer walk next last question moment produced after asked current submitted ends ih =>
      rcases answered : question.answer moment.choice moment.board moment.session with
        ⟨failure | outcome, later⟩
      · rw [submit_of_error current answered] at submitted
        cases submitted
      · obtain ⟨other, middle, added, succeeded, nextSound, nextSettled, applied, play, -⟩ :=
          exists_submit_eq sound current answered
        cases succeeded.symm.trans submitted
        obtain ⟨more, appliedMore, member⟩ := ih nextSound nextSettled
        refine ⟨added.toList ++ more, by rw [appliedMore, applied, List.append_assoc], ?_⟩
        rw [ahead_eq_asks current, Play.tallies]
        refine Set.mem_iUnion.2 ⟨moment, ?_⟩
        -- What the answer comes to is what the play goes on with.
        have visited : visitAnswer (question.answer moment.choice moment.board moment.session) =
            visit outcome := by
          rw [answered]
          rfl
        rw [visited, play, Play.tallies_bring, map_zero]
        refine Set.mem_add.2 ⟨_, rfl, _, Set.mem_add.2 ⟨_, rfl, _, member, rfl⟩, ?_⟩
        rw [leavesOf_eq_sum]
        simp

theorem exists_ends_of_mem_tallies {play : Play (FreeAddMonoid Outcome)} {tally : Tally}
    (member : tally ∈ play.tallies) {walk : Walk} (sound : walk.Sound) (settled : walk.Settled)
    {before : FreeAddMonoid Outcome} (ahead : play = walk.ahead.bring before) :
    ∃ asked last added, walk.Ends asked last ∧ last.applied = walk.applied ++ added ∧
      tally = (↑asked, leavesOf before + (added.map leaves).sum) := by
  -- A play is a tree of all answers, so its tallies are carried back to walks by
  -- induction on it, while the walk that has it ahead varies.
  induction play generalizing tally walk before with
  | finished applied =>
      cases current : walk.current with
      | none =>
          rw [ahead_eq_skip settled current] at ahead
          cases ahead
          refine ⟨[], walk, [], .finished current, by simp, ?_⟩
          simpa [Play.tallies] using member
      | some question =>
          rw [ahead_eq_asks current] at ahead
          cases ahead
  | broken applied failure => exact absurd member (Set.notMem_empty tally)
  | asks applied inquiry after follow ih =>
      cases current : walk.current with
      | none =>
          rw [ahead_eq_skip settled current] at ahead
          cases ahead
      | some question =>
          rw [ahead_eq_asks current] at ahead
          cases ahead
          obtain ⟨moment, inMoment⟩ := Set.mem_iUnion.1 member
          obtain ⟨_, rfl, rest, inRest, rfl⟩ := Set.mem_add.1 inMoment
          rcases answered : question.answer moment.choice moment.board moment.session with
            ⟨failure | outcome, later⟩
          -- An answer that fails has no tally, so it is not among those that end the play.
          · simp [answered, visitAnswer, visitAnswered, Play.andThen, Play.tallies] at inRest
          · obtain ⟨produced, next, added, submitted, nextSound, nextSettled, appended, play, -⟩ :=
              exists_submit_eq sound current answered
            have follows :
                (visitAnswer (question.answer moment.choice moment.board moment.session)).andThen
                  (.inTurn (walk.queue.map visit)) = next.ahead.bring added := by
              rw [answered, ← play]
              rfl
            obtain ⟨asked, last, more, ends, appendedMore, rfl⟩ :=
              ih moment inRest nextSound nextSettled follows
            refine ⟨_, last, added.toList ++ more, .answer current submitted ends, ?_, ?_⟩
            · rw [appendedMore, appended, List.append_assoc]
            · simp [leavesOf_eq_sum]

/-- The tallies of a result are those that walks through it leave. -/
theorem mem_tallies_iff {outcome : Outcome} (result : IsResult outcome) {tally : Tally} :
    tally ∈ outcome.tallies ↔ CanLeave outcome tally := by
  obtain ⟨walk, started, sound, settled, before, applied, play⟩ := exists_start_eq result
  have ownApplied : walk.applied = FreeAddMonoid.toList before := applied
  constructor
  · intro member
    obtain ⟨asked, last, added, ends, appended, rfl⟩ :=
      exists_ends_of_mem_tallies member sound settled play
    refine ⟨walk, asked, last, started, ends, ?_⟩
    rw [appended, ownApplied, List.map_append, List.sum_append, leavesOf_eq_sum]
  · rintro ⟨other, asked, last, otherStarted, ends, rfl⟩
    cases started.symm.trans otherStarted
    obtain ⟨added, appended, member⟩ := ends.mem_tallies_ahead sound settled
    rw [Outcome.tallies, play, Play.tallies_bring]
    refine Set.mem_add.2 ⟨_, rfl, _, member, ?_⟩
    rw [appended, ownApplied, List.map_append, List.sum_append, leavesOf_eq_sum]
    simp

end Walk

end CreatureCards
