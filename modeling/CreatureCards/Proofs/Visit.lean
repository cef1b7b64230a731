import CreatureCards.Proofs.Play
import CreatureCards.Proofs.ResultShape

/-!
# Visiting a result

A visit goes through a result depth first.  It applies what can be applied at
once, with kept results in their places, stripped of questions and dropped when
nothing is left of them.  Then it asks the question for a target, the question
for an option, the results that wait for them, and the same three of every kept
result, in order.  An answered question makes way for a visit of what the answer
comes to before anything else is asked.
-/

namespace CreatureCards

namespace Outcome

mutual

/-- What of a result can be applied at once. -/
def bare : Outcome → Descriptors
  | record fields => bareFields fields
  | _ => []

def bareFields : List (String × Outcome) → Descriptors
  | [] => []
  | (key, payload) :: rest =>
    if key ∈ chainKeys then bareFields rest
    else if key = compositeKey then
      match bareKept payload with
      | [] => bareFields rest
      | kept => (key, list kept) :: bareFields rest
    else (key, payload) :: bareFields rest

def bareKept : Outcome → List Outcome
  | list items => bareItems items
  | _ => []

/-- What of several results can be applied at once; nothing is kept of a result
of which nothing is left. -/
def bareItems : List Outcome → List Outcome
  | [] => []
  | item :: rest =>
    match bare item with
    | [] => bareItems rest
    | fields => record fields :: bareItems rest

end

def applied (outcome : Outcome) : FreeAddMonoid Outcome :=
  match bare outcome with
  | [] => 0
  | fields => .of (record fields)

/-- What a visit asks of a record: its own questions, what waits for them, and
the questions of the results it keeps. -/
structure Course where
  target : Play (FreeAddMonoid Outcome) := .skip
  option : Play (FreeAddMonoid Outcome) := .skip
  waiting : Play (FreeAddMonoid Outcome) := .skip
  kept : Play (FreeAddMonoid Outcome) := .skip

def Course.play (course : Course) : Play (FreeAddMonoid Outcome) :=
  course.target.andThen (course.option.andThen (course.waiting.andThen course.kept))

mutual

/-- What a visit asks after it applied what it can. -/
def questions : Outcome → Play (FreeAddMonoid Outcome)
  | record fields => (course fields).play
  | question inquiry answer =>
    .asks 0 inquiry (fun moment => (answer moment.choice moment.board moment.session).2)
      fun moment => visitAnswering (answer moment.choice) moment.board moment.session
  | _ => .skip

def course : List (String × Outcome) → Course
  | [] => {}
  | (key, payload) :: rest =>
    if key = "select_target" then { course rest with target := questions payload }
    else if key = "select_option" then { course rest with option := questions payload }
    else if key = pendingKey then { course rest with waiting := visitWaiting payload }
    else if key = compositeKey then { course rest with kept := questionsKept payload }
    else course rest

def visitWaiting : Outcome → Play (FreeAddMonoid Outcome)
  | list items => visitItems items
  | _ => .skip

def visitItems : List Outcome → Play (FreeAddMonoid Outcome)
  | [] => .skip
  | item :: rest => ((questions item).bring (applied item)).andThen (visitItems rest)

def questionsKept : Outcome → Play (FreeAddMonoid Outcome)
  | list items => questionsItems items
  | _ => .skip

def questionsItems : List Outcome → Play (FreeAddMonoid Outcome)
  | [] => .skip
  | item :: rest => (questions item).andThen (questionsItems rest)

/-- A visit of what is answered on a board. -/
def visitAnswering : Engine Outcome → Board → Session → Play (FreeAddMonoid Outcome)
  | ⟨answered, _⟩, board, session => visitAnswer (answered board session)

/-- A visit of what an answer comes to, with the session that it leaves. -/
def visitAnswer : Except Failure Outcome × Session → Play (FreeAddMonoid Outcome)
  | (answered, _) => visitAnswered answered

def visitAnswered : Except Failure Outcome → Play (FreeAddMonoid Outcome)
  | .ok outcome => (questions outcome).bring (applied outcome)
  | .error failure => .broken 0 failure

end

def visit (outcome : Outcome) : Play (FreeAddMonoid Outcome) :=
  (questions outcome).bring (applied outcome)

theorem questions_question (inquiry : Inquiry) (answer : Choice → Engine Outcome) :
    questions (question inquiry answer) =
      .asks 0 inquiry (fun moment => (answer moment.choice moment.board moment.session).2)
        fun moment => visitAnswer (answer moment.choice moment.board moment.session) := by
  have each (moment : Moment) :
      visitAnswering (answer moment.choice) moment.board moment.session =
        visitAnswer (answer moment.choice moment.board moment.session) := by
    rcases answer moment.choice with ⟨answered, _⟩
    rfl
  rw [questions]
  simp only [each]

/-- What a visit asks under a key of a record. -/
def questionsAt (fields : Descriptors) (key : String) : Play (FreeAddMonoid Outcome) :=
  (fields.lookup key).elim .skip questions

theorem visitItems_eq_inTurn (outcomes : List Outcome) :
    visitItems outcomes = .inTurn (outcomes.map visit) := by
  induction outcomes with
  | nil => rfl
  | cons outcome rest ih =>
      rw [visitItems, ih]
      rfl

theorem questionsItems_eq_inTurn (outcomes : List Outcome) :
    questionsItems outcomes = .inTurn (outcomes.map questions) := by
  induction outcomes with
  | nil => rfl
  | cons outcome rest ih =>
      rw [questionsItems, ih]
      rfl

theorem visitWaiting_eq_inTurn (payload : Outcome) :
    visitWaiting payload = .inTurn (payload.items.map visit) := by
  cases payload with
  | list outcomes => exact visitItems_eq_inTurn outcomes
  | _ => rfl

theorem questionsKept_eq_inTurn (payload : Outcome) :
    questionsKept payload = .inTurn (payload.items.map questions) := by
  cases payload with
  | list outcomes => exact questionsItems_eq_inTurn outcomes
  | _ => rfl

/-- The course of a record is found by looking its keys up. -/
theorem course_eq (fields : Descriptors) :
    course fields =
      { target := questionsAt fields "select_target"
        option := questionsAt fields "select_option"
        waiting := .inTurn (fields.pending.map visit)
        kept := .inTurn (fields.kept.map questions) } := by
  induction fields with
  | nil => rfl
  | cons field rest ih =>
      obtain ⟨key, payload⟩ := field
      have differs {name : String} (other : key ≠ name) : (name == key) = false := by
        simpa using Ne.symm other
      rw [course, ih]
      simp only [questionsAt, Descriptors.pending, Descriptors.kept, List.lookup_cons,
        visitWaiting_eq_inTurn, questionsKept_eq_inTurn]
      by_cases target : key = "select_target"
      · subst target
        rfl
      · rw [if_neg target, differs target]
        by_cases option : key = "select_option"
        · subst option
          rfl
        · rw [if_neg option, differs option]
          by_cases pending : key = pendingKey
          · subst pending
            rfl
          · rw [if_neg pending, differs pending]
            by_cases composite : key = compositeKey
            · subst composite
              rfl
            · rw [if_neg composite, differs composite]

/-- A visit asks a record's own questions, visits what waits for them, and asks
what the results that the record keeps ask. -/
theorem questions_record (fields : Descriptors) :
    questions (record fields) =
      (questionsAt fields "select_target").andThen
        ((questionsAt fields "select_option").andThen
          ((Play.inTurn (fields.pending.map visit)).andThen
            (.inTurn (fields.kept.map questions)))) := by
  rw [questions, course_eq]
  rfl

@[simp]
theorem applied_question (inquiry : Inquiry) (answer : Choice → Engine Outcome) :
    applied (question inquiry answer) = 0 :=
  rfl

theorem visit_question (inquiry : Inquiry) (answer : Choice → Engine Outcome) :
    visit (question inquiry answer) = questions (question inquiry answer) := by
  simp [visit]

/-- Nothing is asked or applied where an outcome does not count as present. -/
theorem visit_orNothing (outcome : Outcome) : visit outcome.orNothing = visit outcome := by
  rw [orNothing]
  split
  · rfl
  · rename_i absent
    cases outcome with
    | value data => rfl
    | list outcomes => rfl
    | record fields =>
        have empty : fields = [] := by simpa [isTruthy] using absent
        rw [empty]
        rfl
    | _ => exact absurd rfl absent

end Outcome

end CreatureCards
