import CreatureCards.Proofs.Correspondence

/-!
# Corresponding walks

Walks through corresponding outcomes come equally far when they are answered in the
same way: with the choice that names the same object, on the same board with the
players seated anew.  At every step they ask the same, of the same player and among
the same candidates.
-/

namespace CreatureCards

variable {c : Correspondence}

/-- The walks have come equally far, and show the same candidates at every moment. -/
structure Walk.Corresponds (c : Correspondence) (walk other : Walk) : Prop where
  walks : c.likeness.Walks walk other
  candidates : ∀ board players, c.moments board players →
    other.candidates { board with players } =
      (walk.candidates board).map (List.map (Candidate.reseated c.seating))

/-- Answered in the same way, the walks come to the same at every step. -/
def Walk.CorrespondAlong (c : Correspondence) (walk other : Walk) (session counterpart : Session) :
    (answers : List (Choice × Board)) → Prop
  | [] => walk.Corresponds c other
  | (choice, board) :: later =>
    ∀ players, c.moments board players →
      let answered := walk.submit choice board session
      let otherAnswered :=
        other.submit (choice.reseated c.seating) { board with players } counterpart
      c.Comes (Outcome.Corresponds c) (answered.1.1, answered.2)
        (otherAnswered.1.1, otherAnswered.2) ∧
        answered.1.2.CorrespondAlong c otherAnswered.1.2 answered.2 otherAnswered.2 later

/-- The runs come to corresponding outcomes, and so do the walks through these, however
they are answered. -/
structure Correspondence.Throughout (c : Correspondence)
    (run other : Except Failure Outcome × Session) :
    Prop where
  resolved : c.Comes (Outcome.Corresponds c) run other
  walked : ∀ outcome counterpart, run.1 = .ok outcome → other.1 = .ok counterpart →
    Matched (fun walk otherWalk => ∀ answers,
      walk.CorrespondAlong c otherWalk run.2 other.2 answers)
      (Walk.start outcome) (Walk.start counterpart)

namespace Likeness.Walks

variable {walk other : Walk}

/-- Whoever is shown the question is offered the same. -/
theorem candidates (walks : c.likeness.Walks walk other) {board : Board} {players : List Player}
    (moment : c.moments board players) : other.candidates { board with players } =
      (walk.candidates board).map (List.map (Candidate.reseated c.seating)) := by
  obtain ⟨applied, queue, current⟩ := walk
  obtain ⟨appliedOther, queueOther, currentOther⟩ := other
  unfold Walk.candidates
  cases walks.current with
  | none => rfl
  | @some question questionOther same =>
      obtain ⟨inquiry, answer⟩ := question
      obtain ⟨inquiryOther, answerOther⟩ := questionOther
      cases same.inquiry with
      | menu asked => rfl
      | @pick asked otherAsked sources =>
          obtain ⟨title, source⟩ := asked
          obtain ⟨titleOther, sourceOther⟩ := otherAsked
          cases sources with
          | listed candidates => rfl
          | produced each => exact each board players moment

/-- An answer and its counterpart come to the same and leave walks that have come
equally far. -/
theorem submit (walks : c.likeness.Walks walk other) (choice : Choice) {board : Board}
    {players : List Player} (moment : c.moments board players) {session counterpart : Session}
    (sessions : c.sessions session counterpart) :
    let answered := walk.submit choice board session
    let otherAnswered := other.submit (choice.reseated c.seating) { board with players } counterpart
    c.Comes (Outcome.Corresponds c) (answered.1.1, answered.2)
      (otherAnswered.1.1, otherAnswered.2) ∧
      c.likeness.Walks answered.1.2 otherAnswered.1.2 := by
  obtain ⟨⟨results, later⟩, next⟩ := walks.answered c.sessions sessions fun _ _ same =>
    have comes := same.answer choice board players moment session counterpart sessions
    ⟨comes.results, comes.sessions⟩
  exact ⟨⟨results, later⟩, next⟩

/-- Step by step, by induction on the answers. -/
theorem correspondAlong (walks : c.likeness.Walks walk other) {session counterpart : Session}
    (sessions : c.sessions session counterpart) (answers : List (Choice × Board)) :
    walk.CorrespondAlong c other session counterpart answers := by
  induction answers generalizing walk other session counterpart with
  | nil => exact ⟨walks, fun _ _ moment => walks.candidates moment⟩
  | cons answer later ih =>
      intro players moment
      obtain ⟨comes, next⟩ := walks.submit answer.1 moment sessions
      exact ⟨comes, ih next comes.sessions⟩

end Likeness.Walks

/-- Walks through corresponding outcomes correspond, however they are answered. -/
theorem Correspondence.Comes.throughout {run other : Except Failure Outcome × Session}
    (comes : c.Comes (Outcome.Corresponds c) run other) : c.Throughout run other where
  resolved := comes
  walked := by
    intro outcome counterpart resolved resolvedOther
    have results := comes.results
    rw [resolved, resolvedOther] at results
    cases results with
    | ok alike =>
        have starts := @Likeness.walks_start c.likeness _ _ alike
        exact starts.weaken fun _ _ walks => walks.correspondAlong comes.sessions

end CreatureCards
