import CreatureCards.Proofs.AlikeOutcome
import CreatureCards.Proofs.LikenessWalk

/-!
# Alike walks

Taking outcomes apart keeps them alike, so walks through outcomes that are alike
come equally far, however they are answered, until one of the resolvers refuses a
definition that the other one reports.
-/

namespace CreatureCards

variable {pairing : Pairing}

namespace Walk

/-- The walks have come equally far. -/
abbrev Alike (pairing : Pairing) (walk other : Walk) : Prop :=
  (Outcome.alikeness pairing).Walks walk other

/-- Walks through outcomes that are alike start alike. -/
theorem alike_start {outcome other : Outcome} (alike : Outcome.Alike pairing outcome other) :
    Matched (Alike pairing) (start outcome) (start other) :=
  @Likeness.walks_start (Outcome.alikeness pairing) _ _ alike

/-- How an answer and its counterpart compare: they come to the same and leave walks
that have come equally far, or one of them reported a definition that the other one
refused. -/
inductive Answered (pairing : Pairing) (before : Session) :
    (Except Failure Outcome × Walk) × Session → (Except Failure Outcome × Walk) × Session → Prop
  | same {result resultOther : Except Failure Outcome} {walk other : Walk}
    {after otherAfter : Session}
      (quiet : pairing.Quiet before after) (sessions : pairing.Sessions after otherAfter)
      (results : Matched (Outcome.Alike pairing) result resultOther)
      (isOther : pairing.parts = true → NeverRefuses result) (walks : walk.Alike pairing other) :
      Answered pairing before ((result, walk), after) ((resultOther, other), otherAfter)
  | parted {result : Except Failure Outcome} {failure : Failure} {walk other : Walk}
      {after otherAfter : Session} (reported : before.Reported after)
        (refuses : failure.RefusesDefinition) :
      Answered pairing before ((result, walk), after) ((.error failure, other), otherAfter)

/-- Walks that have come equally far are answered alike. -/
theorem Alike.submit {walk other : Walk} (alike : walk.Alike pairing other) (choice : Choice)
    (board : Board) {session counterpart : Session}
    (sessions : pairing.Sessions session counterpart) :
    Answered pairing session (walk.submit choice board session)
      (other.submit choice board counterpart) := by
  obtain ⟨applied, queue, current⟩ := walk
  obtain ⟨appliedOther, queueOther, currentOther⟩ := other
  obtain ⟨areApplied, areQueued, current⟩ := alike
  unfold Walk.submit Walk.reply
  cases current with
  | none =>
      exact .same (.refl session) sessions (.failed _)
        (fun _ => .error id) ⟨areApplied, areQueued, .none⟩
  | @some question questionOther same =>
      have opened : Alike pairing ⟨applied, queue, none⟩ ⟨appliedOther, queueOther, none⟩ :=
        ⟨areApplied, areQueued, .none⟩
      have accord := same.answer choice board session counterpart sessions
      dsimp only
      generalize question.answer choice board session = ran at accord ⊢
      generalize questionOther.answer choice board counterpart = ranOther at accord ⊢
      cases accord with
      | failed quiet later isOther =>
          exact .same quiet later (.failed _) (fun parts => .error (isOther parts)) opened
      | @parted result failure after partner otherAfter parts reported later whole refuses =>
          cases result with
          | error fault => exact .parted reported refuses
          | ok outcome =>
              dsimp only
              split
              · exact .parted reported refuses
              · exact .parted reported refuses
      | @ok outcome outcomeOther after otherAfter quiet later isAlike =>
          have taken := opened.take isAlike.orNothing
          dsimp only
          rcases left : Walk.take ⟨applied, queue, none⟩ outcome.orNothing with ⟨next, failure⟩
          rcases right : Walk.take ⟨appliedOther, queueOther, none⟩ outcomeOther.orNothing with
            ⟨nextOther, failureOther⟩
          rw [left, right] at taken
          obtain rfl : failureOther = failure := taken.failure
          cases failureOther with
          | some failure =>
              have fault := isShapeFault_of_take (congrArg Prod.snd left)
              exact .same quiet later (.failed failure)
                (fun _ => .error fault.not_refusesDefinition) taken.walk
          | none =>
              refine .same quiet later (taken.walk.added areApplied) (fun _ => ?_) taken.walk
              exact ((Outcome.shapely_combine _).weaken fun _ fault =>
                fault.not_refusesDefinition).map _

end Walk

end CreatureCards
