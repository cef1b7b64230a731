import CreatureCards.Proofs.Elementary

/-!
# Upshots of runs

What a run on a known board comes to, whatever the session it starts from.  A run may
be allowed to break off; then its upshot is what it comes to if it does not.
-/

namespace CreatureCards

open Engine

/-- On the board, whatever the session, the run comes to something good.  It breaks off
only if it may. -/
def Upshot {α : Type} (board : Board) (mayFail : Prop) (good : α → Prop) (running : Engine α) :
    Prop :=
  ∀ session, match (running board session).1 with
    | .ok value => good value
    | .error _ => mayFail

namespace Upshot

variable {α β : Type} {board : Board} {mayFail : Prop} {good : α → Prop}

theorem of_ok {running : Engine α} (upshot : Upshot board mayFail good running)
    {session after : Session} {value : α} (ran : running board session = (.ok value, after)) :
    good value := by
  have found := upshot session
  rw [ran] at found
  exact found

theorem exists_ok {running : Engine α} (upshot : Upshot board mayFail good running)
    (never : ¬ mayFail) (session : Session) :
    ∃ value after, running board session = (.ok value, after) ∧ good value := by
  have found := upshot session
  rcases ran : running board session with ⟨failure | value, after⟩
  · rw [ran] at found
    exact (never found).elim
  · rw [ran] at found
    exact ⟨value, after, rfl, found⟩

theorem weaken {weaker : α → Prop} {running : Engine α} (upshot : Upshot board mayFail good running)
    (implied : ∀ value, good value → weaker value) : Upshot board mayFail weaker running := by
  intro session
  have found := upshot session
  split at found
  · exact implied _ found
  · exact found

theorem pure {value : α} (holds : good value) :
    Upshot board mayFail good (Pure.pure value : Engine α) :=
  fun _ => holds

theorem bind {middle : β → Prop} {running : Engine β} {next : β → Engine α}
    (first : Upshot board mayFail middle running)
    (each : ∀ value, middle value → Upshot board mayFail good (next value)) :
    Upshot board mayFail good (running >>= next) := by
  intro session
  have found := first session
  rcases ran : running board session with ⟨failure | value, after⟩
  · rw [ran] at found
    rw [bind_of_error ran]
    exact found
  · rw [ran] at found
    rw [bind_of_ok ran]
    exact each value found after

theorem reading {next : Board → Engine α} (onward : Upshot board mayFail good (next board)) :
    Upshot board mayFail good (Engine.board >>= next) :=
  fun session => onward session

theorem telling {message : String} {next : Unit → Engine α}
    (onward : Upshot board mayFail good (next ())) :
    Upshot board mayFail good (Engine.announce message >>= next) :=
  fun session => onward (session.announce message)

theorem requiring {part : Option β} {next : β → Engine α} (missing : part = none → mayFail)
    (each : ∀ value, part = some value → Upshot board mayFail good (next value)) :
    Upshot board mayFail good (Engine.require part >>= next) := by
  rcases part with - | value
  · exact fun _ => missing rfl
  · exact each value rfl

theorem orFail {made : Except Failure α} (fails : ∀ failure, made = .error failure → mayFail)
    (holds : ∀ value, made = .ok value → good value) :
    Upshot board mayFail good (Engine.orFail made) := by
  rcases made with failure | value
  · exact fun _ => fails failure rfl
  · exact fun _ => holds value rfl

theorem making {made : Except Failure β} {next : β → Engine α}
    (fails : ∀ failure, made = .error failure → mayFail)
    (each : ∀ value, made = .ok value → Upshot board mayFail good (next value)) :
    Upshot board mayFail good (Engine.orFail made >>= next) := by
  have found : Upshot board mayFail (fun value => made = .ok value) (Engine.orFail made) :=
    orFail fails fun _ isMade => isMade
  exact found.bind each

theorem branch {decided : Prop} [Decidable decided] {yes no : Engine α}
    (whenTrue : decided → Upshot board mayFail good yes)
    (whenFalse : ¬ decided → Upshot board mayFail good no) :
    Upshot board mayFail good (if decided then yes else no) := by
  split
  · exact whenTrue ‹_›
  · exact whenFalse ‹_›

end Upshot

/-- A pick with no candidates comes to nothing, one with a single candidate to its answer, and
any other is asked. -/
theorem Upshot.pickOne {board : Board} {mayFail : Prop} {good : Outcome → Prop}
    {style : PickStyle} {title : String} {candidates : List Candidate}
    {answer : Choice → Engine Outcome} (none : candidates = [] → good .nothing)
    (single : ∀ only, candidates = [only] →
      Upshot board mayFail (fun outcome => good outcome.orNothing) (answer only.value))
    (several : 1 < candidates.length →
      good (.asking (style.pick title (.listed candidates)) answer)) :
    Upshot board mayFail good (CreatureCards.pickOne style title candidates answer) := by
  match candidates with
  | [] => exact .pure (none rfl)
  | [only] => exact (single only rfl).bind fun _ holds => .pure holds
  | _ :: _ :: _ => exact .pure (several (by simp))

end CreatureCards
