import CreatureCards.Proofs.PresentMerge
import CreatureCards.Proofs.Upshot

/-!
# Announcements

An effect that comes to nothing is expected to say so.  A run is spoken if, from any
session, it comes to something, tells the player a message, or breaks off.  What is told
before a card reacts does not count, because nothing is known of what the reaction leaves
of the log; runs in which cards react come to something.
-/

namespace CreatureCards

open Engine

/-- The player was told something: messages were added behind those of before. -/
def Session.Told (before after : Session) : Prop :=
  ∃ message further, after.log = before.log ++ message :: further

/-- On the board the run leaves the log as it was, also if it breaks off. -/
def Muted {α : Type} (board : Board) (running : Engine α) : Prop :=
  ∀ session, (running board session).2.log = session.log

namespace Muted

variable {α : Type} {board : Board}

theorem pure (value : α) : Muted board (Pure.pure value : Engine α) :=
  fun _ => rfl

theorem ite {decided : Prop} [Decidable decided] {yes no : Engine α} (whenTrue : Muted board yes)
    (whenFalse : Muted board no) : Muted board (if decided then yes else no) := by
  split
  · exact whenTrue
  · exact whenFalse

theorem settings (context : Context) : Muted board context.settings :=
  fun _ => rfl

theorem draw (size : Int) : Muted board (Engine.draw size) := by
  intro session
  rw [Engine.draw_eq]
  cases session.random.draw size <;> rfl

theorem reading {next : Board → Engine α} (onward : Muted board (next board)) :
    Muted board (Engine.board >>= next) :=
  fun session => onward session

theorem resolveCount (count : Value) (context : Context) :
    Muted board (CreatureCards.resolveCount count context) := by
  unfold CreatureCards.resolveCount
  refine .reading ?_
  dsimp only
  split <;> exact fun _ => rfl

end Muted

/-- From this session, the run comes to something or tells the player a message, unless it
breaks off. -/
def SpokenFrom (board : Board) (session : Session) (running : Engine Outcome) : Prop :=
  ∀ outcome after, running board session = (.ok outcome, after) →
    outcome.isTruthy = true ∨ session.Told after

namespace SpokenFrom

variable {α : Type} {board : Board} {session between : Session}

theorem broken {running : Engine Outcome} {failure : Failure}
    (breaks : running board session = (.error failure, between)) :
    SpokenFrom board session running :=
  fun _ _ ran => by cases breaks.symm.trans ran

/-- What leaves the log alone may happen first. -/
theorem starting {first : Engine α} {next : α → Engine Outcome} {value : α}
    (begun : first board session = (.ok value, between)) (left : between.log = session.log)
    (onward : SpokenFrom board between (next value)) :
    SpokenFrom board session (first >>= next) := by
  intro outcome after ran
  rw [bind_of_ok begun] at ran
  refine (onward outcome after ran).imp_right ?_
  rintro ⟨message, further, same⟩
  exact ⟨message, further, left ▸ same⟩

theorem orNothing {running : Engine Outcome} (spoken : SpokenFrom board session running) :
    SpokenFrom board session (do return (← running).orNothing) := by
  intro outcome after ran
  rcases came : running board session with ⟨failure | found, left⟩
  · rw [bind_of_error came] at ran
    cases ran
  · rw [bind_of_ok came] at ran
    cases ran
    refine (spoken found _ came).imp_left fun truthy => ?_
    rw [Outcome.orNothing, if_pos truthy, truthy]

end SpokenFrom

def Spoken (board : Board) (running : Engine Outcome) : Prop :=
  ∀ session, SpokenFrom board session running

/-- On the board, whatever the session, the run comes to something or breaks off. -/
def Present (board : Board) (running : Engine Outcome) : Prop :=
  Upshot board True (fun outcome => outcome.isTruthy = true) running

namespace Present

variable {α : Type} {board : Board} {running : Engine Outcome}

theorem spoken (present : Present board running) : Spoken board running :=
  fun _ _ _ ran => .inl (present.of_ok ran)

/-- Whatever happens first. -/
theorem after {first : Engine α} {next : α → Engine Outcome}
    (each : ∀ value, Present board (next value)) :
    Present board (first >>= next) :=
  have free : Upshot board True (fun _ => True) first := fun session => by split <;> trivial
  free.bind fun value _ => each value

theorem branch {decided : Prop} [Decidable decided] {yes no : Engine Outcome}
    (whenTrue : Present board yes) (whenFalse : Present board no) :
    Present board (if decided then yes else no) :=
  Upshot.branch (fun _ => whenTrue) fun _ => whenFalse

theorem merging {results : List Outcome} (present : ∃ result ∈ results, result.isTruthy = true) :
    Present board (orFail (Outcome.merge results)) :=
  .orFail (fun _ _ => trivial) fun _ merged => (Outcome.isTruthy_merge_iff merged).2 present

/-- A picked card may react, and either way there is a result. -/
theorem reactionOr (react : Reactor) (target : CardId) {result : Outcome}
    (present : result.isTruthy = true) (context : Context) :
    Present board (CreatureCards.reactionOr react target result context) :=
  .after fun response => by
    by_cases answered : response.isTruthy = true
    · rw [if_pos answered]
      exact .pure answered
    · rw [if_neg answered]
      exact .pure present

end Present

namespace Spoken

variable {α : Type} {board : Board}

/-- A message, and then whatever leaves the log alone. -/
theorem told (message : String) {next : Unit → Engine Outcome} (muted : Muted board (next ())) :
    Spoken board (announce message >>= next) := by
  intro session outcome after ran
  have left := muted (session.announce message)
  have ran : next () board (session.announce message) = (.ok outcome, after) := ran
  rw [ran] at left
  exact .inr ⟨message, [], left⟩

/-- A message with an answer. -/
theorem answering (message : String) (outcome : Outcome) :
    Spoken board (do announce message; return outcome) :=
  .told message (.pure outcome)

theorem throw (failure : Failure) : Spoken board (MonadExcept.throw failure) := by
  intro session outcome after ran
  cases ran

theorem reading {next : Board → Engine Outcome} (onward : Spoken board (next board)) :
    Spoken board (Engine.board >>= next) :=
  fun session => onward session

/-- What leaves the log alone may happen first. -/
theorem muted {first : Engine α} {next : α → Engine Outcome} (quiet : Muted board first)
    (each : ∀ value, Spoken board (next value)) : Spoken board (first >>= next) := by
  intro session
  have left := quiet session
  rcases begun : first board session with ⟨failure | value, between⟩
  · exact .broken (bind_of_error begun)
  · rw [begun] at left
    exact .starting begun left (each value between)

theorem making {made : Except Failure α} {next : α → Engine Outcome}
    (each : ∀ value, made = .ok value → Spoken board (next value)) :
    Spoken board (orFail made >>= next) := by
  rcases made with failure | value
  · exact .throw failure
  · exact each value rfl

theorem requiring {part : Option α} {next : α → Engine Outcome}
    (each : ∀ value, Spoken board (next value)) :
    Spoken board (require part >>= next) := by
  rcases part with - | value
  · exact .throw .missingPart
  · exact each value

theorem branch {decided : Prop} [Decidable decided] {yes no : Engine Outcome}
    (whenTrue : decided → Spoken board yes) (whenFalse : ¬ decided → Spoken board no) :
    Spoken board (if decided then yes else no) := by
  split
  · exact whenTrue ‹_›
  · exact whenFalse ‹_›

/-- Where there is nothing to act on, the message says so. -/
theorem unlessEmpty {missing : String} {items : List α} {otherwise : Engine Outcome}
    (each : items ≠ [] → Spoken board otherwise) :
    Spoken board (if items.isEmpty then do announce missing; return .nothing else otherwise) :=
  .branch (fun _ => .answering missing .nothing) fun present =>
    each fun absent => present (List.isEmpty_iff.2 absent)

theorem onCard {answer : CardId → Engine Outcome} (each : ∀ id, Spoken board (answer id)) :
    ∀ choice, Spoken board (CreatureCards.onCard answer choice)
  | .card id => each id
  | .ref _ | .number _ | .option _ => .throw .missingPart

theorem onRef {answer : TargetRef → Engine Outcome} (each : ∀ ref, Spoken board (answer ref)) :
    ∀ choice, Spoken board (CreatureCards.onRef answer choice)
  | .ref ref => each ref
  | .card _ | .number _ | .option _ => .throw .missingPart

/-- A pick among some candidates is spoken if what follows it is. -/
theorem pickOne {style : PickStyle} {title : String} {candidates : List Candidate}
    {answer : Choice → Engine Outcome} (present : candidates ≠ [])
    (each : ∀ choice, Spoken board (answer choice)) :
    Spoken board (CreatureCards.pickOne style title candidates answer) := by
  match candidates with
  | [] => exact absurd rfl present
  | [only] => exact fun session => (each only.value session).orNothing
  | _ :: _ :: _ =>
    intro session outcome after ran
    cases ran
    exact .inl rfl

end Spoken

end CreatureCards
