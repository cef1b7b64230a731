import CreatureCards.Proofs.WithinMerge
import CreatureCards.Resolver

/-!
# How much effects ask

An effect asks as many questions as it is made of picks and menus, besides what
cards ask when they react.  Where cards react, this says that the effect keeps to
the conduct and not how much it asks: whatever a reaction may ask, asking it twice
is no more.  Numbers may be drawn at random from pools that the conduct leaves to
chance.
-/

namespace CreatureCards

open Engine

/-- The run keeps to the conduct, and what it comes to asks no more questions than
the bound says. -/
abbrev Conduct.AtMost (conduct : Conduct) (bound : ℕ∞) (running : Engine Outcome) : Prop :=
  conduct.Keeps (Outcome.Within conduct bound) running

/-- An effect that draws from the pool may be executed: in a game, a member of the pool
may be drawn at random. -/
structure Conduct.Draws (conduct : Conduct) (effect : Effect)
    (pool : Board → Context → List CardId) : Prop where
  leaves : ∀ {board : Board} {context : Context}, conduct.admits board → conduct.acts context →
    context.inGame = true → pool board context ≠ [] →
    ∀ {session : Session} {number : Int} {after : RandomSource},
      session.random.draw (pool board context).length = .ok (number, after) →
        conduct.leaves session { session with random := after }
  does : ∀ context, conduct.acts context → ∀ board, conduct.admits board → ∀ session,
    conduct.manner.does board (effect context) session

/-- The conduct on one board alone. -/
def Conduct.only (conduct : Conduct) (board : Board) : Conduct :=
  { conduct with admits := fun other => other = board }

/-- Every reaction keeps to the conduct and asks no more than the bound says. -/
def Conduct.Reacts (conduct : Conduct) (bound : ℕ∞) (react : Reactor) : Prop :=
  ∀ id context, conduct.acts context → conduct.AtMost bound (react id context)

theorem ends_draw (random : RandomSource) (size : Int) : NeverEndless (random.draw size) := by
  unfold RandomSource.draw
  split
  · split
    · exact .ite (.error nofun) (.ok _)
    · exact .error nofun
  · exact .ite (.error nofun) (.ok _)

variable {conduct : Conduct} {bound other : ℕ∞}

namespace Conduct.Keeps

variable {running : Engine Outcome}

/-- What keeps to the conduct on all boards does so on one of them. -/
theorem only {α : Type} {good : α → Prop} {running : Engine α} (keeps : conduct.Keeps good running)
    {board : Board} (admitted : conduct.admits board) :
    (conduct.only board).Keeps good running where
  passes := by
    rintro found rfl session
    exact (keeps.passes found admitted session).imp id id
  does := by
    rintro found rfl session
    exact keeps.does found admitted session

/-- What is read off the board is an admitted board, the one that things go on with. -/
theorem lookingAt {α : Type} {good : α → Prop} {next : Board → Engine α}
    (each : ∀ board, conduct.admits board → (conduct.only board).Keeps good (next board)) :
    conduct.Keeps good (Engine.board >>= next) where
  passes board admitted session := ((each board admitted).passes board rfl session).imp id id
  does board admitted session := by
    refine conduct.manner.next (conduct.manner.quietly board session .board) fun found after ran =>
      ?_
    obtain ⟨found, left⟩ := Prod.mk.inj ran
    cases found
    exact (each board admitted).does board rfl after

theorem mono (atMost : conduct.AtMost bound running) (le : bound ≤ other) :
    conduct.AtMost other running :=
  weaken atMost fun _ within => within.mono le

theorem nothing : conduct.AtMost bound (return .nothing) :=
  .pure .nothing

theorem silent {outcome : Outcome} (isSilent : outcome.silent = true) :
    conduct.AtMost bound (return outcome) :=
  .pure ((Outcome.Within.of_silent isSilent).mono zero_le)

/-- A message is told, and there is nothing to do. -/
theorem missing (message : String) : conduct.AtMost bound (do
    announce message
    return .nothing) :=
  .telling .nothing

theorem told (message : String) {outcome : Outcome} (isSilent : outcome.silent = true) :
    conduct.AtMost bound (do
      announce message
      return outcome) :=
  .telling (.silent isSilent)

theorem silently (quiet : Quiet running) (plain : Plain running) :
    conduct.Keeps (fun outcome => outcome.silent = true) running := by
  refine (of_quiet quiet).of_ok fun board _ session outcome after ran => ?_
  have passes := plain board trivial session
  rw [ran] at passes
  cases passes with
  | ok _ isSilent => exact isSilent

theorem atMost (keeps : conduct.Keeps (fun outcome => outcome.silent = true) running) :
    conduct.AtMost bound running :=
  keeps.weaken fun _ isSilent => (Outcome.Within.of_silent isSilent).mono zero_le

/-- A quiet run whose outcomes are silent asks nothing. -/
theorem plainly (quiet : Quiet running) (plain : Plain running) : conduct.AtMost bound running :=
  (silently quiet plain).atMost

theorem attempt {α : Type} {made : Except Failure α} (ends : NeverEndless made) :
    conduct.Keeps (fun value => made = .ok value) (Engine.orFail made) :=
  .orFail (ends.weaken fun _ => conduct.fails_other)

/-- A number is drawn at random, if that may be done. -/
theorem draw {size : Int}
    (does : ∀ board session, conduct.manner.does board (Engine.draw size) session)
    (draws : ∀ {session : Session} {number : Int} {after : RandomSource},
      session.random.draw size = .ok (number, after) →
        conduct.leaves session { session with random := after }) :
    conduct.Keeps (fun _ => True) (Engine.draw size) where
  passes _ _ session := by
    rw [Engine.draw_eq]
    cases drawn : session.random.draw size with
    | ok pair => exact .ok (draws drawn) trivial
    | error failure =>
      exact .failed (conduct.refl session) (conduct.fails_other (ends_draw _ _ _ drawn))
  does board _ session := does board session

theorem orNothing (atMost : conduct.AtMost bound running) :
    conduct.AtMost bound (do return (← running).orNothing) :=
  atMost.bind fun _ within => .pure within.orNothing

/-- Merged results ask no more together than they ask apart. -/
theorem merge {results : List Outcome} (within : Outcome.Within conduct bound (.list results)) :
    conduct.AtMost bound (Engine.orFail (Outcome.merge results)) := by
  have ends : NeverEndless (Outcome.merge results) :=
    (Outcome.shapely_merge results).weaken fun _ fault => fault.ne_endlessReaction
  exact (attempt ends).weaken fun _ merged => Outcome.within_merge within merged

section Picks

variable {style : PickStyle} {title : String} {answer : Choice → Engine Outcome}

/-- A pick asks one question more than what is done with its answer; without a
choice to make, it asks nothing itself. -/
theorem pickOne {candidates : List Candidate}
    (each : ∀ choice, conduct.AtMost bound (answer choice)) :
    conduct.AtMost (1 + bound) (pickOne style title candidates answer) := by
  rw [add_comm]
  match candidates with
  | [] => exact .nothing
  | [only] => exact (each only.value).orNothing.mono le_self_add
  | first :: second :: rest =>
      refine .pure (.descriptor (Outcome.within_question (conduct.chosen ?_) each le_rfl))
      rintro _ ⟨⟩
      exact Nat.le_add_left 2 rest.length

theorem onCard {answer : CardId → Engine Outcome} (each : ∀ id, conduct.AtMost bound (answer id)) :
    ∀ choice, conduct.AtMost bound (CreatureCards.onCard answer choice)
  | .card id => each id
  | .ref _ | .option _ | .number _ => .throw (conduct.fails_other nofun)

theorem onRef {answer : TargetRef → Engine Outcome}
    (each : ∀ ref, conduct.AtMost bound (answer ref)) :
    ∀ choice, conduct.AtMost bound (CreatureCards.onRef answer choice)
  | .ref ref => each ref
  | .card _ | .option _ | .number _ => .throw (conduct.fails_other nofun)

end Picks

section Reactions

variable {react : Reactor}

theorem reactionOf (reacts : conduct.Reacts bound react) (target : CardId) (source : Option CardId)
    {context : Context} (acting : conduct.acts context) :
    conduct.AtMost bound (reactionOf react target source context) :=
  (derived acting).bind fun _ acting => reacts target _ (conduct.passed source _ _ acting)

theorem reactionOr (reacts : conduct.Reacts bound react) (target : CardId) {result : Outcome}
    (within : result.Within conduct bound) {context : Context} (acting : conduct.acts context) :
    conduct.AtMost bound (reactionOr react target result context) := by
  refine (reactionOf reacts target none acting).bind fun response answered => .pure ?_
  split
  · exact answered
  · exact within

end Reactions

end Conduct.Keeps

theorem within_pickLater {style : PickStyle} {title : String}
    {candidates : Board → Except Failure (List Candidate)} {answer : Choice → Engine Outcome}
    (each : ∀ choice, conduct.AtMost bound (answer choice)) :
    (pickLater style title candidates answer).Within conduct (1 + bound) := by
  rw [add_comm]
  exact .descriptor (Outcome.within_question (conduct.chosen nofun) each le_rfl)


namespace Value

theorem ends_atMost (value : Value) (bound : Int) : NeverEndless (value.atMost bound) := by
  unfold atMost
  split
  · split <;> exact .ok _
  · split
    · exact .ok _
    · exact .error nofun

end Value

theorem Places.ends_full (places : Places) : NeverEndless places.full :=
  .mapM fun place _ => by
    cases place with
    | none => exact .error nofun
    | some _ => exact .ok _

namespace Board

theorem ends_placeCandidates (board : Board) (viewer : Option Context) (shown : Bool)
    (places : Places) : NeverEndless (board.placeCandidates viewer shown places) :=
  places.ends_full.bind fun _ _ => .ok _

/-- A pile of the acting player may be missing, but that is no endless reaction. -/
theorem ends_ownPile {α : Type} (board : Board) (context : Context) (make : Player → α) :
    NeverEndless (match context.actor board with
      | some player => .ok (make player)
      | none => .error .missingPart) := by
  split
  · exact .ok _
  · exact .error (by simp)

theorem ends_groupCandidates (board : Board) (context : Context) (group : TargetGroup) :
    NeverEndless (board.groupCandidates context group) := by
  cases group
  case handPrey => exact ends_ownPile board context _
  case carrionPredators => exact ends_ownPile board context _
  case friendlyCarrion => exact ends_ownPile board context _
  case carrion => exact (ends_ownPile board context _).bind fun _ _ => .ok _
  all_goals exact .ok _

end Board

theorem Condition.ends_holds (condition : Condition) (context : Context) (board : Board) :
    NeverEndless (condition.holds context board) := by
  unfold Condition.holds
  split
  · split
    · exact Value.ends_atMost _ _
    · exact .ok false
  · exact Value.ends_atMost _ _
  · exact Value.ends_atMost _ _

theorem quiet_groupTargets (group : Value) (context : Context) :
    Quiet (groupTargets group context) := by
  unfold groupTargets
  split
  · exact .reading fun board => .orFail (board.ends_groupCandidates context _)
  · exact (Quiet.warn _).bind fun _ => .pure _

namespace Effect

theorem ends_handSpells (context : Context) (chosen : List CardId) (board : Board) :
    NeverEndless (handSpells context chosen board) :=
  board.ends_ownPile context _

theorem ends_roundsUp (count : Value) : NeverEndless (roundsUp count) := by
  unfold roundsUp
  split
  · split <;> exact .ok _
  · split
    · exact .ok _
    · exact .error nofun

end Effect

end CreatureCards
