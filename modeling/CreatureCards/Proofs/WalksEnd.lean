import CreatureCards.Proofs.BrokenAnswer
import CreatureCards.Proofs.QuestionBound
import CreatureCards.Proofs.WithinWalk

/-!
# Walks end

Where no card reacts, resolving a definition ends, and so does every walk through
what it comes to: no more questions are answered than the bound of the definition
says, in whatever worlds the answers are given.
-/

namespace CreatureCards

/-- Anything may be asked and done, but no chain of reactions may be endless. -/
def Conduct.ending : Conduct where
  admits := Board.Unreactive
  acts _ := True
  asks _ := True
  leaves _ _ := True
  fails := (· ≠ .endlessReaction)
  passed _ _ _ _ := trivial
  refl _ := trivial
  trans _ _ := trivial
  announced _ _ := trivial
  warned _ _ := trivial
  seated _ _ := trivial
  chosen _ := trivial
  fails_other isOther := isOther

namespace Walk

variable {conduct : Conduct} {walk : Walk} {moments : List Moment}

/-- How many of the answers in these moments are answers to a question. -/
def submits (walk : Walk) : List Moment → Nat
  | [] => 0
  | moment :: moments =>
    if walk.isDone then 0 else (walk.answered moment).1.2.submits moments + 1

theorem exists_asked (open_ : walk.isDone ≠ true) : ∃ question, walk.current = some question := by
  simpa [isDone, Option.isNone_iff_eq_none, Option.ne_none_iff_exists'] using open_

/-- Every answer uses up a question, so the walk is over after as many as it may
ask. -/
theorem Within.ends {bound : Nat} (within : walk.Within conduct bound)
    (admitted : ∀ moment ∈ moments, conduct.admits moment.board) :
    walk.submits moments ≤ bound ∧
      (bound ≤ moments.length → (walk.after moments).isDone = true) := by
  induction moments generalizing walk bound with
  | nil =>
      refine ⟨Nat.zero_le bound, fun used => ?_⟩
      by_contra goesOn
      obtain ⟨question, asked⟩ := exists_asked goesOn
      have asks := within.one_le asked
      rw [Nat.le_zero.1 used] at asks
      exact absurd asks (by decide)
  | cons moment moments ih =>
      obtain ⟨here, later⟩ := List.forall_mem_cons.1 admitted
      by_cases done : walk.isDone = true
      · rw [submits, if_pos done, after_of_isDone done]
        exact ⟨Nat.zero_le bound, fun _ => done⟩
      · obtain ⟨question, asked⟩ := exists_asked done
        obtain ⟨left, less, next, -⟩ := within.exists_submit asked moment.choice here moment.session
        lift left to ℕ using ne_top_of_le_ne_top (ENat.natCast_ne_top bound)
          (le_self_add.trans less)
        have fewer : left + 1 ≤ bound := by exact_mod_cast less
        have answered : (walk.answered moment).1.2.Within conduct left := next
        obtain ⟨counted, ended⟩ := ih answered later
        rw [submits, if_neg done, List.length_cons, after]
        exact ⟨by omega, fun used => ended (by omega)⟩

/-- A walk that was answered on admitted boards stays within its bound. -/
theorem Within.after {bound : ℕ∞} (within : walk.Within conduct bound)
    (admitted : ∀ moment ∈ moments, conduct.admits moment.board) :
    (walk.after moments).Within conduct bound := by
  induction moments generalizing walk with
  | nil => exact within
  | cons moment moments ih =>
      obtain ⟨here, later⟩ := List.forall_mem_cons.1 admitted
      exact ih (within.submit moment.choice here moment.session).1 later

/-- On admitted boards, answers break off as they may, or because nothing was asked. -/
theorem Within.fails_answered {bound : ℕ∞} (within : walk.Within conduct bound) {moment : Moment}
    (admitted : conduct.admits moment.board) {failure : Failure}
    (failed : (walk.answered moment).1.1 = .error failure) : conduct.fails failure := by
  by_cases done : walk.isDone = true
  · rw [answered_of_isDone done] at failed
    cases failed
    exact conduct.fails_other nofun
  · obtain ⟨question, asked⟩ := exists_asked done
    obtain ⟨left, -, -, -, breaks⟩ :=
      within.exists_submit asked moment.choice admitted moment.session
    exact breaks failure failed

end Walk

/-- Where no card reacts, resolving a definition comes to an end in any context,
and so does every walk through its outcome, whatever is answered and whatever
became of the world by then: as many questions are answered as the bound of the
definition says at most, and after as many answers the walk is over.  No answer
starts an endless chain of reactions. -/
theorem walks_end_within_questionBound (definition : Value) (settings : Settings)
    (context : Context) {board : Board} (unreactive : board.Unreactive) (session : Session) :
    (resolve definition settings context board session).1 ≠ .error .endlessReaction ∧
    ∀ outcome later, resolve definition settings context board session = (.ok outcome, later) →
      ∀ walk, Walk.start outcome = .ok walk → ∀ moments : List Moment,
        (∀ moment ∈ moments, moment.board.Unreactive) →
          walk.submits moments ≤ definition.questionBound ∧
          (definition.questionBound ≤ moments.length → (walk.after moments).isDone = true) ∧
          ∀ moment : Moment, moment.board.Unreactive →
            ((walk.after moments).answered moment).1.1 ≠ .error .endlessReaction := by
  have reacts : Conduct.ending.Reacts 0 (reactWithin reactionPatience) :=
    Conduct.reacts_of_silent rfl (silent_reactWithin reactionPatience)
  have keeps := atMost_resolveWith (add_zero 0).le reacts definition
    (Conduct.allows_of_anything (fun _ _ => trivial) rfl definition) settings context trivial
  rw [add_zero] at keeps
  refine ⟨fun endless => keeps.fails unreactive endless rfl,
    fun outcome later ran walk started moments admitted => ?_⟩
  have within := Walk.within_start (keeps.good_of_ok unreactive ran) started
  obtain ⟨counted, ended⟩ := within.ends admitted
  exact ⟨counted, ended, fun moment quiet failed =>
    (within.after admitted).fails_answered quiet failed rfl⟩

/-- The rival has two creatures, and none of them reacts. -/
def calmBoard : Board :=
  { touchyBoard with card := fun id => { touchyBoard.card id with reaction := none } }

def pickingCalmly (id : CardId) : Moment :=
  { picking id with board := calmBoard }

theorem questionBound_twoPicks : twoPicks.questionBound = 2 := by
  have composed : Reading.ofValue twoPicks = .invocation (.composite
      [definitionOf "selectEnemyToKill", definitionOf "selectEnemyToFreeze"]) := rfl
  have kill : Reading.ofValue (definitionOf "selectEnemyToKill") =
      .invocation (.direct .selectEnemyToKill []) := rfl
  have freeze : Reading.ofValue (definitionOf "selectEnemyToFreeze") =
      .invocation (.direct .selectEnemyToFreeze []) := rfl
  rw [Value.questionBound_of_invocation composed]
  simp only [Invocation.mapDefinitions, Invocation.questions, List.attach_map_val, List.map_cons,
    List.map_nil, Value.questionBound_of_invocation kill, Value.questionBound_of_invocation freeze]
  rfl

/-- The first of two picks is asked, and its answer leads on to the second. -/
theorem exists_start_calmly :
    ∃ outcome walk,
      resolve twoPicks {} duel calmBoard (picking calm).session =
        (.ok outcome, (picking calm).session) ∧
      Walk.start outcome = .ok walk ∧ walk.isDone = false ∧
      (walk.after [pickingCalmly calm]).isDone = false := by
  rw [resolve_twoPicks]
  exact ⟨_, _, rfl, Walk.start_of_question rfl rfl rfl rfl, rfl,
    Walk.not_isDone_of_question rfl rfl rfl rfl rfl rfl⟩

/-- Two picks are over after two answers, and not before. -/
theorem twoPicks_end_within_questionBound :
    calmBoard.Unreactive ∧ ∃ outcome walk,
      resolve twoPicks {} duel calmBoard (picking calm).session =
        (.ok outcome, (picking calm).session) ∧
      Walk.start outcome = .ok walk ∧
      (walk.after [pickingCalmly calm]).isDone = false ∧
      (walk.after [pickingCalmly calm, pickingCalmly touchy]).isDone = true := by
  have unreactive : calmBoard.Unreactive := fun _ => rfl
  obtain ⟨outcome, walk, ran, started, -, goesOn⟩ := exists_start_calmly
  have ends := (walks_end_within_questionBound twoPicks {} duel unreactive (picking calm).session).2
    outcome _ ran walk started [pickingCalmly calm, pickingCalmly touchy]
      (by simp [pickingCalmly, unreactive])
  exact ⟨unreactive, outcome, walk, ran, started, goesOn, ends.2.1 questionBound_twoPicks.le⟩

end CreatureCards
