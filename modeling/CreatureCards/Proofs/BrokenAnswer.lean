import CreatureCards.CardTrigger
import CreatureCards.Proofs.AuthoredOrder
import CreatureCards.Proofs.ShapeFault

/-!
# Answers that break off

A walk gives up its question before the question is answered, and takes the next
one from its store only when the answer comes to a result.  So a walk that no
answer broke is over exactly when nothing remains; but when an answer breaks off
while something else waits, the walk is over with the rest still in store, and
no later answer reaches it.

The boundary around the effects of a card ends where the first question is
asked.  Resolving a card effect never breaks off, but what breaks off in the
continuation of a question leaves the walk as it is.
-/

namespace CreatureCards

namespace Walk

open Outcome

/-- A walk is settled exactly if it is over when nothing remains, and only then. -/
theorem settled_iff (walk : Walk) :
    walk.Settled ↔ (walk.isDone = true ↔ walk.remaining = 0) := by
  unfold Settled isDone remaining
  cases asked : walk.current with
  | none => simp [isDone, asked]
  | some question => simp [isDone, asked]

theorem current_absorb (walk : Walk) (outcome : Outcome) :
    (walk.absorb outcome).1.current = walk.current := by
  unfold absorb
  split
  · rfl
  · dsimp only
    split <;> rfl

/-- Settling that succeeds leaves a settled walk, and settling that fails leaves
one without a question. -/
theorem settle_spec (walk : Walk) :
    (walk.settle.2 = none → walk.settle.1.Settled) ∧
    (walk.settle.2 ≠ none → walk.settle.1.current = none) := by
  fun_induction Walk.settle walk with
  | case1 walk question asked =>
      refine ⟨fun _ unasked => ?_, fun failed => absurd rfl failed⟩
      simp [asked] at unasked
  | case2 walk unasked empty => exact ⟨fun _ _ => empty, fun failed => absurd rfl failed⟩
  | case3 walk unasked item rest stored question isQuestion =>
      refine ⟨fun _ unasked => ?_, fun failed => absurd rfl failed⟩
      simp at unasked
  | case4 walk unasked item rest stored notQuestion next failure absorbed =>
      have same := current_absorb { walk with queue := rest } item
      rw [absorbed] at same
      exact ⟨fun succeeded => by simp at succeeded, fun _ => same.trans unasked⟩
  | case5 walk unasked item rest stored notQuestion next absorbed smaller ih => exact ih

theorem take_spec (walk : Walk) (unasked : walk.current = none) (outcome : Outcome) :
    ((walk.take outcome).2 = none → (walk.take outcome).1.Settled) ∧
    ((walk.take outcome).2 ≠ none → (walk.take outcome).1.current = none) := by
  have same := current_absorb walk outcome
  unfold take
  rcases absorbed : walk.absorb outcome with ⟨next, _ | failure⟩
  · exact next.settle_spec
  · rw [absorbed] at same
    exact ⟨fun succeeded => by simp at succeeded, fun _ => same.trans unasked⟩

/-- What an answer in this moment comes to, and the walk after it. -/
def answered (walk : Walk) (moment : Moment) : (Except Failure Outcome × Walk) × Session :=
  walk.submit moment.choice moment.board moment.session

/-- The walk after it was answered in these moments, whatever the answers came
to. -/
def after (walk : Walk) : List Moment → Walk
  | [] => walk
  | moment :: moments => (walk.answered moment).1.2.after moments

/-- The answer in this moment breaks the walk off while something else waits. -/
def BreaksAt (walk : Walk) (moment : Moment) : Prop :=
  walk.isDone = false ∧ (∃ failure, (walk.answered moment).1.1 = .error failure) ∧
    (walk.answered moment).1.2.isDone = true ∧ (walk.answered moment).1.2.queue ≠ []

/-- None of the answers in these moments breaks the walk off while something else
waits. -/
def Unbroken (walk : Walk) : List Moment → Prop
  | [] => True
  | moment :: moments => ¬ walk.BreaksAt moment ∧ (walk.answered moment).1.2.Unbroken moments

/-- A walk without a question refuses every answer and stays as it is. -/
theorem answered_of_isDone {walk : Walk} (done : walk.isDone = true) (moment : Moment) :
    walk.answered moment = ((.error .nothingPending, walk), moment.session) := by
  have unasked : walk.current = none := by simpa [isDone] using done
  rw [answered, submit, unasked]

theorem after_of_isDone {walk : Walk} (done : walk.isDone = true) (moments : List Moment) :
    walk.after moments = walk := by
  induction moments with
  | nil => rfl
  | cons moment moments ih =>
      rw [after, answered_of_isDone done]
      exact ih

/-- Whatever the answer to a question comes to, it leaves a settled walk, or it
breaks off and leaves a walk without a question. -/
theorem settled_or_broken {walk : Walk} {question : Question}
    (asked : walk.current = some question) (moment : Moment) :
    (walk.answered moment).1.2.Settled ∨
      (∃ failure, (walk.answered moment).1.1 = .error failure) ∧
        (walk.answered moment).1.2.current = none := by
  unfold answered
  rcases answer : question.answer moment.choice moment.board moment.session with
    ⟨failure | outcome, after⟩
  · rw [submit_of_error asked answer]
    exact .inr ⟨⟨failure, rfl⟩, rfl⟩
  · simp only [submit, asked, answer, reply]
    have spec := take_spec { walk with current := none } rfl outcome.orNothing
    rcases taken : ({ walk with current := none } : Walk).take outcome.orNothing with
      ⟨next, _ | failure⟩
    · rw [taken] at spec
      exact .inl (spec.1 rfl)
    · rw [taken] at spec
      exact .inr ⟨⟨failure, rfl⟩, spec.2 (by simp)⟩

/-- An answer to a settled walk leaves a settled one unless it breaks it off while
something else waits. -/
theorem Settled.answered {walk : Walk} (settled : walk.Settled) {moment : Moment}
    (unbroken : ¬ walk.BreaksAt moment) : (walk.answered moment).1.2.Settled := by
  cases asked : walk.current with
  | none =>
      rw [answered_of_isDone (by simp [isDone, asked])]
      exact settled
  | some question =>
      obtain leavesSettled | ⟨broken, unasked⟩ := settled_or_broken asked moment
      · exact leavesSettled
      · intro _
        by_contra waiting
        exact unbroken ⟨by simp [isDone, asked], broken, by simp [isDone, unasked], waiting⟩

/-- From a settled walk on, the walk is over exactly when nothing remains as long
as no answer breaks it off while something else waits, and no longer. -/
theorem settled_after_iff {walk : Walk} (settled : walk.Settled) (moments : List Moment) :
    (walk.after moments).Settled ↔ walk.Unbroken moments := by
  induction moments generalizing walk with
  | nil => exact iff_of_true settled trivial
  | cons moment moments ih =>
      by_cases broken : walk.BreaksAt moment
      · have ⟨_, _, done, waiting⟩ := broken
        refine iff_of_false (fun settledAfter => ?_) fun unbroken => unbroken.1 broken
        rw [after, after_of_isDone done] at settledAfter
        exact waiting (settledAfter (by simpa [isDone] using done))
      · rw [after, ih (settled.answered broken), Unbroken]
        exact (and_iff_right broken).symm

theorem settled_of_start {outcome : Outcome} {walk : Walk} (started : start outcome = .ok walk) :
    walk.Settled := by
  unfold start at started
  have spec := take_spec {} rfl outcome.orNothing
  rcases taken : ({} : Walk).take outcome.orNothing with ⟨next, _ | failure⟩
  · rw [taken] at started spec
    cases started
    exact spec.1 rfl
  · rw [taken] at started
    cases started

theorem after_append (walk : Walk) (earlier later : List Moment) :
    walk.after (earlier ++ later) = (walk.after earlier).after later := by
  induction earlier generalizing walk with
  | nil => rfl
  | cons moment earlier ih => exact ih _

/-- Through any outcome and any answers, a walk is over exactly when nothing
remains if and only if no answer so far broke it off while something else was
waiting.  A question whose continuation breaks off takes nothing with it that
waits, but from then on every answer is refused and changes nothing. -/
theorem over_when_nothing_remains_iff_unbroken {outcome : Outcome} {walk : Walk}
    (started : start outcome = .ok walk) (moments : List Moment) :
    (((walk.after moments).isDone = true ↔ (walk.after moments).remaining = 0) ↔
        walk.Unbroken moments) ∧
    (∀ question moment failure later, (walk.after moments).current = some question →
      question.answer moment.choice moment.board moment.session = (.error failure, later) →
        ((walk.after moments).answered moment).1.1 = .error failure ∧
        (walk.after (moments ++ [moment])).isDone = true ∧
        (walk.after (moments ++ [moment])).remaining + 1 = (walk.after moments).remaining) ∧
    ((walk.after moments).isDone = true → ∀ moment later,
      ((walk.after moments).answered moment).1.1 = .error .nothingPending ∧
      walk.after (moments ++ later) = walk.after moments) := by
  have settled : walk.Settled := settled_of_start started
  refine ⟨?_, ?_, ?_⟩
  · rw [← settled_iff]
    exact settled_after_iff settled moments
  · intro question moment failure later asked broken
    have answer : (walk.after moments).answered moment =
        ((.error failure, { walk.after moments with current := none }), later) :=
      submit_of_error asked broken
    rw [after_append, after, after, answer]
    simp [isDone, remaining, asked]
  · intro done moment later
    rw [answered_of_isDone done, after_append, after_of_isDone done]
    exact ⟨rfl, rfl⟩

end Walk

/-- A creature that breaks off whatever selects it. -/
def touchy : CardId := ⟨"touchy"⟩

def calm : CardId := ⟨"calm"⟩

/-- A card with a pick among the creatures of the rival. -/
def hunter : CardId := ⟨"hunter"⟩

def definitionOf (type : String) : Value := .object [("type", .text type)]

/-- The rival has two creatures, one of which breaks off whatever selects it. -/
def touchyBoard : Board where
  card id :=
    { cardId := id.key, instanceId := id.key
      effects := if id = hunter then [("onPlay", definitionOf "selectEnemyToKill")] else []
      reaction := if id = touchy then some (.fail "boom") else none }
  players := [{}, { field := [some touchy, some calm, none] }]

def duel : Context :=
  { settledContext with
    player := some 0, opponent := some 1, playerIndex := some 0, opponentIndex := some 1 }

def picking (id : CardId) : Moment :=
  { (default : Moment) with choice := .card id, board := touchyBoard }

/-- Two picks side by side. -/
def twoPicks : Value :=
  sideBySideOf [definitionOf "selectEnemyToKill", definitionOf "selectEnemyToFreeze"]

/-- In a context with a resolver of its own, an effect type without parameters does
what its rule says. -/
theorem resolveWith_definitionOf (react : Reactor) {kind : EffectKind} (settings : Settings)
    (type : String)
    (read : Reading.ofValue (definitionOf type) = .invocation (.direct kind [])) :
    resolveWith react (definitionOf type) settings duel = (do
      return (← kind.rule react (fun _ => .null) duel).orNothing) := by
  rw [resolveWith_of_invocation read]
  rfl

theorem resolve_twoPicks :
    resolve twoPicks {} duel = (do
      let effects := [EffectKind.selectEnemyToKill, EffectKind.selectEnemyToFreeze].map
        fun kind (context : Context) => do
          return (← kind.rule (reactWithin reactionPatience) (fun _ => .null) context).orNothing
      return (← Effect.composite effects duel).orNothing) := by
  have read : Reading.ofValue twoPicks = .invocation (.composite
      [definitionOf "selectEnemyToKill", definitionOf "selectEnemyToFreeze"]) := rfl
  have kill := resolveWith_definitionOf (reactWithin reactionPatience) {} "selectEnemyToKill" rfl
  have freeze :=
    resolveWith_definitionOf (reactWithin reactionPatience) {} "selectEnemyToFreeze" rfl
  have composed : resolve twoPicks {} duel = (do
      let effects := [definitionOf "selectEnemyToKill", definitionOf "selectEnemyToFreeze"].map
        fun nested => resolveWith (reactWithin reactionPatience) nested {}
      return (← Effect.composite effects duel).orNothing) := by
    rw [resolve, resolveWith_of_invocation read]
    rfl
  rw [composed]
  simp only [Effect.composite, List.mapM_map, List.mapM_cons, List.mapM_nil, Function.comp,
    kill, freeze]

namespace Walk

theorem settle_of_question {walk : Walk} {item : Outcome} {rest : List Outcome}
    {question : Question} (unasked : walk.current = none) (stored : walk.queue = item :: rest)
    (isQuestion : item.question? = some question) :
    walk.settle = ({ walk with current := some question, queue := rest }, none) := by
  rw [settle]
  split
  · simp_all
  · split <;> simp_all

theorem take_of_question {walk middle : Walk} {outcome item : Outcome} {rest : List Outcome}
    {question : Question} (absorbed : walk.absorb outcome = (middle, none))
    (unasked : middle.current = none) (stored : middle.queue = item :: rest)
    (isQuestion : item.question? = some question) :
    walk.take outcome = ({ middle with current := some question, queue := rest }, none) := by
  rw [take, absorbed]
  exact settle_of_question unasked stored isQuestion

theorem start_of_question {outcome item : Outcome} {walk : Walk} {rest : List Outcome}
    {question : Question} (absorbed : ({} : Walk).absorb outcome.orNothing = (walk, none))
    (unasked : walk.current = none) (stored : walk.queue = item :: rest)
    (isQuestion : item.question? = some question) :
    start outcome = .ok { walk with current := some question, queue := rest } := by
  rw [start, take_of_question absorbed unasked stored isQuestion]

/-- The walk after an answer that comes to a result is the one that has taken it. -/
theorem answered_of_taken {walk next : Walk} {question : Question} {moment : Moment}
    {outcome : Outcome} {after : Session} (asked : walk.current = some question)
    (ran : question.answer moment.choice moment.board moment.session = (.ok outcome, after))
    (taken : ({ walk with current := none } : Walk).take outcome.orNothing = (next, none)) :
    (walk.answered moment).1.2 = next := by
  rw [answered, submit, asked]
  dsimp only
  rw [ran, reply, taken]

/-- The walk is not over if something that waits is a question once the answer is
taken apart. -/
theorem not_isDone_of_question {walk middle : Walk} {question next : Question} {moment : Moment}
    {outcome item : Outcome} {rest : List Outcome} {later : Session}
    (asked : walk.current = some question)
    (answer : question.answer moment.choice moment.board moment.session = (.ok outcome, later))
    (absorbed : ({ walk with current := none } : Walk).absorb outcome.orNothing = (middle, none))
    (unasked : middle.current = none) (stored : middle.queue = item :: rest)
    (isQuestion : item.question? = some next) : (walk.after [moment]).isDone = false := by
  have taken := take_of_question absorbed unasked stored isQuestion
  rw [after, after, answered_of_taken asked answer taken]
  rfl

/-- The walk through two picks.  Its first question is for either creature: one of
them breaks the walk off, the other leads on to the second question. -/
theorem exists_start_twoPicks :
    ∃ outcome walk,
      resolve twoPicks {} duel touchyBoard (picking touchy).session =
        (.ok outcome, (picking touchy).session) ∧
      start outcome = .ok walk ∧
      (walk.candidates touchyBoard).map (List.map Candidate.value) =
        .ok [.card touchy, .card calm] ∧
      (walk.after [picking touchy]).isDone = true ∧
      (walk.after [picking touchy]).remaining = 1 ∧
      (walk.after [picking calm]).isDone = false := by
  rw [resolve_twoPicks]
  exact ⟨_, _, rfl, start_of_question rfl rfl rfl rfl, rfl, rfl, rfl,
    not_isDone_of_question rfl rfl rfl rfl rfl rfl⟩

/-- A pick of two creatures, the first of which breaks off whatever selects it: the
walk is over while the second question is still waiting. -/
theorem picking_touchy_strands_a_question :
    ∃ outcome walk,
      resolve twoPicks {} duel touchyBoard (picking touchy).session =
        (.ok outcome, (picking touchy).session) ∧
      start outcome = .ok walk ∧
      (walk.candidates touchyBoard).map (List.map Candidate.value) =
        .ok [.card touchy, .card calm] ∧
      ¬ ((walk.after [picking touchy]).isDone = true ↔
        (walk.after [picking touchy]).remaining = 0) := by
  obtain ⟨outcome, walk, resolved, started, candidates, done, remaining, -⟩ :=
    exists_start_twoPicks
  refine ⟨outcome, walk, resolved, started, candidates, fun same => ?_⟩
  have nothing := same.1 done
  omega

theorem over_when_nothing_remains_iff_unbroken_twoPicks :
    ∃ outcome walk, start outcome = .ok walk ∧ ¬ walk.Unbroken [picking touchy] ∧
      walk.Unbroken [picking calm] := by
  obtain ⟨outcome, walk, -, started, -, done, remaining, leadsOn⟩ :=
    exists_start_twoPicks
  refine ⟨outcome, walk, started, fun unbroken => ?_, ?_⟩
  · have same := (over_when_nothing_remains_iff_unbroken started [picking touchy]).1.2 unbroken
    have nothing := same.1 done
    omega
  · refine (over_when_nothing_remains_iff_unbroken started [picking calm]).1.1 ?_
    simp [Walk.remaining, leadsOn]

/-- What breaks off in the continuation of a question breaks off the answer. -/
theorem submit_error_of_answer {walk : Walk} {question : Question}
    (asked : walk.current = some question) {choice : Choice} {board : Board} {session : Session}
    {failure : Failure} (broken : (question.answer choice board session).1 = .error failure) :
    (walk.submit choice board session).1.1 = .error failure := by
  rcases answer : question.answer choice board session with ⟨result, later⟩
  rw [answer] at broken
  subst broken
  rw [submit_of_error asked answer]

/-- Where an answer breaks off: nothing was asked, the continuation of the question
broke off, or it came to something without the shape of a result. -/
theorem submit_error_cases {walk : Walk} {choice : Choice} {board : Board} {session : Session}
    {failure : Failure} (failed : (walk.submit choice board session).1.1 = .error failure) :
    (walk.current = none ∧ failure = .nothingPending) ∨
    ∃ question, walk.current = some question ∧
      ((question.answer choice board session).1 = .error failure ∨
        failure.IsShapeFault ∧ ∃ result,
          (question.answer choice board session).1 = .ok result) := by
  cases asked : walk.current with
  | none =>
      simp only [submit, asked] at failed
      cases failed
      exact .inl ⟨rfl, rfl⟩
  | some question =>
      refine .inr ⟨question, rfl, ?_⟩
      rcases answer : question.answer choice board session with ⟨fault | result, later⟩
      · rw [submit_of_error asked answer] at failed
        exact .inl failed
      · refine .inr ⟨?_, result, rfl⟩
        simp only [submit, asked, answer, reply] at failed
        split at failed
        · rename_i next fault taken
          cases failed
          exact isShapeFault_of_take (congrArg Prod.snd taken)
        · rename_i next taken
          rcases combined : Outcome.combine (next.applied.drop walk.applied.length)
            with fault | merged
          · rw [combined] at failed
            cases failed
            exact Outcome.shapely_combine _ _ combined
          · rw [combined] at failed
            cases failed

end Walk

/-- What resolving a card effect comes to: the outcome of the definition if the
card may act and the definition does not break off, and nothing otherwise, with
whatever went wrong reported. -/
theorem resolveCardEffect_eq (id : CardId) (trigger : String) (given : Option Settings)
    (context : Context) (board : Board) (session : Session) :
    resolveCardEffect id trigger given context board session =
      let card := board.card id
      let definition := card.definition trigger
      if !card.isResponsive || !definition.isTruthy then (.ok none, session)
      else if !definition.isContainer then
        (.ok none, session.warn (.invalidCardEffect card.title trigger definition))
      else
        let settings := given.getD ((context.carried session).getD {})
        match resolve definition settings context board session with
        | (.ok outcome, after) => (.ok (some outcome), after)
        | (.error _, after) => (.ok none, after.warn (.cardEffectFailed card.title trigger)) := by
  unfold resolveCardEffect
  have found : Engine.board board session = (.ok board, session) := rfl
  rw [Engine.bind_of_ok found]
  dsimp only
  split
  · rfl
  split
  · rfl
  rcases given with - | settings
  · have own : context.settings board session =
      (.ok ((context.carried session).getD {}), session) := rfl
    dsimp only
    rw [Engine.bind_of_ok own, Engine.bind_apply, Engine.tryCatch_apply, Engine.bind_apply,
      Option.getD_none]
    rcases resolve _ _ context board session with ⟨failure | outcome, after⟩ <;> rfl
  · dsimp only
    rw [pure_bind, Engine.bind_apply, Engine.tryCatch_apply, Engine.bind_apply, Option.getD_some]
    rcases resolve _ settings context board session with ⟨failure | outcome, after⟩ <;> rfl

/-- Resolving a card effect never breaks off, whatever the card, the board and the
session.  On every walk through its outcome, whatever is answered, an answer
breaks off if the continuation of the question does, and otherwise only because
nothing was asked or because the continuation came to something without the
shape of a result. -/
theorem card_effects_break_off_in_answers_only (id : CardId) (trigger : String)
    (given : Option Settings) (context : Context) (board : Board) (session : Session) :
    ∃ result after, resolveCardEffect id trigger given context board session =
        (.ok result, after) ∧
      ∀ outcome ∈ result, ∀ walk, Walk.Reached outcome walk →
        ∀ choice later before failure,
          ((walk.submit choice later before).1.1 = .error failure →
            (walk.current = none ∧ failure = .nothingPending) ∨
            ∃ question, walk.current = some question ∧
              ((question.answer choice later before).1 = .error failure ∨
                failure.IsShapeFault ∧ ∃ result,
                  (question.answer choice later before).1 = .ok result)) ∧
          ∀ question, walk.current = some question →
            (question.answer choice later before).1 = .error failure →
              (walk.submit choice later before).1.1 = .error failure := by
  have never : ∃ result after, resolveCardEffect id trigger given context board session =
      (.ok result, after) := by
    rw [resolveCardEffect_eq]
    dsimp only
    split
    · exact ⟨_, _, rfl⟩
    split
    · exact ⟨_, _, rfl⟩
    · split <;> exact ⟨_, _, rfl⟩
  obtain ⟨result, after, resolved⟩ := never
  refine ⟨result, after, resolved, fun outcome _ walk _ choice later before failure => ?_⟩
  exact ⟨Walk.submit_error_cases, fun question asked => Walk.submit_error_of_answer asked⟩

/-- The effect of a card asks for one of two creatures, and the answer with one of
them breaks off.  Where that creature is the only one, the same effect is
reported and comes to nothing. -/
theorem picking_touchy_passes_the_boundary :
    (∃ outcome walk,
      resolveCardEffect hunter "onPlay" none duel touchyBoard (picking touchy).session =
        (.ok (some outcome), (picking touchy).session) ∧
      Walk.start outcome = .ok walk ∧
      (walk.candidates touchyBoard).map (List.map Candidate.value) =
        .ok [.card touchy, .card calm] ∧
      (walk.answered (picking touchy)).1.1 = .error (.reaction "boom")) ∧
    (resolveCardEffect hunter "onPlay" none duel
      { touchyBoard with players := [{}, { field := [some touchy] }] }
      (picking touchy).session).1 = .ok none := by
  have kill := resolveWith_definitionOf (reactWithin reactionPatience) {} "selectEnemyToKill" rfl
  have own : (touchyBoard.card hunter).definition "onPlay" = definitionOf "selectEnemyToKill" := rfl
  have settings : ((none : Option Settings).getD
    ((duel.carried (picking touchy).session).getD {})) = {} := rfl
  constructor
  · rw [resolveCardEffect_eq]
    dsimp only
    rw [own, settings, resolve, kill]
    exact ⟨_, _, rfl, Walk.start_of_question rfl rfl rfl rfl, rfl, rfl⟩
  · rw [resolveCardEffect_eq]
    dsimp only
    rw [own, settings, resolve, kill]
    rfl

end CreatureCards
