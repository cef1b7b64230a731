import CreatureCards.Proofs.WalksEnd

/-!
# Real choices

A player is asked only where there is something to choose.  Where no card reacts,
whatever comes of a definition asks no pick among fewer than two candidates that
are known in advance, and offers no menu of fewer than two options: a single
candidate or option is taken at once, and without any nothing is asked.
-/

namespace CreatureCards

open Engine

/-- The outcome contains the question, or answers and effects that are run on
admitted boards may come to it. -/
inductive Outcome.Poses (admits : Board → Prop) : Outcome → Inquiry → Prop
  | asked (inquiry : Inquiry) (answer : Choice → Engine Outcome) :
      Poses admits (question inquiry answer) inquiry
  | item {items : List Outcome} {item : Outcome} {inquiry : Inquiry} (member : item ∈ items)
      (poses : Poses admits item inquiry) : Poses admits (list items) inquiry
  | field {fields : Descriptors} {field : String × Outcome} {inquiry : Inquiry}
      (member : field ∈ fields) (poses : Poses admits field.2 inquiry) :
      Poses admits (record fields) inquiry
  | answered {first inquiry : Inquiry} {answer : Choice → Engine Outcome} {choice : Choice}
      {board : Board} {session later : Session} {outcome : Outcome} (admitted : admits board)
      (ran : answer choice board session = (.ok outcome, later))
      (poses : Poses admits outcome inquiry) : Poses admits (question first answer) inquiry
  | called {effect : Effect} {context : Context} {board : Board} {session later : Session}
      {outcome : Outcome} {inquiry : Inquiry} (admitted : admits board)
      (ran : effect context board session = (.ok outcome, later))
      (poses : Poses admits outcome inquiry) : Poses admits (callback effect) inquiry

theorem Outcome.Within.asks_of_poses {conduct : Conduct} {bound : ℕ∞} {outcome : Outcome}
    {inquiry : Inquiry} (anywhere : ∀ context, conduct.acts context)
    (poses : outcome.Poses conduct.admits inquiry) (within : outcome.Within conduct bound) :
    conduct.asks inquiry := by
  induction poses generalizing bound with
  | asked inquiry answer => exact within.asks
  | item member _ ih => exact ih (within.of_mem member)
  | field member _ ih => exact ih (within.of_field_mem member)
  | @answered _ _ _ choice _ _ _ _ admitted ran _ ih =>
      obtain ⟨after, -, answers⟩ := within.exists_answer
      exact ih ((answers choice).good_of_ok admitted ran)
  | called admitted ran _ ih =>
      cases within with
      | callback keeps follow => exact ih (follow _ (anywhere _) _ admitted _ _ _ ran)

/-- Where no card reacts, only real choices may be asked. -/
def Conduct.choosing : Conduct where
  admits := Board.Unreactive
  acts _ := True
  asks := Inquiry.IsChoice
  leaves _ _ := True
  fails _ := True
  passed _ _ _ _ := trivial
  refl _ := trivial
  trans _ _ := trivial
  announced _ _ := trivial
  warned _ _ := trivial
  seated _ _ := trivial
  chosen isChoice := isChoice
  fails_other _ := trivial

/-- Where no card reacts, every question of an outcome is a real choice: those that
it contains, those that answers and effects handed over come to, and those that a
walk through it arrives at, in whatever worlds it is answered.  A pick without
candidates comes to nothing and a menu without options says so; a single candidate
or option is taken at once, as if it had been chosen. -/
theorem asks_real_choices_only (definition : Value) (settings : Settings) (context : Context)
    {board : Board} (unreactive : board.Unreactive) {session later : Session} {outcome : Outcome}
    (ran : resolve definition settings context board session = (.ok outcome, later)) :
    (∀ inquiry, outcome.Poses Board.Unreactive inquiry → inquiry.IsChoice) ∧
    (∀ walk, Walk.start outcome = .ok walk → ∀ moments : List Moment,
      (∀ moment ∈ moments, moment.board.Unreactive) → ∀ question,
        (walk.after moments).current = some question → question.inquiry.IsChoice) ∧
    (∀ style title answer, pickOne style title [] answer = pure .nothing) ∧
    (∀ style title only answer,
      pickOne style title [only] answer = (do return (← answer only.value).orNothing)) ∧
    (∀ title context, Effect.chooseOption title [] context = (do
      announce "No options available."
      return .nothing)) ∧
    (∀ context, Effect.chooseDefinition [] context = (do
      announce "No choices available."
      return .nothing)) ∧
    ∀ title entry effect context, Effect.offer title [entry] [effect] context = (do
      announce entry.label
      effect context) := by
  have reacts : Conduct.choosing.Reacts 0 (reactWithin reactionPatience) :=
    Conduct.reacts_of_silent rfl (silent_reactWithin reactionPatience)
  have keeps := atMost_resolveWith (add_zero 0).le reacts definition
    (Conduct.allows_of_anything (fun _ _ => trivial) rfl definition) settings context trivial
  have within := keeps.good_of_ok unreactive ran
  refine ⟨fun inquiry poses => within.asks_of_poses (fun _ => trivial) poses, ?_, fun _ _ _ =>
    rfl, fun _ _ _ _ => rfl, fun _ _ => rfl, fun _ => rfl, fun _ _ _ _ => rfl⟩
  intro walk started moments admitted question asked
  obtain ⟨here, -, -, current, -⟩ := (Walk.within_start within started).after admitted
  exact (current question asked).asks

/-- The first of two picks is a choice between two creatures. -/
theorem twoPicks_asks_real_choices_only :
    calmBoard.Unreactive ∧ ∃ outcome walk question,
      resolve twoPicks {} duel calmBoard (picking calm).session =
        (.ok outcome, (picking calm).session) ∧
      Walk.start outcome = .ok walk ∧ walk.current = some question ∧ question.inquiry.IsChoice := by
  have unreactive : calmBoard.Unreactive := fun _ => rfl
  obtain ⟨outcome, walk, ran, started, goesOn, -⟩ := exists_start_calmly
  obtain ⟨question, asked⟩ :=
    Walk.exists_asked fun done => Bool.false_ne_true (goesOn.symm.trans done)
  have isChoice :=
    (asks_real_choices_only twoPicks {} duel unreactive ran).2.1 walk started [] nofun
    question asked
  exact ⟨unreactive, outcome, walk, question, ran, started, asked, isChoice⟩

end CreatureCards
