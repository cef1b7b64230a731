import CreatureCards.Proofs.ProcedureTable
import CreatureCards.Proofs.Tame

/-!
# Procedures come to tame outcomes

Where no card reacts, a procedure is harmless and comes to a tame outcome as long
as the same is true of every nested definition it may reach.
-/

namespace CreatureCards

open Engine

variable {admits : Board → Prop}

/-- Cards answer with nothing on admitted boards, and leave the session alone. -/
def Reactor.Silent (admits : Board → Prop) (react : Reactor) : Prop :=
  ∀ id context board, admits board → ∀ session,
    react id context board session = (.ok .null, session)

namespace Harmless

variable {α : Type} {good : α → Prop} {running : Engine α}

/-- What is harmless on every board is harmless on admitted ones. -/
theorem narrow (harmless : Harmless (fun _ => True) good running) : Harmless admits good running :=
  fun board _ session => harmless board trivial session

theorem reactionOf {react : Reactor} (silent : react.Silent admits) (target : CardId)
    (source : Option CardId) (context : Context) :
    Harmless admits (fun response => response = .null)
      (CreatureCards.reactionOf react target source context) :=
  (Harmless.derived context).bind fun derived _ board admitted session => by
    rw [silent _ _ board admitted session]
    exact .ok (.refl session) rfl

/-- A pick is harmless if all its answers are. -/
theorem pickOne {style : PickStyle} {title : String} {candidates : List Candidate}
    {answer : Choice → Engine Outcome}
    (each : ∀ choice, Harmless admits (Outcome.Tame admits) (answer choice)) :
    Harmless admits (Outcome.Tame admits)
      (CreatureCards.pickOne style title candidates answer) := by
  unfold CreatureCards.pickOne
  split
  · exact .pure .nothing
  · exact (each _).bind fun _ tame => .pure tame.orNothing
  · refine .pure (.descriptor (Outcome.tame_question (fun pick same board => ?_) each))
    cases same
    exact .ok candidates

theorem onCard {answer : CardId → Engine Outcome}
    (each : ∀ id, Harmless admits (Outcome.Tame admits) (answer id)) (choice : Choice) :
    Harmless admits (Outcome.Tame admits) (CreatureCards.onCard answer choice) := by
  cases choice with
  | card id => exact each id
  | _ => exact .throw id

theorem onRef {answer : TargetRef → Engine Outcome}
    (each : ∀ ref, Harmless admits (Outcome.Tame admits) (answer ref)) (choice : Choice) :
    Harmless admits (Outcome.Tame admits) (CreatureCards.onRef answer choice) := by
  cases choice with
  | ref ref => exact each ref
  | _ => exact .throw id

theorem merge {results : List Outcome} (tame : ∀ result ∈ results, Outcome.Tame admits result) :
    Harmless admits (Outcome.Tame admits) (Engine.orFail (Outcome.merge results)) :=
  (Harmless.orFail ((Outcome.shapely_merge results).weaken fun _ fault =>
    fault.not_blamesDefinition)).weaken fun _ merged => Outcome.tame_merge tame merged

end Harmless

namespace Procedure

variable {react : Reactor} {given : Effect → Prop} {running : Engine Outcome}

/-- A procedure is harmless and comes to something tame if the nested definitions
that it may reach do. -/
theorem harmless (procedure : Procedure react given running) (silent : react.Silent admits)
    (each : ∀ definition, given definition → ∀ context,
      Harmless admits (Outcome.Tame admits) (definition context)) :
    Harmless admits (Outcome.Tame admits) running := by
  induction procedure with
  | act plain => exact plain.narrow.weaken fun _ isSilent => .of_silent isSilent
  | first isHarmless later ih => exact isHarmless.narrow.bind ih
  | branch whenTrue whenFalse ihTrue ihFalse => exact .ite (fun _ => ihTrue) fun _ => ihFalse
  | pickCard demand later ih => exact .pickOne (.onCard ih)
  | pickRef demand later ih => exact .pickOne (.onRef ih)
  | pickLater settled ahead isSilent blameless later ih =>
      refine .pure (.record (List.forall_mem_append.2
        ⟨Outcome.Tame.of_silentFields isSilent, List.forall_mem_singleton.2 ?_⟩))
      refine Outcome.tame_question (fun pick same board => ?_) (Harmless.onCard ih)
      cases same
      exact blameless board
  | drawCard demand later ih =>
      refine (Harmless.draw _).bind fun place _ => ?_
      split
      · exact ih _
      · exact .throw id
  | offer later ih =>
      exact .pure (.descriptor (Outcome.tame_question (fun _ same => by cases same) ih))
  | reacting accepts declines spared ih =>
      refine (Harmless.reactionOf silent _ _ _).bind ?_
      rintro _ rfl
      rw [declines]
      exact ih
  | orNothing procedure ih => exact ih.bind fun _ tame => .pure tame.orNothing
  | nested isGiven => exact each _ isGiven _
  | sideBySide areGiven =>
      exact (Harmless.mapM fun definition member =>
        each definition (areGiven definition member) _).bind
        fun _ tame => .pure (Outcome.tame_collect tame)
  | handOver ahead isSilent isGiven =>
      exact .pure (.descriptor (.record (List.forall_mem_append.2
        ⟨Outcome.Tame.of_silentFields isSilent,
          List.forall_mem_singleton.2 (Outcome.tame_callback (each _ isGiven))⟩)))
  | behind isSilent procedure ih =>
      exact ih.bind fun _ tame => .merge (List.forall_mem_cons.2
        ⟨.of_silent isSilent, List.forall_mem_singleton.2 tame⟩)
  | same equal procedure ih => exact equal ▸ ih

end Procedure

end CreatureCards
