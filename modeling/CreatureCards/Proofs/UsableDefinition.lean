import CreatureCards.Proofs.BindingFault
import CreatureCards.Proofs.TameProcedure

/-!
# Usable definitions

A definition is usable if reading it meets a known effect type, a list, or
nothing at all, and the same holds of every nested definition that may come to be
resolved.  Parameters that do not fit may be reported all the same.  Where no
card reacts, resolving a usable definition blames no definition, and neither does
anything that comes of it.
-/

namespace CreatureCards

open Engine

variable {admits : Board → Prop} {react : Reactor}

/-- An option with this effect may come to resolve it. -/
def Value.isNestable : Value → Bool
  | .list _ => true
  | .object fields => ((Value.object fields).get "type").isTruthy
  | _ => false

theorem Value.isNestable_of_isDefinition {effect : Value} {context : Context}
    (isDefinition : Layout.isDefinition effect context = true) : effect.isNestable = true := by
  cases effect with
  | list items => rfl
  | object fields =>
      rw [Layout.isDefinition, Bool.and_eq_true] at isDefinition
      exact isDefinition.2
  | _ => cases isDefinition

namespace Invocation

/-- The nested definitions that may come to be resolved. -/
def pursued : Invocation Value → List Value
  | chooseOption _ options => (options.filter fun option => option.1.effect.isNestable).map Prod.snd
  | other => other.definitions

theorem mem_definitions_of_pursued {asked : Invocation Value} {nested : Value}
    (member : nested ∈ asked.pursued) : nested ∈ asked.definitions := by
  cases asked with
  | chooseOption title options =>
      obtain ⟨option, kept, rfl⟩ := List.mem_map.1 member
      exact List.mem_map_of_mem (List.mem_filter.1 kept).1
  | _ => exact member

/-- Whatever an invocation reaches comes from a definition that it pursues. -/
theorem exists_pursued_of_reaches {asked : Invocation Value} {resolution : Value → Resolution}
    {settings : Settings} {context : Context} {effect : Effect}
    (reached : (asked.mapDefinitions fun nested _ => resolution nested).Reaches settings
      context effect) :
    ∃ nested ∈ asked.pursued,
      effect = resolution nested settings ∨ effect = (resolution nested).withOwnResolver := by
  cases asked with
  | composite effects =>
      cases reached with
      | composite member =>
        obtain ⟨⟨nested, isEffect⟩, -, rfl⟩ := List.mem_map.1 member
        exact ⟨nested, isEffect, .inl rfl⟩
  | repeated nested count =>
      cases reached
      exact ⟨nested, List.mem_singleton_self nested, .inl rfl⟩
  | conditional condition whenTrue whenFalse =>
      cases whenFalse with
      | none =>
          cases reached
          exact ⟨whenTrue, List.mem_singleton_self whenTrue, .inl rfl⟩
      | some nested =>
          cases reached with
          | whenTrue => exact ⟨whenTrue, List.mem_cons_self, .inl rfl⟩
          | whenFalse =>
              exact ⟨nested, List.mem_cons_of_mem _ (List.mem_singleton_self nested), .inl rfl⟩
  | selectTarget pool nested =>
      cases reached
      exact ⟨nested, List.mem_singleton_self nested, .inl rfl⟩
  | selectConsume cardType count nested =>
      cases nested with
      | none => cases reached
      | some nested =>
          cases reached
          exact ⟨nested, List.mem_singleton_self nested, .inl rfl⟩
  | selectFromGroup shape nested =>
      cases nested with
      | none => cases reached
      | some nested =>
          cases reached
          exact ⟨nested, List.mem_singleton_self nested, .inr rfl⟩
  | chooseOption title options =>
      cases reached with
      | option member isDefinition =>
        obtain ⟨⟨option, isOption⟩, -, rfl⟩ := List.mem_map.1 member
        refine ⟨option.2, List.mem_map_of_mem (List.mem_filter.2 ⟨isOption, ?_⟩), .inr rfl⟩
        exact Value.isNestable_of_isDefinition isDefinition
  | choice choices =>
      cases reached with
      | choice member =>
        obtain ⟨⟨entry, isChoice⟩, -, rfl⟩ := List.mem_map.1 member
        exact ⟨entry.2, List.mem_map_of_mem isChoice, .inr rfl⟩
  | _ => cases reached

end Invocation

namespace Reading

/-- The reading names no unknown effect type, and is about an object or a list if
it is about anything. -/
def IsUsable : Reading → Prop
  | unknown _ => False
  | malformed cause => ¬ cause.DeniesDefinition
  | nothing | sequence _ | invocation _ | unreadable _ => True

/-- The nested definitions that may come to be resolved. -/
def pursued : Reading → List Value
  | sequence definitions => definitions
  | invocation asked => asked.pursued
  | _ => []

theorem mem_definitions_of_pursued {reading : Reading} {nested : Value}
    (member : nested ∈ reading.pursued) : nested ∈ reading.definitions := by
  cases reading with
  | invocation asked => exact Invocation.mem_definitions_of_pursued member
  | _ => exact member

end Reading

/-- The definition can be used, and so can every nested one that may come to be
resolved. -/
inductive Usable : Value → Prop
  | intro {definition : Value} (here : (Reading.ofValue definition).IsUsable)
      (each : ∀ nested ∈ (Reading.ofValue definition).pursued, Usable nested) : Usable definition

section Readings

variable {definition : Value} {settings : Settings} {context : Context}

theorem resolveWith_of_nothing (read : Reading.ofValue definition = .nothing) :
    resolveWith react definition settings context = (do
      let _ ← context.adopt settings
      return .nothing) := by
  rw [resolveWith]
  refine congrArg _ (funext fun adopted => ?_)
  split
  all_goals simp_all

theorem resolveWith_of_unknown {type : Value}
    (read : Reading.ofValue definition = .unknown type) :
    resolveWith react definition settings context = (do
      let _ ← context.adopt settings
      refuseUnknown settings type) := by
  rw [resolveWith]
  refine congrArg _ (funext fun adopted => ?_)
  split
  all_goals simp_all

theorem resolveWith_of_malformed {cause : Malformation}
    (read : Reading.ofValue definition = .malformed cause) :
    resolveWith react definition settings context = (do
      let _ ← context.adopt settings
      refuseMalformed settings cause) := by
  rw [resolveWith]
  refine congrArg _ (funext fun adopted => ?_)
  split
  all_goals simp_all

theorem resolveWith_of_unreadable {failure : Failure}
    (read : Reading.ofValue definition = .unreadable failure) :
    resolveWith react definition settings context = (do
      let _ ← context.adopt settings
      throw failure) := by
  rw [resolveWith]
  refine congrArg _ (funext fun adopted => ?_)
  split
  all_goals simp_all

/-- Definitions that are read alike are resolved alike. -/
theorem resolveWith_congr {other : Value}
    (read : Reading.ofValue other = Reading.ofValue definition) :
    resolveWith react other settings = resolveWith react definition settings := by
  funext context
  cases same : Reading.ofValue definition with
  | nothing => rw [resolveWith_of_nothing same, resolveWith_of_nothing (read.trans same)]
  | sequence => rw [resolveWith_of_sequence same, resolveWith_of_sequence (read.trans same)]
  | invocation => rw [resolveWith_of_invocation same, resolveWith_of_invocation (read.trans same)]
  | unknown => rw [resolveWith_of_unknown same, resolveWith_of_unknown (read.trans same)]
  | malformed => rw [resolveWith_of_malformed same, resolveWith_of_malformed (read.trans same)]
  | unreadable => rw [resolveWith_of_unreadable same, resolveWith_of_unreadable (read.trans same)]

end Readings

namespace Harmless

/-- A definition that is resolved by the resolver of its context. -/
theorem withOwnResolver {resolution : Resolution}
    (each : ∀ settings context, Harmless admits (Outcome.Tame admits) (resolution settings context))
    (context : Context) :
    Harmless admits (Outcome.Tame admits) (resolution.withOwnResolver context) :=
  (Harmless.settings context).bind fun settings _ =>
    (Harmless.adopt context settings).bind fun adopted _ => each settings adopted

theorem refuseMalformed (settings : Settings) {cause : Malformation}
    (isOther : ¬ cause.DeniesDefinition) :
    Harmless admits (Outcome.Tame admits) (CreatureCards.refuseMalformed settings cause) :=
  .ite (fun _ => .throw (Malformation.not_blames_refusal isOther)) fun _ =>
    (Harmless.warn (Malformation.not_blames_report isOther)).bind fun _ _ => .pure .nothing

end Harmless

/-- Where no card reacts, resolving a usable definition blames no definition, and
neither does anything that comes of it. -/
theorem Usable.harmless (silent : react.Silent admits) {definition : Value}
    (usable : Usable definition) (settings : Settings) (context : Context) :
    Harmless admits (Outcome.Tame admits) (resolveWith react definition settings context) := by
  induction usable generalizing settings context with
  | @intro definition here each ih =>
    cases read : Reading.ofValue definition with
    | nothing =>
        rw [resolveWith_of_nothing read]
        exact (Harmless.adopt context settings).bind fun _ _ => .pure .nothing
    | sequence definitions =>
        rw [resolveWith_of_sequence read]
        rw [read] at ih
        exact (Harmless.adopt context settings).bind fun adopted _ =>
          (Harmless.mapM fun nested member => ih nested member settings adopted).bind
            fun _ tame => .merge tame
    | invocation asked =>
        rw [resolveWith_of_invocation read]
        rw [read] at ih
        refine (Harmless.adopt context settings).bind fun adopted _ =>
          ((Invocation.procedure react settings adopted _).harmless silent fun effect reached =>
            ?_).bind
            fun _ tame => .pure tame.orNothing
        obtain ⟨nested, member, rfl | rfl⟩ := Invocation.exists_pursued_of_reaches reached
        · exact ih nested member settings
        · exact Harmless.withOwnResolver (ih nested member)
    | unknown type =>
        rw [read] at here
        exact here.elim
    | malformed cause =>
        rw [resolveWith_of_malformed read]
        rw [read] at here
        exact (Harmless.adopt context settings).bind fun _ _ => .refuseMalformed settings here
    | unreadable failure =>
        rw [resolveWith_of_unreadable read]
        exact (Harmless.adopt context settings).bind fun _ _ =>
          .throw fun blames => Reading.not_refuses_of_unreadable read blames.refusesDefinition

/-- No card on the board reacts to being selected. -/
def Board.Unreactive (board : Board) : Prop :=
  ∀ id, (board.card id).reaction = none

theorem silent_reactWithin (patience : Nat) :
    (reactWithin patience).Silent Board.Unreactive := by
  intro id context board unreactive session
  have looking {next : Board → Engine Outcome} :
      (Engine.board >>= next) board session = next board board session := rfl
  cases patience with
  | zero =>
      rw [reactWithin, looking, unreactive id]
      rfl
  | succ patience =>
      rw [reactWithin, looking, unreactive id]
      rfl

end CreatureCards
