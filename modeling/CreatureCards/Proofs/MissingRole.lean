import CreatureCards.Proofs.ReliableWalk
import CreatureCards.Proofs.SupportedInvocation
import CreatureCards.Proofs.WalksEnd

/-!
# Missing roles

Nobody has to play the roles that an effect looks for.  As long as no card reacts and the
acting player is there, a well-typed definition comes to something that can be walked
through to the end, whoever is missing.  One effect does need somebody: the prey that is
eaten instead of attacking is eaten by the acting creature, and without one the effect
breaks off.
-/

namespace CreatureCards

namespace Reading

/-- The reading is about an effect type that can do with its parameters, about a list, or
about nothing. -/
def IsWellTyped (stance : Stance) : Reading → Prop
  | nothing | sequence _ => True
  | invocation asked => asked.IsWellTyped stance
  | unknown _ | malformed _ | unreadable _ => False

end Reading

/-- The definition is well typed for those who act from the stance, and so is every nested
one that may come to be resolved. -/
inductive WellTyped (stance : Stance) : Value → Prop
  | intro {definition : Value} (here : (Reading.ofValue definition).IsWellTyped stance)
      (each : ∀ nested ∈ (Reading.ofValue definition).pursued, WellTyped stance nested) :
      WellTyped stance definition

variable {stance : Stance} {react : Reactor} {definition : Value}

/-- A well-typed definition is supported where no card reacts. -/
theorem WellTyped.supported (silent : react.Silent stance.footing.admits)
    (typed : WellTyped stance definition) (settings : Settings) :
    Effect.SupportedBy stance.footing (resolveWith react definition settings) := by
  induction typed generalizing settings with
  | @intro definition here each ih =>
    intro context acts
    -- Adopting the context changes its resolver at most, so it still acts from the stance.
    have acting {adopted : Context} (isAdopted : ∃ resolver, adopted = { context with resolver }) :
        stance.Acts adopted := by
      obtain ⟨resolver, rfl⟩ := isAdopted
      exact ⟨acts.player, acts.creature⟩
    cases read : Reading.ofValue definition with
    | nothing =>
        rw [resolveWith_of_nothing read]
        exact (Succeeds.adopt context settings).bind fun _ _ => .nothing
    | sequence definitions =>
        rw [resolveWith_of_sequence read]
        rw [read] at ih
        exact (Succeeds.adopt context settings).bind fun adopted isAdopted =>
          (Succeeds.mapM fun nested member =>
            ih nested member settings adopted (acting isAdopted)).bind
            fun _ reliable => .merge reliable
    | invocation asked =>
        rw [resolveWith_of_invocation read]
        rw [read] at ih here
        exact (Succeeds.adopt context settings).bind fun adopted isAdopted =>
          (Invocation.supported_effect silent here ih settings adopted (acting isAdopted)).bind
            fun _ reliable => .pure reliable.orNothing
    | unknown type =>
        rw [read] at here
        exact here.elim
    | malformed cause =>
        rw [read] at here
        exact here.elim
    | unreadable failure =>
        rw [read] at here
        exact here.elim

/-- Where no card reacts, resolving a well-typed definition never breaks off in a context
with an acting player, whatever other roles are missing, but that prey is only eaten where
there is an acting creature.  The outcome can be walked through, and neither a choice that
is shown nor an effect that is handed over on the way ever breaks off. -/
theorem well_typed_definitions_never_break_off (typed : WellTyped stance definition)
    (settings : Settings) {context : Context} (acts : stance.Acts context) {board : Board}
    (admits : stance.Admits board) {session : Session} (usable : session.random.IsUsable) :
    ∃ outcome after, resolve definition settings context board session = (.ok outcome, after) ∧
      (∃ walk, Walk.start outcome = .ok walk) ∧
      ∀ walk, Walk.ReachedFairly stance.footing outcome walk → walk.Unfailing stance.footing := by
  have silent : (reactWithin reactionPatience).Silent stance.footing.admits :=
    fun id context board admits session =>
      silent_reactWithin reactionPatience id context board admits.unreactive session
  obtain ⟨outcome, after, ran, -, reliable⟩ :=
    typed.supported silent settings context acts board admits session usable
  obtain ⟨walk, started, -⟩ := Walk.exists_start_reliable reliable.orNothing
  exact ⟨outcome, after, ran, ⟨walk, started⟩, fun walk reached =>
    (reached.reliable reliable.orNothing).unfailing⟩

/-- A duel on fields of three places, in which no creature acts. -/
def bystander : Stance where
  place := 0
  slots := 3

/-- A session that draws the same number each time. -/
def diced : Session where
  random := .scripted [0] 0

theorem usable_diced : diced.random.IsUsable :=
  List.cons_ne_nil 0 []

theorem acts_bystander : bystander.Acts duel :=
  ⟨rfl, rfl⟩

/-- The acting player has no creature, and so no shells that could not be told. -/
theorem admits_calmBoard : bystander.Admits calmBoard where
  unreactive _ := rfl
  present := by decide
  filled := by decide
  narrow := by decide
  shells := by
    have none : Effect.totalShell calmBoard { player := some bystander.place } = 0 := rfl
    rw [none]
    exact Value.isTellable_zero

theorem WellTyped.of_direct {kind : EffectKind} {arguments : List Value}
    (read : Reading.ofValue definition = .invocation (.direct kind arguments))
    (takes : kind.Takes stance fun place => arguments.getD place .null) :
    WellTyped stance definition := by
  refine .intro ?_ fun nested member => ?_
  · rw [read]
    exact takes
  · rw [read] at member
    cases member

theorem wellTyped_twoPicks : WellTyped stance twoPicks := by
  have read : Reading.ofValue twoPicks = .invocation (.composite
      [definitionOf "selectEnemyToKill", definitionOf "selectEnemyToFreeze"]) := rfl
  refine .intro (read ▸ trivial) fun nested member => ?_
  rw [read] at member
  have kill : Reading.ofValue (definitionOf "selectEnemyToKill") =
      .invocation (.direct .selectEnemyToKill []) := rfl
  have freeze : Reading.ofValue (definitionOf "selectEnemyToFreeze") =
      .invocation (.direct .selectEnemyToFreeze []) := rfl
  obtain rfl | rfl := List.mem_pair.1 member
  · exact .of_direct kill trivial
  · exact .of_direct freeze trivial

/-- Two picks are asked one after the other without an acting creature. -/
theorem twoPicks_without_a_creature :
    ∃ outcome walk,
      resolve twoPicks {} duel calmBoard diced = (.ok outcome, diced) ∧
      Walk.start outcome = .ok walk ∧ walk.isDone = false ∧ walk.Unfailing bystander.footing := by
  obtain ⟨outcome, walk, ran, started, asks⟩ : ∃ outcome walk,
      resolve twoPicks {} duel calmBoard diced = (.ok outcome, diced) ∧
      Walk.start outcome = .ok walk ∧ walk.isDone = false := by
    rw [resolve_twoPicks]
    exact ⟨_, _, rfl, Walk.start_of_question rfl rfl rfl rfl, rfl⟩
  obtain ⟨other, _, ranOther, -, unfailing⟩ := well_typed_definitions_never_break_off
    wellTyped_twoPicks {} acts_bystander admits_calmBoard usable_diced
  cases ranOther.symm.trans ran
  exact ⟨outcome, walk, ran, started, asks, unfailing walk (.start started)⟩

/-- The rival has a single creature, which is prey. -/
def lonePreyBoard : Board :=
  { calmBoard with players := [{}, { field := [some calm, none, none] }] }

/-- Without an acting creature the prey is picked, and then there is nobody to eat it. -/
theorem eating_without_a_creature_breaks_off :
    WellTyped { bystander with creature := some hunter }
      (definitionOf "eatPreyInsteadOfAttacking") ∧
    bystander.Acts duel ∧ bystander.Admits lonePreyBoard ∧ diced.random.IsUsable ∧
    (resolve (definitionOf "eatPreyInsteadOfAttacking") {} duel lonePreyBoard diced).1 =
      .error .missingPart := by
  have read : Reading.ofValue (definitionOf "eatPreyInsteadOfAttacking") =
      .invocation (.direct .eatPreyInsteadOfAttacking []) := rfl
  refine ⟨.of_direct read (Option.some_ne_none hunter), acts_bystander, ?_, usable_diced, ?_⟩
  · exact { admits_calmBoard with filled := by decide, narrow := by decide }
  · rw [resolve, resolveWith_definitionOf _ _ _ read]
    rfl

end CreatureCards
