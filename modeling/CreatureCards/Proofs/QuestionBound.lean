import CreatureCards.Proofs.QuestionTable

/-!
# How much definitions ask

The number of questions that a definition may come to is computed from the
definition alone.  Effects side by side add up, a repetition multiplies, of
alternatives the one that asks most counts, and a pick adds one to what is done
with its answer.
-/

namespace CreatureCards

open Engine

variable {conduct : Conduct} {bound : ℕ∞} {react : Reactor}

namespace Invocation

/-- The pool from which an invocation draws at random, in a game. -/
def lottery {α : Type} : Invocation α → Option (Board → Context → List CardId)
  | direct kind arguments => kind.lottery fun place => arguments.getD place .null
  | _ => none

/-- Where the invocation draws at random, it may be executed. -/
def Draws {α : Type} (asked : Invocation α) (conduct : Conduct) (react : Reactor) : Prop :=
  ∀ kind arguments, asked = direct kind arguments → ∀ pool, asked.lottery = some pool →
    conduct.Draws (kind.rule react fun place => arguments.getD place .null) pool

/-- How many questions an invocation asks whose nested definitions ask so many. -/
def questions : Invocation Nat → Nat
  | direct kind arguments => kind.questions fun place => arguments.getD place .null
  | composite effects => effects.sum
  | repeated effect count => count.toNat * effect
  | conditional _ whenTrue whenFalse => max whenTrue (whenFalse.getD 0)
  | selectTarget _ effect => 1 + effect
  | selectFromGroup _ nested => 1 + nested.getD 0
  | chooseOption _ options => 1 + (options.map Prod.snd).foldr max 0
  | choice choices => 1 + (choices.map Prod.snd).foldr max 0
  | selectForBuff _ _ | destroy _ | addKeyword _ | buff _ | selectTargetIdly _ => 1
  | buffStats _ _ _ | selectConsume _ _ _ | selectConsumeNoting _ _ _ => 0

end Invocation

/-- How many questions may be asked when the definition is resolved and the
outcome walked. -/
def Value.questionBound (definition : Value) : Nat :=
  match _ : Reading.ofValue definition with
  | .sequence definitions => (definitions.attach.map fun ⟨nested, _⟩ => nested.questionBound).sum
  | .invocation asked => (asked.mapDefinitions fun nested _ => nested.questionBound).questions
  | _ => 0
termination_by definition.depth
decreasing_by
  all_goals
    apply depth_lt_of_mem_definitions
    rw [‹Reading.ofValue definition = _›]
    assumption

theorem Value.questionBound_of_sequence {definition : Value} {definitions : List Value}
    (read : Reading.ofValue definition = .sequence definitions) :
    definition.questionBound = (definitions.map questionBound).sum := by
  rw [questionBound]
  split <;> simp_all

theorem Value.questionBound_of_invocation {definition : Value} {asked : Invocation Value}
    (read : Reading.ofValue definition = .invocation asked) :
    definition.questionBound =
      (asked.mapDefinitions fun nested _ => nested.questionBound).questions := by
  rw [questionBound]
  split
  · simp_all
  · rename_i found
    cases found.symm.trans read
    rfl
  · simp_all

theorem le_foldr_max {numbers : List Nat} {number : Nat} (member : number ∈ numbers) :
    number ≤ numbers.foldr max 0 := by
  induction numbers with
  | nil => cases member
  | cons head rest ih =>
      cases member with
      | head => exact le_max_left _ _
      | tail _ member => exact (ih member).trans (le_max_right _ _)

section SideBySide

variable {α : Type} {items : List α} {questions : α → Nat}

/-- Results side by side ask as much as they ask apart; what reactions may ask is
counted once. -/
theorem Outcome.within_sum (steady : bound + bound ≤ bound) {results : List Outcome}
    (within : List.Forall₂ (fun item result => Within conduct (questions item + bound) result)
      items results) :
    Within conduct ((items.map questions).sum + bound) (.list results) := by
  induction within with
  | nil => exact .nil
  | @cons item result rest others first _ ih =>
      refine .cons first ih ?_
      rw [List.map_cons, List.sum_cons, Nat.cast_add, add_add_add_comm]
      exact add_le_add_right steady _

theorem Conduct.Keeps.sideBySide (steady : bound + bound ≤ bound) {run : α → Engine Outcome}
    (each : ∀ item ∈ items, conduct.AtMost (questions item + bound) (run item)) :
    conduct.Keeps (fun results =>
      Outcome.Within conduct ((items.map questions).sum + bound) (.list results))
      (items.mapM run) :=
  (Keeps.mapM each).weaken fun _ within => Outcome.within_sum steady within

theorem Effect.atMost_composite (steady : bound + bound ≤ bound) {effect : α → Effect}
    (each : ∀ item ∈ items, (effect item).AtMost conduct (questions item + bound)) :
    (composite (items.map effect)).AtMost conduct ((items.map questions).sum + bound) := by
  intro context acting
  unfold composite
  rw [List.mapM_map]
  exact (Conduct.Keeps.sideBySide steady fun item member => each item member context acting).bind
    fun _ within => .pure (Outcome.within_collect within)

end SideBySide

theorem Effect.atMost_conditional (condition : Condition) {whenTrue : Effect}
    {whenFalse : Option Effect} (first : whenTrue.AtMost conduct bound)
    (second : ∀ effect, whenFalse = some effect → effect.AtMost conduct bound) :
    (conditional condition whenTrue whenFalse).AtMost conduct bound := by
  refine fun context acting => .reading fun board =>
    .quietly (.orFail (condition.ends_holds context board))
    fun _ => .ite (fun _ => first context acting) fun _ => ?_
  split
  · exact second _ rfl context acting
  · exact .nothing

namespace Invocation

variable {resolution : Value → Resolution} {questions : Value → Nat}

theorem atMost_effect (steady : bound + bound ≤ bound) (reacts : conduct.Reacts bound react)
    {asked : Invocation Value} (draws : asked.Draws conduct react)
    (each : ∀ nested ∈ asked.pursued, ∀ settings,
      (resolution nested settings).AtMost conduct (questions nested + bound))
        (settings : Settings) :
    ((asked.mapDefinitions fun nested _ => resolution nested).effect react settings).AtMost conduct
      ((asked.mapDefinitions fun nested _ => questions nested).questions + bound) := by
  cases asked with
  | direct kind arguments =>
      exact EffectKind.atMost_rule reacts (fun place => arguments.getD place .null) kind
        (draws kind arguments rfl)
  | buffStats targetType attack health =>
      exact (Effect.quiet_buffStats _ _ _).atMost (Effect.straight_buffStats _ _ _).plain
  | selectForBuff preyOnly stats => exact Effect.atMost_selectForBuff reacts _ _
  | destroy shape => exact Effect.atMost_destroy shape
  | addKeyword shape => exact Effect.atMost_addKeyword shape
  | buff shape => exact Effect.atMost_buff shape
  | composite effects =>
      simp only [mapDefinitions, effect, Invocation.questions, List.attach_map_val, List.map_map]
      exact Effect.atMost_composite steady fun nested member => each nested member settings
  | repeated nested count =>
      have once := each nested (List.mem_singleton_self nested) settings
      have each (item : Value) (member : item ∈ List.replicate count.toNat nested) :
          (resolution item settings).AtMost conduct (questions item + bound) :=
        List.eq_of_mem_replicate member ▸ once
      have copies := Effect.atMost_composite steady each
      rw [List.map_replicate, List.map_replicate, List.sum_replicate] at copies
      exact copies
  | conditional condition whenTrue whenFalse =>
      simp only [mapDefinitions, effect, Invocation.questions, Option.attach_map_val,
        Option.map_map]
      refine Effect.atMost_conditional condition
        ((each whenTrue List.mem_cons_self settings).mono ?_) ?_
      · exact add_le_add_left (Nat.cast_le.2 (le_max_left _ _)) bound
      · intro branch found
        obtain ⟨nested, rfl, rfl⟩ := Option.map_eq_some_iff.1 found
        refine (each nested (List.mem_cons_of_mem _ (List.mem_singleton_self nested)) settings).mono
          ?_
        exact add_le_add_left (Nat.cast_le.2 (le_max_right _ _)) bound
  | selectTarget pool nested =>
      rw [mapDefinitions, Invocation.questions, Nat.cast_add, add_assoc]
      exact Effect.atMost_selectTarget pool (each nested (List.mem_singleton_self nested) settings)
  | selectConsume cardType count nested =>
      simp only [mapDefinitions, effect, Invocation.questions, Option.attach_map_val]
      refine Effect.atMost_selectConsume cardType count ?_
      cases nested with
      | none => exact .value .null
      | some nested =>
          have follows := (each nested (List.mem_singleton_self nested) settings).mono le_top
          exact Outcome.within_callback follows
  | selectTargetIdly pool =>
      have idle : Effect.AtMost conduct bound fun _ => throw .wrongKind := fun _ _ =>
        .throw (conduct.fails_other (by simp))
      simp only [mapDefinitions, effect, Invocation.questions, Nat.cast_one]
      exact Effect.atMost_selectTarget pool idle
  | selectConsumeNoting cardType count note => exact Effect.atMost_selectConsume _ _ (.value note)
  | selectFromGroup shape nested =>
      simp only [mapDefinitions, effect, Invocation.questions, Option.attach_map_val, Nat.cast_add,
        Nat.cast_one, add_assoc]
      have reactsWithin : conduct.Reacts (((nested.map questions).getD 0 : ℕ) + bound) react :=
        fun id context acting => (reacts id context acting).mono le_add_self
      refine Effect.atMost_selectFromGroup reactsWithin shape fun definition found => ?_
      obtain ⟨inner, rfl, rfl⟩ := Option.map_eq_some_iff.1 found
      exact Effect.atMost_withOwnResolver (each inner (List.mem_singleton_self inner))
  | chooseOption title options =>
      simp only [mapDefinitions, effect, Invocation.questions, Nat.cast_add, Nat.cast_one,
        add_assoc]
      refine Effect.atMost_chooseOption title fun option member nestable => ?_
      obtain ⟨⟨entry, isEntry⟩, -, rfl⟩ := List.mem_map.1 member
      have pursues : entry.2 ∈ (chooseOption title options).pursued :=
        List.mem_map_of_mem (List.mem_filter.2 ⟨isEntry, nestable⟩)
      refine (Effect.atMost_withOwnResolver (each entry.2 pursues)).mono ?_
      refine add_le_add_left (Nat.cast_le.2 (le_foldr_max ?_)) bound
      simpa using ⟨_, _, isEntry, rfl⟩
  | choice choices =>
      simp only [mapDefinitions, effect, Invocation.questions, Nat.cast_add, Nat.cast_one,
        add_assoc]
      refine Effect.atMost_chooseDefinition fun choice member => ?_
      obtain ⟨⟨entry, isEntry⟩, -, rfl⟩ := List.mem_map.1 member
      refine (Effect.atMost_withOwnResolver (each entry.2 (List.mem_map_of_mem isEntry))).mono ?_
      refine add_le_add_left (Nat.cast_le.2 (le_foldr_max ?_)) bound
      simpa using ⟨_, _, isEntry, rfl⟩

end Invocation

/-- The invocation is how the definition is read, or a nested definition that may
come to be resolved. -/
inductive Value.Invokes : Value → Invocation Value → Prop
  | here {definition : Value} {asked : Invocation Value}
      (read : Reading.ofValue definition = .invocation asked) : Invokes definition asked
  | within {definition nested : Value} {asked : Invocation Value}
      (member : nested ∈ (Reading.ofValue definition).pursued) (inner : Invokes nested asked) :
      Invokes definition asked

/-- Whatever the definition may draw at random may be drawn, whoever reacts. -/
def Conduct.Allows (conduct : Conduct) (definition : Value) : Prop :=
  ∀ asked, definition.Invokes asked → ∀ react, asked.Draws conduct react

theorem Conduct.allows_of_anything (anything : ∀ before after, conduct.leaves before after)
    (anyhow : conduct.manner = .any) (definition : Value) : conduct.Allows definition := by
  intro asked _ react kind arguments _ pool _
  refine ⟨fun _ _ _ _ _ _ _ _ => anything _ _, fun context _ board _ session => ?_⟩
  rw [anyhow]
  trivial

theorem Conduct.Allows.nested {definition nested : Value} (allows : conduct.Allows definition)
    (member : nested ∈ (Reading.ofValue definition).pursued) : conduct.Allows nested :=
  fun asked invokes => allows asked (.within member invokes)

theorem Conduct.Keeps.refuse (settings : Settings) {failure : Failure}
    (isOther : failure ≠ .endlessReaction) (warning : Warning) :
    conduct.AtMost bound (refuse settings failure warning) :=
  .ite (fun _ => .throw (conduct.fails_other isOther)) fun _ =>
    .quietly (.warn warning) fun _ => .nothing

theorem Conduct.Keeps.refuseUnknown (settings : Settings) (type : Value) :
    conduct.AtMost bound (refuseUnknown settings type) :=
  .refuse settings (by nofun) _

theorem Conduct.Keeps.refuseMalformed (settings : Settings) (cause : Malformation) :
    conduct.AtMost bound (refuseMalformed settings cause) :=
  .refuse settings (by nofun) _

/-- A definition asks no more than its bound says, besides what reactions ask. -/
theorem atMost_resolveWith (steady : bound + bound ≤ bound) (reacts : conduct.Reacts bound react)
    (definition : Value) (allows : conduct.Allows definition) (settings : Settings) :
    (resolveWith react definition settings).AtMost conduct (definition.questionBound + bound) := by
  intro context acting
  have nested (inner : Value) (member : inner ∈ (Reading.ofValue definition).pursued) :
      ∀ settings, (resolveWith react inner settings).AtMost conduct (inner.questionBound + bound) :=
    atMost_resolveWith steady reacts inner (allows.nested member)
  cases read : Reading.ofValue definition with
  | nothing =>
      rw [resolveWith_of_nothing read]
      exact (Conduct.Keeps.adopt acting settings).bind fun _ _ => .nothing
  | sequence definitions =>
      rw [resolveWith_of_sequence read, Value.questionBound_of_sequence read]
      rw [read] at nested
      exact (Conduct.Keeps.adopt acting settings).bind fun adopted acting =>
        (Conduct.Keeps.sideBySide steady fun inner member =>
          nested inner member settings adopted acting).bind
          fun _ within => .merge within
  | invocation asked =>
      rw [resolveWith_of_invocation read, Value.questionBound_of_invocation read]
      rw [read] at nested
      exact (Conduct.Keeps.adopt acting settings).bind fun adopted acting =>
        (Invocation.atMost_effect steady reacts (allows asked (.here read) react) nested
          settings adopted
          acting).orNothing
  | unknown type =>
      rw [resolveWith_of_unknown read]
      exact (Conduct.Keeps.adopt acting settings).bind fun _ _ => .refuseUnknown settings type
  | malformed cause =>
      rw [resolveWith_of_malformed read]
      exact (Conduct.Keeps.adopt acting settings).bind fun _ _ => .refuseMalformed settings cause
  | unreadable failure =>
      rw [resolveWith_of_unreadable read]
      refine (Conduct.Keeps.adopt acting settings).bind fun _ _ => .throw (conduct.fails_other ?_)
      obtain rfl | rfl := Reading.eq_of_unreadable read <;> exact nofun
termination_by definition.depth
decreasing_by exact depth_lt_of_mem_definitions (Reading.mem_definitions_of_pursued member)

/-- Where no card reacts, reactions ask nothing. -/
theorem Conduct.reacts_of_silent (anyhow : conduct.manner = .any)
    (silent : react.Silent conduct.admits) : conduct.Reacts bound react := by
  intro id context _
  constructor
  · intro board admitted session
    rw [silent id context board admitted session]
    exact .ok (conduct.refl session) (.value .null)
  · intro board _ session
    rw [anyhow]
    trivial

end CreatureCards
