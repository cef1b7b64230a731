import CreatureCards.Proofs.AgreeingEffects

/-!
# Inert nodes change nothing

A node that amounts to nothing, or whose effect type does not exist, may be inserted at
any depth into the lists of a definition.  Where the settings that govern the list only
report what they do not know, resolving comes to the same at once and in every answer that
is given later, and nothing but an additional warning tells the difference.  By induction
on the depth of the definition every nested one agrees with the one that the node was
inserted into, so the walks through both outcomes go the same way.
-/

namespace CreatureCards

open Engine

variable {holding : Holding} {react : Reactor} {own : Settings} {definition other : Value}

/-- An inert node comes to nothing. -/
theorem Value.Inert.idles {node : Value} (isInert : node.Inert own) :
    Effect.Idles holding (resolveWith react node own) := by
  intro context bears
  rcases isInert with read | ⟨type, read, lenient⟩
  · rw [resolveWith_of_nothing read]
    exact .adopting bears own (.pure rfl)
  · rw [resolveWith_of_unknown read, refuseUnknown, refuse, lenient]
    exact .adopting bears own (.warning _ (.pure rfl))

section Resolution

theorem Correspondence.admits_unmoved {α : Type} (asked : Invocation α) :
    Correspondence.unmoved.Admits asked :=
  ⟨.inl rfl, fun _ _ _ _ _ _ _ _ => .inl rfl⟩

/-- Cards whose reactions are the same while nobody changes seats, in contexts on the same
seat. -/
structure Reactor.Steady (holding : Holding) (react : Reactor) : Prop where
  corresponds : react.Corresponds .unmoved react
  accords : react.Accords holding.pairing react

theorem steady_reactWithin (patience : Nat) : (reactWithin patience).Steady holding where
  corresponds := corresponds_reactWithin (fun _ _ _ =>
    ⟨fun _ _ _ asked _ => Correspondence.admits_unmoved asked, fun _ _ _ => .inl rfl⟩) patience
  accords := accords_reactWithin patience

namespace Reactor.Steady

variable (steady : react.Steady holding)

include steady

theorem agrees : react.Agrees holding :=
  fun id => .of_unchanged (steady.corresponds id) (steady.accords id)

/-- A definition that is the same comes to the same. -/
theorem agrees_resolveWith (definition : Value) (settings : Settings) :
    Effect.Agrees holding (resolveWith react definition settings)
      (resolveWith react definition settings) :=
  .of_unchanged
    (corresponds_resolveWith steady.corresponds definition
      (fun asked _ => Correspondence.admits_unmoved asked) settings)
    (accords_resolveWith steady.accords definition (.refl settings))

end Reactor.Steady

theorem Invocation.map_labelled {α : Type} (definition : α → Value) (make : Value → Resolution)
    (options : List α) :
    ((options.map fun option => (option, definition option)).attach.map fun entry =>
      (entry.1.1, make entry.1.2)) = options.map fun option =>
        (option, make (definition option)) := by
  rw [List.attach_map_val (f := fun entry : α × Value => (entry.1, make entry.2)), List.map_map]
  rfl

/-- The same is invoked, with an inert node inserted into something nested. -/
theorem Invocation.agrees_effect (reacts : react.Agrees holding) {asked other : Invocation Value}
    (padded : Invocation.Padded holding.settings own asked other)
    (each : ∀ nested ∈ asked.definitions, ∀ settings otherNested,
      nested.Padded holding.settings settings otherNested →
        Effect.Agrees holding (resolveWith react nested settings)
          (resolveWith react otherNested settings)) :
    Effect.Agrees holding
      ((asked.mapDefinitions fun nested _ => resolveWith react nested).effect react own)
      ((other.mapDefinitions fun nested _ => resolveWith react nested).effect react own) := by
  cases padded with
  | composite padding =>
      simp only [mapDefinitions, effect, List.attach_map_val, List.map_map]
      refine Effect.agrees_composite
        (.map (padding.imp (fun nested member otherNested => ?_) fun _ => ?_))
      · exact each nested member own otherNested
      · exact Value.Inert.idles
  | @repeated nested otherNested count here =>
      have agrees := each nested (List.mem_singleton_self nested) own otherNested here
      refine Effect.agrees_composite (.of_forall₂ ?_)
      induction count.toNat with
      | zero => exact .nil
      | succ rounds ih => exact .cons agrees ih
  | conditional condition isTrue isFalse =>
      refine Effect.agrees_conditional condition (each _ List.mem_cons_self own _ isTrue) ?_
      cases isFalse with
      | none => exact .none
      | some here => exact .some (each _ (by simp [definitions]) own _ here)
  | selectTarget pool here =>
      exact Effect.agrees_selectTarget pool (each _ (List.mem_singleton_self _) own _ here)
  | selectConsume cardType count follow =>
      refine Effect.agrees_selectConsume cardType count ?_
      cases follow with
      | none => exact .value .null
      | some here => exact .handing (each _ (List.mem_singleton_self _) own _ here) fun _ _ => id
  | selectFromGroup shape params extra here =>
      refine Effect.agrees_selectFromGroup reacts shape ?_
      cases here with
      | none => exact .none
      | some here =>
          exact .some (Resolution.agrees_withOwnResolver
            (each _ (List.mem_singleton_self _) holding.settings _ here))
  | @chooseOption options others title padded =>
      have listed :=
        (List.forall₂_and_left _ _).2 ⟨fun option (member : option ∈ options) => member, padded⟩
      simp only [mapDefinitions, effect, map_labelled]
      refine Effect.agrees_chooseOption title (listed.imp fun option other both => ⟨both.2, ?_⟩)
      refine Resolution.agrees_withOwnResolver (each _ ?_ holding.settings _ both.2.effect)
      exact List.mem_map_of_mem (List.mem_map_of_mem both.1)
  | @choice choices others padded =>
      have listed :=
        (List.forall₂_and_left _ _).2 ⟨fun choice (member : choice ∈ choices) => member, padded⟩
      simp only [mapDefinitions, effect, map_labelled]
      refine Effect.agrees_chooseDefinition (listed.imp fun choice other both => ⟨both.2, ?_⟩)
      refine Resolution.agrees_withOwnResolver (each _ ?_ holding.settings _ both.2.definition)
      exact List.mem_map_of_mem (List.mem_map_of_mem both.1)

/-- A definition agrees with itself when an inert node was inserted, by induction on its
depth: what is nested in it may be resolved later, when a question is answered. -/
theorem Value.Padded.agrees (steady : react.Steady holding) {definition other : Value}
    {own : Settings} (padded : definition.Padded holding.settings own other) :
    Effect.Agrees holding (resolveWith react definition own) (resolveWith react other own) := by
  have nested (inner : Value) (member : inner ∈ (Reading.ofValue definition).definitions)
      (settings : Settings)
      (otherInner : Value) (here : inner.Padded holding.settings settings otherInner) :
      Effect.Agrees holding (resolveWith react inner settings)
        (resolveWith react otherInner settings) :=
    Value.Padded.agrees steady here
  have readings := padded.reading
  generalize read : Reading.ofValue definition = reading at readings nested
  generalize readOther : Reading.ofValue other = readingOther at readings
  intro context bears
  cases readings with
  | same =>
      rw [resolveWith_congr (readOther.trans read.symm)]
      exact steady.agrees_resolveWith definition own context bears
  | sequence each =>
      rw [resolveWith_of_sequence read, resolveWith_of_sequence readOther]
      refine .adopting bears own
        ((Agree.mapM (each.imp (fun inner member otherInner here => ?_) fun _ isInert =>
        isInert.idles context bears)).bind fun _ _ pads => .orFail (Outcome.Pads.merge pads))
      exact nested inner member own otherInner here context bears
  | invocation invoked =>
      rw [resolveWith_of_invocation read, resolveWith_of_invocation readOther]
      exact .adopting bears own
        (.orNothing (Invocation.agrees_effect steady.agrees invoked nested context bears))
termination_by definition.depth
decreasing_by exact depth_lt_of_mem_definitions member

end Resolution

section Walks

/-- The walks have come equally far, and show the same candidates at every moment. -/
structure Walk.Agrees (holding : Holding) (walk other : Walk) : Prop where
  walks : (Outcome.agreement holding).Walks walk other
  candidates : ∀ board, other.candidates board = walk.candidates board

/-- Answered in the same way on the same boards, the walks come to the same at every step. -/
def Walk.KeepPace (holding : Holding) (walk other : Walk) (session counterpart : Session) :
    (answers : List (Choice × Board)) → Prop
  | [] => walk.Agrees holding other
  | (choice, board) :: later =>
    let answered := walk.submit choice board session
    let otherAnswered := other.submit choice board counterpart
    holding.Comes (Outcome.Agrees holding) (answered.1.1, answered.2)
      (otherAnswered.1.1, otherAnswered.2) ∧
      answered.1.2.KeepPace holding otherAnswered.1.2 answered.2 otherAnswered.2 later

/-- The runs come to outcomes that agree, and so do the walks through these, however they
are answered. -/
structure Holding.Throughout (holding : Holding) (run other : Except Failure Outcome × Session) :
    Prop where
  resolved : holding.Comes (Outcome.Agrees holding) run other
  walked : ∀ outcome counterpart, run.1 = .ok outcome → other.1 = .ok counterpart →
    Matched (fun walk otherWalk => ∀ answers, walk.KeepPace holding otherWalk run.2 other.2 answers)
      (Walk.start outcome) (Walk.start counterpart)

namespace Likeness.Walks

variable {walk other : Walk} (walks : (Outcome.agreement holding).Walks walk other)

include walks

/-- Whoever is shown the question is offered the same. -/
theorem candidates_eq (board : Board) : other.candidates board = walk.candidates board := by
  obtain ⟨applied, queue, current⟩ := walk
  obtain ⟨appliedOther, queueOther, currentOther⟩ := other
  unfold Walk.candidates
  cases walks.current with
  | none => rfl
  | @some question questionOther same =>
      obtain ⟨inquiry, answer⟩ := question
      obtain ⟨inquiryOther, answerOther⟩ := questionOther
      have shown : inquiryOther.shown = inquiry.shown := same.inquiry
      cases inquiry with
      | menu asked =>
          cases inquiryOther with
          | menu other => rfl
          | pick other => cases shown
      | pick asked =>
          cases inquiryOther with
          | menu other => cases shown
          | pick other =>
              obtain rfl : other = asked := Inquiry.pick.inj shown
              rfl

/-- The same answer comes to the same and leaves walks that have come equally far. -/
theorem agree_submit (choice : Choice) (board : Board) {session counterpart : Session}
    (sessions : holding.Sessions session counterpart) :
    let answered := walk.submit choice board session
    let otherAnswered := other.submit choice board counterpart
    holding.Comes (Outcome.Agrees holding) (answered.1.1, answered.2)
      (otherAnswered.1.1, otherAnswered.2) ∧
      (Outcome.agreement holding).Walks answered.1.2 otherAnswered.1.2 := by
  obtain ⟨⟨results, later⟩, next⟩ := walks.answered holding.Sessions sessions fun _ _ same =>
    have comes := same.answer choice board session counterpart sessions
    ⟨comes.results, comes.sessions⟩
  exact ⟨⟨results, later⟩, next⟩

/-- Step by step, by induction on the answers. -/
theorem keepPace {session counterpart : Session} (sessions : holding.Sessions session counterpart)
    (answers : List (Choice × Board)) :
    walk.KeepPace holding other session counterpart answers := by
  induction answers generalizing walk other session counterpart with
  | nil => exact ⟨walks, walks.candidates_eq⟩
  | cons answer later ih =>
      obtain ⟨comes, next⟩ := walks.agree_submit answer.1 answer.2 sessions
      exact ⟨comes, ih next comes.sessions⟩

end Likeness.Walks

/-- Walks through outcomes that agree go the same way. -/
theorem Holding.Comes.throughout {run other : Except Failure Outcome × Session}
    (comes : holding.Comes (Outcome.Agrees holding) run other) : holding.Throughout run other where
  resolved := comes
  walked := by
    intro outcome counterpart resolved resolvedOther
    have results := comes.results
    rw [resolved, resolvedOther] at results
    cases results with
    | ok agrees =>
        have starts := @Likeness.walks_start (Outcome.agreement holding) _ _ agrees
        exact starts.weaken fun _ _ walks => walks.keepPace comes.sessions

end Walks

/-- Inert nodes change nothing.  With a node inserted that amounts to nothing, or whose
effect type does not exist where the settings that govern the list only report that, a
definition comes to the same: the same messages and random numbers, the same descriptors
and prompts, and the same in every walk through them.  Only warnings may be added. -/
theorem inert_nodes_change_nothing {definition padded : Value} (settings : Settings)
    (context : Context) (board : Board) (session : Session)
    (inserted : definition.Inserted ((context.carried session).getD settings) .definition
      settings padded) :
    Holding.Throughout ⟨context.resolver.takenBy settings, (context.carried session).getD settings⟩
      (resolve definition settings context board session)
        (resolve padded settings context board session) := by
  obtain ⟨after, adopted, held, -⟩ := context.exists_adopted settings board session
  let holding : Holding :=
    ⟨context.resolver.takenBy settings, (context.carried session).getD settings⟩
  have agrees : Effect.Agrees holding (resolve definition settings) (resolve padded settings) :=
    Value.Padded.agrees (steady_reactWithin reactionPatience) (.inr inserted)
  have comes :=
    agrees { context with resolver := holding.seat } (.inl rfl) board after after
      ⟨.refl after, held⟩
  rw [resolve, resolve] at comes ⊢
  rw [resolveWith_of_adopted adopted (Context.adopt_of_carried held board),
    resolveWith_of_adopted adopted (Context.adopt_of_carried held board)]
  exact comes.throughout

section Fixed

/-- A menu with a single option. -/
def soleOption (effect : Value) : Value :=
  invocationOf "chooseOption"
    (.object [("options", .list [.object [("effect", effect), ("label", .text "x")]])])

def healing : Value :=
  invocationOf "heal" (.object [("amount", .int 1)])

/-- A node that is inserted into the effects of an option. -/
theorem inserted_soleOption {carried own : Settings} {node : Value} (isInert : node.Inert carried) :
    (soleOption (.list [healing])).Inserted carried .definition own
      (soleOption (.list [node, healing])) := by
  have inEffects : (Value.list ([] ++ [healing])).Inserted carried .definition carried
      (.list ([] ++ node :: [healing])) := .node isInert (by simp)
  have inOption :
      (Value.object ([] ++ ("effect", .list [healing]) :: [("label", .text "x")])).Inserted carried
        .option carried
        (.object ([] ++ ("effect", .list [node, healing]) :: [("label", .text "x")])) :=
    .field .option (by simp) inEffects
  have inOptions :
      (Value.list ([] ++ .object [("effect", .list [healing]), ("label", .text "x")] ::
        [])).Inserted
      carried .options carried
      (.list ([] ++ .object [("effect", .list [node, healing]), ("label", .text "x")] :: [])) :=
    .item .option inOption
  have inParams : (Value.object ([] ++ ("options", .list
      [.object [("effect", .list [healing]), ("label", .text "x")]]) :: [])).Inserted carried
      (.params .chooseOption) own (.object ([] ++ ("options", .list
      [.object [("effect", .list [node, healing]), ("label", .text "x")]]) :: [])) :=
    .field .chooseOption (by simp) inOptions
  have typed : Slot.Field (.object ([] ++ ("params", .object
      [("options", .list [.object [("effect", .list [healing]), ("label", .text "x")]])]) ::
      [("type", .text "chooseOption")])) .definition "params"
        (.params .chooseOption) := .definition rfl
  exact .field typed (by simp) inParams

/-- Whatever a resolver's own settings are, those that the context carries decide what
becomes of the option. -/
theorem resolve_soleOption (settings carried : Settings) (first : Value) (rest : List Value) :
    resolve (soleOption (.list (first :: rest))) settings { resolver := .taken carried } = (do
      announce "x"
      return (← resolve (.list (first :: rest)) carried
        { resolver := .taken carried }).orNothing) := by
  have read : Reading.ofValue (soleOption (.list (first :: rest))) = .invocation (.chooseOption none
      [({ label := "x", effect := .list (first :: rest) }, .list (first :: rest))]) := rfl
  rw [resolve, resolveWith_of_invocation read]
  rfl

theorem unknown_node_changes_nothing_in_lenient_context :
    let session := (default : Moment).session
    let context : Context := {}
    (soleOption (.list [healing])).Inserted ((context.carried session).getD {}) .definition {}
        (soleOption (.list [definitionOf "bogus", healing])) ∧
      Holding.Throughout ⟨context.resolver.takenBy {}, (context.carried session).getD {}⟩
        (resolve (soleOption (.list [healing])) {} context touchyBoard session)
        (resolve (soleOption (.list [definitionOf "bogus", healing])) {} context touchyBoard
          session) := by
  intro session context
  have isInert : (definitionOf "bogus").Inert ((context.carried session).getD {}) :=
    .inr ⟨.text "bogus", rfl, rfl⟩
  have inserted :
      (soleOption (.list [healing])).Inserted ((context.carried session).getD {}) .definition {}
      (soleOption (.list [definitionOf "bogus", healing])) := inserted_soleOption isInert
  exact ⟨inserted, inert_nodes_change_nothing {} context touchyBoard session inserted⟩

/-- A resolver that is lenient itself does not help against a strict one in the context:
with a node of unknown type among the effects of an option, choosing it fails. -/
theorem unknown_node_fails_in_strict_context :
    let lenient : Settings := {}
    let context : Context := { resolver := .taken { strict := true } }
    let session := (default : Moment).session
    lenient.strict = false ∧
      (soleOption (.list [healing])).Inserted lenient .definition lenient
        (soleOption (.list [definitionOf "bogus", healing])) ∧
      (resolve (soleOption (.list [healing])) lenient context touchyBoard session).1 =
        .ok (.descriptor "heal" (.int 1)) ∧
      (resolve (soleOption (.list [definitionOf "bogus", healing])) lenient context touchyBoard
        session).1 =
        .error (.unknownEffect "bogus") := by
  have read : Reading.ofValue (.list [healing]) = .sequence [healing] := rfl
  have readOther : Reading.ofValue (.list [definitionOf "bogus", healing]) =
      .sequence [definitionOf "bogus", healing] := rfl
  have heals : Reading.ofValue healing = .invocation (.direct .heal [.int 1]) := rfl
  have unknown : Reading.ofValue (definitionOf "bogus") = .unknown (.text "bogus") := rfl
  refine ⟨rfl, inserted_soleOption (.inr ⟨.text "bogus", rfl, rfl⟩), ?resolved, ?refused⟩
  case resolved =>
    rw [resolve_soleOption, resolve]
    simp only [resolveWith_of_sequence read, List.mapM_cons, resolveWith_of_invocation heals,
      List.mapM_nil]
    rfl
  case refused =>
    rw [resolve_soleOption, resolve]
    simp only [resolveWith_of_sequence readOther, List.mapM_cons, resolveWith_of_unknown unknown,
      refuseUnknown, refuse]
    rfl

end Fixed

end CreatureCards
