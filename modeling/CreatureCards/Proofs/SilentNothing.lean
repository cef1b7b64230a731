import CreatureCards.Proofs.ScaledDraw
import CreatureCards.Proofs.SpeakingEffects

/-!
# Nothing in silence

Effects that nest no definition come to something or tell the player why not, but for ten
effect types that forget it in some situations.  Webs say nothing about creatures that are
trapped already, some effects on the acting creature say nothing where there is none, and
three effects with a mode say nothing in a mode that they do not know.  The situations can
be told before the effect runs, and in each of them it leaves the log as it is.
-/

namespace CreatureCards

open Engine

variable {board : Board} {session : Session} {silent other : Prop} {running : Engine Outcome}

/-- From this session, the run does nothing and tells the player nothing if the condition
holds, and otherwise comes to something, tells the player a message, or breaks off. -/
structure SilentExactly (board : Board) (session : Session) (silent : Prop)
    (running : Engine Outcome) :
    Prop where
  silence : silent → ∃ after, running board session = (.ok .nothing, after) ∧
    after.log = session.log
  speech : ¬ silent → SpokenFrom board session running

namespace SilentExactly

theorem spoken (never : ¬ silent) (speaks : Spoken board running) :
    SilentExactly board session silent running :=
  ⟨fun holds => absurd holds never, fun _ => speaks session⟩

theorem nothing (always : silent) : SilentExactly board session silent (return .nothing) :=
  ⟨fun _ => ⟨session, rfl, rfl⟩, fun never => absurd always never⟩

theorem broken {failure : Failure} {after : Session} (never : ¬ silent)
    (breaks : running board session = (.error failure, after)) :
    SilentExactly board session silent running :=
  ⟨fun holds => absurd holds never, fun _ => .broken breaks⟩

theorem reading {next : Board → Engine Outcome}
    (onward : SilentExactly board session silent (next board)) :
    SilentExactly board session silent (Engine.board >>= next) :=
  ⟨onward.silence, onward.speech⟩

theorem branch {decided : Prop} [Decidable decided] {yes no : Engine Outcome}
    (whenTrue : decided → SilentExactly board session silent yes)
    (whenFalse : ¬ decided → SilentExactly board session silent no) :
    SilentExactly board session silent (if decided then yes else no) := by
  split
  · exact whenTrue ‹_›
  · exact whenFalse ‹_›

theorem of_iff (exactly : SilentExactly board session silent running) (same : other ↔ silent) :
    SilentExactly board session other running :=
  ⟨fun holds => exactly.silence (same.1 holds), fun never => exactly.speech fun holds =>
    never (same.2 holds)⟩

/-- What leaves the log alone may happen first. -/
theorem starting {α : Type} {first : Engine α} {next : α → Engine Outcome} {value : α}
    {between : Session} (begun : first board session = (.ok value, between))
    (left : between.log = session.log) (onward : SilentExactly board between silent (next value)) :
    SilentExactly board session silent (first >>= next) where
  silence holds := by
    obtain ⟨after, ran, same⟩ := onward.silence holds
    exact ⟨after, (bind_of_ok begun).trans ran, same.trans left⟩
  speech never := .starting begun left (onward.speech never)

theorem orNothing (exactly : SilentExactly board session silent running) :
    SilentExactly board session silent (do return (← running).orNothing) where
  silence holds := by
    obtain ⟨after, ran, same⟩ := exactly.silence holds
    exact ⟨after, bind_of_ok ran, same⟩
  speech never := (exactly.speech never).orNothing

end SilentExactly

section Situations

variable (context : Context) (board : Board) (session : Session)

/-- The place of the creature that a web is thrown at, as it is drawn in a game. -/
def webbedPlace : Except Failure Int :=
  if context.inGame then
    (session.random.draw (board.enemyCreatures context).length).map Prod.fst
  else .ok 0

/-- The situations in which an effect type does nothing in silence. -/
def EffectKind.Unspoken : EffectKind → Prop
  | .webAllEnemies =>
    board.enemyCreatures context ≠ [] ∧
      ∀ id ∈ board.enemyCreatures context, (board.card id).isWebbed = true
  | .webAttacker => ∀ id, board.freshAttacker context = some id → (board.card id).isWebbed = true
  | .webTarget =>
    ∃ only, board.targetableEnemies context anyCard = [only] ∧ (board.card only).isWebbed = true
  | .webRandomEnemy =>
    ∃ place id, webbedPlace context board session = .ok place ∧
      (board.enemyCreatures context)[place.toNat]? = some id ∧ (board.card id).isWebbed = true
  | .buffAtkPerWebbed => board.webbedEnemies context ≠ [] ∧ context.creature = none
  | .enterStalkModeOnPlay =>
    ∀ id, context.creature = some id → (board.card id).hasStalk = true →
      (board.card id).stalking = true
  | .trackAttackForRegenHeal => context.creature = none
  | _ => False

/-- The situations in which what was asked for does nothing in silence. -/
def Invocation.Unspoken {α : Type} : Invocation α → Prop
  | direct kind _ => kind.Unspoken context board session
  | addKeyword shape =>
    shape.target ≠ some "friendlyCreatures" ∧ shape.target ≠ some "targetCreature" ∧
      (shape.target = some "self" → context.creature = none)
  | buff shape => shape.target = some "self" ∧ context.creature = none
  | destroy shape => shape.target ∉ ["enemyCreatures", "allCreatures", "targetEnemy"]
  | _ => False

end Situations

namespace Effect

variable (context : Context)

theorem silent_web (creature : CardId) :
    SilentExactly board session ((board.card creature).isWebbed = true) (web creature) :=
  .reading <| .branch .nothing fun free => .spoken free (.answering _ _)

theorem silent_webAllEnemies :
    SilentExactly board session (EffectKind.webAllEnemies.Unspoken context board session)
      (webAllEnemies context) := by
  refine .reading (.branch (fun none => ?_) fun some =>
    .reading (.branch (fun held => ?_) fun free => ?_))
  · -- Without enemies the web says so.
    have unslipped : ¬ EffectKind.webAllEnemies.Unspoken context board session := by
      rintro ⟨present, -⟩
      exact present (List.isEmpty_iff.1 none)
    exact .spoken unslipped (.answering _ _)
  · have present : board.enemyCreatures context ≠ [] := by
      intro empty
      exact some (List.isEmpty_iff.2 empty)
    have webbed : ∀ id ∈ board.enemyCreatures context, (board.card id).isWebbed = true := by
      intro id member
      simpa using List.filter_eq_nil_iff.1 (List.isEmpty_iff.1 held) id member
    exact .nothing ⟨present, webbed⟩
  · -- One that is free is trapped, and the web tells of it.
    have unslipped : ¬ EffectKind.webAllEnemies.Unspoken context board session := by
      rintro ⟨-, webbed⟩
      refine free (List.isEmpty_iff.2 (List.filter_eq_nil_iff.2 fun id member => ?_))
      simp [webbed id member]
    exact .spoken unslipped (Present.spoken (.after fun _ => .pure rfl))

theorem silent_webAttacker :
    SilentExactly board session (EffectKind.webAttacker.Unspoken context board session)
      (webAttacker context) := by
  refine .reading ?_
  cases found : board.freshAttacker context with
  | none => exact .nothing fun id isFresh => by cases found.symm.trans isFresh
  | some attacker =>
    have same : (∀ id, board.freshAttacker context = some id → (board.card id).isWebbed = true) ↔
        (board.card attacker).isWebbed = true := by simp [found]
    exact (silent_web attacker).of_iff same

theorem silent_webTarget :
    SilentExactly board session (EffectKind.webTarget.Unspoken context board session)
      (webTarget context) := by
  refine .reading <| .branch (fun empty => ?_) fun present => .reading ?_
  · refine .spoken ?_ (.answering _ _)
    rintro ⟨only, isOnly, -⟩
    simp [isOnly] at empty
  dsimp only
  rcases targets : board.targetableEnemies context anyCard with - | ⟨only, - | ⟨second, rest⟩⟩
  · exact absurd (List.isEmpty_iff.2 targets) present
  · have same : (∃ id, board.targetableEnemies context anyCard = [id] ∧
        (board.card id).isWebbed = true) ↔
        (board.card only).isWebbed = true := by simp [targets]
    exact (silent_web only).orNothing.of_iff same
  · refine .spoken ?_ fun _ _ _ ran => ?_
    · rintro ⟨single, isSingle, -⟩
      cases targets.symm.trans isSingle
    · cases ran
      exact .inl rfl

/-- A web that is thrown at the creature in the drawn place, if there is one. -/
theorem silent_thrownWeb {place : Int} (drawn : webbedPlace context board session = .ok place)
    {between : Session} {throwing : Engine Outcome}
    (hits : ∀ id, (board.enemyCreatures context)[place.toNat]? = some id → throwing = web id)
    (misses : (board.enemyCreatures context)[place.toNat]? = none → throwing = throw .badValue) :
    SilentExactly board between (EffectKind.webRandomEnemy.Unspoken context board session)
      throwing := by
  cases found : (board.enemyCreatures context)[place.toNat]? with
  | none =>
    rw [misses found]
    refine .broken ?_ rfl
    rintro ⟨other, id, isPlace, isThere, -⟩
    cases drawn.symm.trans isPlace
    cases found.symm.trans isThere
  | some id =>
    have same : (∃ place id, webbedPlace context board session = .ok place ∧
        (board.enemyCreatures context)[place.toNat]? = some id ∧ (board.card id).isWebbed = true) ↔
        (board.card id).isWebbed = true := by simp [drawn, found]
    rw [hits id found]
    exact (silent_web id).of_iff same

theorem silent_webRandomEnemy :
    SilentExactly board session (EffectKind.webRandomEnemy.Unspoken context board session)
      (webRandomEnemy context) := by
  refine .reading <| .branch (fun empty => ?_) fun present => ?_
  · refine .spoken ?_ (.answering _ _)
    rintro ⟨place, id, -, found, -⟩
    simp [List.isEmpty_iff.1 empty] at found
  dsimp only
  refine .branch (fun inGame => ?_) fun outside => ?_
  · have draws := Engine.draw_eq (board.enemyCreatures context).length board session
    cases drawn : session.random.draw (board.enemyCreatures context).length with
    | error failure =>
      rw [drawn] at draws
      refine .broken ?_ (bind_of_error draws)
      rintro ⟨place, id, isPlace, -⟩
      simp [webbedPlace, inGame, drawn, Except.map] at isPlace
    | ok number =>
      rw [drawn] at draws
      have isPlace : webbedPlace context board session = .ok number.1 := by
        simp [webbedPlace, inGame, drawn, Except.map]
      exact .starting draws rfl
        (silent_thrownWeb context isPlace (fun id found => by simp only [found]) fun found =>
          by simp only [found])
  · have isPlace : webbedPlace context board session = .ok 0 := by simp [webbedPlace, outside]
    exact .starting rfl rfl
      (silent_thrownWeb context isPlace (fun id found => by simp only [found]) fun found =>
        by simp only [found])

theorem silent_buffAtkPerWebbed (bonus : Value) :
    SilentExactly board session (EffectKind.buffAtkPerWebbed.Unspoken context board session)
      (buffAtkPerWebbed bonus context) := by
  refine .reading <| .branch (fun empty => ?_) fun present => ?_
  · exact .spoken (fun slips => slips.1 (List.isEmpty_iff.1 empty)) (.answering _ _)
  · dsimp only
    cases acting : context.creature with
    | none => exact .nothing ⟨fun empty => present (List.isEmpty_iff.2 empty), acting⟩
    | some creature =>
      exact .spoken (fun slips => by cases acting.symm.trans slips.2)
        (.making fun _ _ => .answering _ _)

theorem silent_enterStalkModeOnPlay :
    SilentExactly board session (EffectKind.enterStalkModeOnPlay.Unspoken context board session)
      (enterStalkModeOnPlay context) := by
  refine .reading ?_
  cases acting : context.creature with
  | none => exact .nothing fun id isActing => by cases acting.symm.trans isActing
  | some creature =>
    have same : (∀ id, context.creature = some id →
        (board.card id).hasStalk = true → (board.card id).stalking = true) ↔
        ((board.card creature).hasStalk = true → (board.card creature).stalking = true) := by
      simp [acting]
    refine .branch (fun able => .spoken (mt same.1 ?_) (spoken_enterStalking _))
      fun unable => .nothing (same.2 ?_)
    · simpa using able
    · simpa using unable

theorem silent_trackAttackForRegenHeal (healAmount : Value) :
    SilentExactly board session (EffectKind.trackAttackForRegenHeal.Unspoken context board session)
      (trackAttackForRegenHeal healAmount context) := by
  unfold trackAttackForRegenHeal
  cases acting : context.creature with
  | none => exact .nothing acting
  | some creature =>
    exact .spoken (fun slips => by cases acting.symm.trans slips) (.answering _ _)

theorem silent_addKeyword (shape : AddKeywordShape) :
    SilentExactly board session
      ((Invocation.addKeyword shape : Invocation Value).Unspoken context board session)
      (addKeyword shape context) := by
  refine .branch (fun isAll => ?_) fun notAll => .branch (fun isPick => ?_) fun notPick =>
    .branch (fun isSelf => ?_) fun notSelf => ?_
  · exact .spoken (fun slips => slips.1 isAll) (speaks_onFriendlies _ _ _ context board)
  · exact .spoken (fun slips => slips.2.1 isPick) (.reading <| .unlessEmpty fun present =>
      .pickOne (board.cardCandidates_ne_nil _ _ present) (.onCard (spoken_gainKeyword _)))
  · cases acting : context.creature with
    | none => exact .nothing ⟨notAll, notPick, fun _ => acting⟩
    | some creature =>
      exact .spoken (fun slips => by cases acting.symm.trans (slips.2.2 isSelf))
        (spoken_gainKeyword _ _)
  · exact .nothing ⟨notAll, notPick, fun isSelf => absurd isSelf notSelf⟩

theorem silent_buff (shape : BuffShape) :
    SilentExactly board session
      ((Invocation.buff shape : Invocation Value).Unspoken context board session)
      (buff shape context) := by
  refine .branch (fun isAll => ?_) fun _ => .branch (fun isSelf => ?_) fun notSelf => ?_
  · exact .spoken (by simp [Invocation.Unspoken, isAll]) (speaks_buffFriendlies _ _ context board)
  · cases acting : context.creature with
    | none => exact .nothing ⟨isSelf, acting⟩
    | some creature =>
        exact .spoken (fun slips => by cases acting.symm.trans slips.2) (spoken_gainStats _ _ _)
  · exact .spoken (fun slips => notSelf slips.1) (.reading <| .unlessEmpty fun present =>
      .pickOne (board.cardCandidates_ne_nil _ _ present) (.onCard (spoken_gainStats _ _)))

theorem silent_destroy (shape : DestroyShape) :
    SilentExactly board session
      ((Invocation.destroy shape : Invocation Value).Unspoken context board session)
      (destroy shape context) := by
  refine .reading <| .branch (fun isAll => ?_) fun notAll =>
    .branch (fun isBoth => ?_) fun notBoth =>
    .branch (fun isPick => ?_) fun notPick => ?_
  · exact .spoken (by simp [Invocation.Unspoken, isAll]) (.unlessEmpty fun _ => .answering _ _)
  · exact .spoken (by simp [Invocation.Unspoken, isBoth])
      (.branch (fun _ => .answering _ _) fun _ => .answering _ _)
  · exact .spoken (by simp [Invocation.Unspoken, isPick]) (.unlessEmpty fun present =>
      .pickOne (board.cardCandidates_ne_nil _ _ present) (.onCard (spoken_destroyPicked context)))
  · exact .nothing (by simp [Invocation.Unspoken, notAll, notBoth, notPick])

end Effect

namespace EffectKind

/-- An effect type with a rule keeps silent in its situations and in no other. -/
theorem silent_rule (react : Reactor) (argument : Nat → Value) {kind : EffectKind}
    (ruled : kind.isRuled = true) (context : Context) :
    SilentExactly board session (kind.Unspoken context board session)
      (kind.rule react argument context) := by
  by_cases reliable : kind.maySlip = false
  · have never : ¬ kind.Unspoken context board session := by
      cases kind <;> first | exact id | cases reliable
    exact .spoken never (speaks_rule react argument ruled reliable context board)
  · cases kind with
    | webAllEnemies => exact Effect.silent_webAllEnemies context
    | webAttacker => exact Effect.silent_webAttacker context
    | webTarget => exact Effect.silent_webTarget context
    | webRandomEnemy => exact Effect.silent_webRandomEnemy context
    | buffAtkPerWebbed => exact Effect.silent_buffAtkPerWebbed context _
    | enterStalkModeOnPlay => exact Effect.silent_enterStalkModeOnPlay context
    | trackAttackForRegenHeal => exact Effect.silent_trackAttackForRegenHeal context _
    | _ => exact absurd rfl reliable

/-- The effect type nests definitions. -/
def nests : EffectKind → Bool
  | .composite | .repeated | .conditional | .selectTarget | .selectConsume | .selectFromGroup
  | .chooseOption | .choice => true
  | _ => false

end EffectKind

/-- What effect types that nest nothing are bound to. -/
inductive Invocation.IsLeaf {α : Type} : Invocation α → Prop
  | direct {kind : EffectKind} (ruled : kind.isRuled = true) (arguments : List Value) :
      IsLeaf (.direct kind arguments)
  | buffStats (targetType attack health : Value) : IsLeaf (.buffStats targetType attack health)
  | selectForBuff (preyOnly : Bool) (stats : Stats) : IsLeaf (.selectForBuff preyOnly stats)
  | destroy (shape : DestroyShape) : IsLeaf (.destroy shape)
  | addKeyword (shape : AddKeywordShape) : IsLeaf (.addKeyword shape)
  | buff (shape : BuffShape) : IsLeaf (.buff shape)

namespace Invocation

variable {kind : EffectKind} {params : Value} {asked : Invocation Value}

theorem isLeaf_of_bindArguments {arguments : List Value} (takes : kind.takesArguments = true)
    (full : arguments.length = kind.formals.length)
    (bound : bindArguments kind arguments = .ok asked) :
    asked.IsLeaf := by
  unfold bindArguments at bound
  split at bound
  · unfold bindBuffStats at bound
    split at bound
    · cases bound
      exact .buffStats _ _ _
    · cases bound
  · obtain ⟨stats, -, same⟩ := bind_eq_ok.1 bound
    cases same
    exact .selectForBuff true stats
  · rename_i notBuff notPrey
    cases bound
    -- The two types that are not ruled by the table take as many arguments as are expected.
    have ruled : kind.isRuled = true := by
      cases kind with
      | buffStats =>
        obtain ⟨targetType, stats, same⟩ := List.length_eq_two.1 full
        exact absurd same (notBuff targetType stats rfl)
      | selectPreyForBuff =>
        obtain ⟨stats, same⟩ := List.length_eq_one_iff.1 full
        exact absurd same (notPrey stats rfl)
      | _ => exact takes
    exact .direct ruled arguments

theorem isLeaf_of_bind (leaf : kind.nests = false) (bound : bind kind params = .ok asked) :
    asked.IsLeaf := by
  by_cases takes : kind.takesArguments = true
  · rw [EffectKind.bind_of_takesArguments takes] at bound
    obtain ⟨arguments, made, bound⟩ := bind_eq_ok.1 bound
    exact isLeaf_of_bindArguments takes (EffectKind.length_arguments made) bound
  · cases kind with
    | destroy =>
      obtain ⟨shape, -, same⟩ := bind_eq_ok.1 bound
      cases same
      exact .destroy shape
    | addKeyword =>
      obtain ⟨shape, -, same⟩ := bind_eq_ok.1 bound
      cases same
      exact .addKeyword shape
    | buff =>
      obtain ⟨shape, -, same⟩ := bind_eq_ok.1 bound
      cases same
      exact .buff shape
    | selectCreatureForBuff =>
      obtain ⟨given, -, bound⟩ := bind_eq_ok.1 bound
      obtain ⟨stats, -, same⟩ := bind_eq_ok.1 bound
      cases same
      exact .selectForBuff false stats
    | composite | repeated | conditional | selectTarget | selectConsume | selectFromGroup
    | chooseOption | choice => cases leaf
    | _ => exact absurd rfl takes

theorem silent_effect (isLeaf : asked.IsLeaf) (react : Reactor) (settings : Settings)
    (context : Context)
    (make : (definition : Value) → definition ∈ asked.definitions → Resolution) :
    SilentExactly board session (asked.Unspoken context board session)
      ((asked.mapDefinitions make).effect react settings context) := by
  cases isLeaf with
  | @direct kind ruled arguments =>
    have exactly : SilentExactly board session (kind.Unspoken context board session)
        (kind.rule react (fun place => arguments.getD place .null) context) :=
      EffectKind.silent_rule react _ ruled context
    exact exactly
  | buffStats targetType attack health =>
      exact .spoken id (Effect.speaks_buffStats _ _ _ context board)
  | selectForBuff preyOnly stats =>
      exact .spoken id (Effect.speaks_selectForBuff preyOnly stats context board)
  | destroy shape => exact Effect.silent_destroy context shape
  | addKeyword shape => exact Effect.silent_addKeyword context shape
  | buff shape => exact Effect.silent_buff context shape

end Invocation

/-- Whether nothing is done in silence has nothing to do with who resolves it. -/
theorem Invocation.unspoken_iff {asked : Invocation Value} {after : Session} (context : Context)
    (resolver : ResolverSeat) (same : session.SameRecords after) :
    asked.Unspoken { context with resolver } board after ↔
      asked.Unspoken context board session := by
  cases asked with
  | direct kind arguments =>
    cases kind with
    | webRandomEnemy =>
      simp only [Unspoken, EffectKind.Unspoken, webbedPlace, same.random]
      rfl
    | _ => rfl
  | _ => rfl

/-- An effect type that nests no definition comes to something, tells the player why not,
or breaks off, but in the situations in which it is known to keep silent; there it does
nothing and leaves the log as it is.  The same goes for resolving a definition that asks
for it. -/
theorem effects_keep_silent_exactly_in_their_situations {kind : EffectKind} {params : Value}
    {asked : Invocation Value} (leaf : kind.nests = false)
    (bound : Invocation.bind kind params = .ok asked)
    (react : Reactor) (settings : Settings) (context : Context) (board : Board)
    (session : Session) :
    SilentExactly board session (asked.Unspoken context board session)
      ((asked.mapDefinitions fun nested _ => resolveWith react nested).effect react settings
        context) ∧
    ∀ {definition : Value}, definition.Asks kind params →
      SilentExactly board session (asked.Unspoken context board session)
        (resolveWith react definition settings context) := by
  have isLeaf := Invocation.isLeaf_of_bind leaf bound
  refine ⟨Invocation.silent_effect isLeaf react settings context _, fun {definition} asks => ?_⟩
  have read : Reading.ofValue definition = .invocation asked := by
    rw [asks.reading, bound]
    rfl
  obtain ⟨after, adopted, -, same⟩ := context.exists_adopted settings board session
  rw [resolveWith_of_invocation read]
  refine .starting adopted same.log.symm ?_
  exact (Invocation.silent_effect isLeaf react settings _ _).orNothing.of_iff
    (Invocation.unspoken_iff context _ same).symm

/-- Webs say nothing where every creature of the rival is in one. -/
theorem webbing_the_webbed_says_nothing :
    let context : Context := { player := some 0, opponent := some 1 }
    let definition : Value := .object [("type", .text "webAllEnemies")]
    let session : Session := { random := .scripted [] 0 }
    (EffectKind.webAllEnemies.nests = false ∧
      Invocation.bind .webAllEnemies .null = .ok (.direct .webAllEnemies []) ∧
      definition.Asks .webAllEnemies .null) ∧
    ∃ after, resolve definition {} context webbedBoard session = (.ok .nothing, after) ∧
      after.log = [] := by
  intro context definition session
  have asks : definition.Asks .webAllEnemies .null := ⟨rfl, rfl, rfl⟩
  have bound : Invocation.bind .webAllEnemies .null = .ok (.direct .webAllEnemies []) := rfl
  obtain ⟨-, resolved⟩ := effects_keep_silent_exactly_in_their_situations rfl bound
    (reactWithin reactionPatience) {} context webbedBoard session
  have trapped : EffectKind.webAllEnemies.Unspoken context webbedBoard session := by
    have alone : webbedBoard.enemyCreatures context = [⟨"fly"⟩] := rfl
    have isTrapped : (webbedBoard.card ⟨"fly"⟩).isWebbed = true := by decide +kernel
    rw [EffectKind.Unspoken, alone]
    simpa using isTrapped
  exact ⟨⟨rfl, bound, asks⟩, (resolved asks).silence trapped⟩

/-- An attacker is to be webbed where nobody attacks; nothing is done, and nothing said. -/
theorem webbing_no_attacker_says_nothing :
    let context : Context := { player := some 0, opponent := some 1 }
    let definition : Value := .object [("type", .text "webAttacker")]
    let session : Session := { random := .scripted [] 0 }
    EffectKind.webAttacker.nests = false ∧
    Invocation.bind .webAttacker .null = .ok (.direct .webAttacker []) ∧
    resolve definition {} context webbedBoard session = (.ok .nothing, session) ∧
      ¬ session.Told session := by
  intro context definition session
  have read : Reading.ofValue definition = .invocation (.direct .webAttacker []) := rfl
  refine ⟨rfl, rfl, ?_, ?_⟩
  · rw [resolve, resolveWith_of_invocation read]
    rfl
  · rintro ⟨message, further, more⟩
    cases more

end CreatureCards
