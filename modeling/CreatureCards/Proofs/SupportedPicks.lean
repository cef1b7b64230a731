import CreatureCards.Proofs.LatePick
import CreatureCards.Proofs.SupportedEffects
import CreatureCards.Proofs.UsableDefinition

/-!
# Supported picks

The effects that ask something are supported where no card reacts, the acting player is
there, and hands and decks have no empty places: whatever is shown can be picked, now or
later, and what comes of the pick is reliable again.  A missing creature is in the way of a
single effect, the one in which the acting creature eats its prey.
-/

namespace CreatureCards

open Engine

/-- The number is not too long to be told. -/
def Value.IsTellable (number : Int) : Prop :=
  number.natAbs < Nat.pow 10 longestNumeral

theorem Value.isTellable_zero : IsTellable 0 := by
  unfold IsTellable
  generalize longestNumeral = digits
  exact Nat.pow_pos (by decide)

/-- Where effects act from: the place of the acting player, the creature whose ability acts,
and the greatest number of places on a field. -/
structure Stance where
  place : Nat
  creature : Option CardId := none
  slots : Nat

namespace Stance

/-- No card reacts, the acting player is there, hands and decks have no empty places, fields
have no more places than they may, and the acting player's shell levels add up to something
that can be told. -/
structure Admits (stance : Stance) (board : Board) : Prop where
  unreactive : board.Unreactive
  present : stance.place < board.players.length
  filled : ∀ player ∈ board.players, none ∉ player.hand ∧ none ∉ player.deck
  narrow : ∀ player ∈ board.players, player.field.length ≤ stance.slots
  shells : Value.IsTellable (Effect.totalShell board { player := some stance.place })

structure Acts (stance : Stance) (context : Context) : Prop where
  player : context.player = some stance.place
  creature : context.creature = stance.creature

def footing (stance : Stance) : Footing where
  admits := stance.Admits
  acts := stance.Acts

variable {stance : Stance} {context : Context} {board : Board}

/-- The acting player is found, and holds cards only. -/
theorem Admits.exists_actor (admits : stance.Admits board) (acts : stance.Acts context) :
    ∃ player ∈ board.players, context.actor board = some player := by
  have below := admits.present
  refine ⟨board.players[stance.place], List.getElem_mem below, ?_⟩
  rw [Context.actor, acts.player, Option.bind_some, List.getElem?_eq_getElem below]

/-- The acting player is asked for. -/
theorem requiring {α : Type} {good : α → Prop} {next : Player → Engine α}
    (admits : stance.Admits board) (acts : stance.Acts context)
    (each : ∀ player ∈ board.players, Succeeds stance.footing.admits good (next player)) :
    Succeeds stance.footing.admits good (require (context.actor board) >>= next) := by
  obtain ⟨player, member, isActor⟩ := admits.exists_actor acts
  exact .requiring isActor (each player member)

end Stance

theorem Board.mem_players_of_discardRival {board : Board} {context : Context} {rival : Player}
    (found : (Effect.discardRival board context).2 = some rival) : rival ∈ board.players := by
  unfold Effect.discardRival at found
  split at found
  · dsimp only at found
    split at found
    · unfold Board.player? at found
      split at found
      · cases found
      · exact List.mem_of_getElem? found
    · cases found
  · obtain ⟨place, -, isRival⟩ := Option.bind_eq_some_iff.1 found
    exact List.mem_of_getElem? isRival

namespace Outcome

variable {footing : Footing}

theorem IsReliable.asking {pick : Pick} {answer : Choice → Engine Outcome}
    (reliable : Reliable footing (question (.pick pick) answer)) :
    IsReliable footing (asking pick answer) :=
  IsReliable.nothing.cons_question List.not_mem_nil (by decide) trivial reliable

theorem IsReliable.offering {menu : Menu} {answer : Choice → Engine Outcome}
    (reliable : Reliable footing (question (.menu menu) answer)) :
    IsReliable footing (offering menu answer) :=
  IsReliable.nothing.cons_question List.not_mem_nil (by decide) trivial reliable

theorem Reliable.listed {style : PickStyle} {title : String} {candidates : List Candidate}
    {answer : Choice → Engine Outcome}
    (each : ∀ candidate ∈ candidates, footing.Supports (answer candidate.value)) :
    Reliable footing (question (.pick (style.pick title (.listed candidates))) answer) := by
  refine .of_answers (fun _ _ => ⟨candidates, rfl⟩) fun board _ choice shows => ?_
  obtain ⟨_, isListed, member⟩ := shows
  cases isListed
  obtain ⟨candidate, isCandidate, rfl⟩ := List.mem_map.1 member
  exact (each candidate isCandidate).weaken fun _ reliable => reliable.orNothing

/-- A pick is reliable whose cards are found when it is shown. -/
theorem Reliable.later {style : PickStyle} {title : String}
    {candidates : Board → Except Failure (List Candidate)} {answer : CardId → Engine Outcome}
    (offers : ∀ board, footing.admits board → ∃ cards, Offer (candidates board) cards)
    (each : ∀ id, footing.Supports (answer id)) :
    Reliable footing (laterPick style title candidates (onCard answer)) := by
  refine .of_answers (fun board admitted => ?_) fun board admitted choice shows => ?_
  · obtain ⟨cards, offered, found, -⟩ := offers board admitted
    exact ⟨offered, found⟩
  · obtain ⟨cards, offered, found, perm⟩ := offers board admitted
    obtain ⟨shown, isShown, member⟩ := shows
    cases found.symm.trans isShown
    obtain ⟨id, -, rfl⟩ := List.mem_map.1 (perm.subset member)
    exact (each id).weaken fun _ reliable => reliable.orNothing

theorem IsReliable.pickLater {style : PickStyle} {title : String}
    {candidates : Board → Except Failure (List Candidate)} {answer : CardId → Engine Outcome}
    (offers : ∀ board, footing.admits board → ∃ cards, Offer (candidates board) cards)
    (each : ∀ id, footing.Supports (answer id)) :
    IsReliable footing (pickLater style title candidates (onCard answer)) :=
  IsReliable.nothing.cons_question List.not_mem_nil (by decide) trivial (.later offers each)

end Outcome

namespace Succeeds

variable {footing : Footing} {react : Reactor}

/-- A single candidate is picked at once, several are asked for. -/
theorem pickOne {style : PickStyle} {title : String} {candidates : List Candidate}
    {answer : Choice → Engine Outcome}
    (each : ∀ candidate ∈ candidates, footing.Supports (answer candidate.value)) :
    footing.Supports (pickOne style title candidates answer) := by
  match candidates with
  | [] => exact .nothing
  | [only] =>
      exact (each only (List.mem_singleton_self only)).bind fun _ reliable =>
        .pure reliable.orNothing
  | _ :: _ :: _ => exact .pure (.asking (.listed each))

theorem pickCard {style : PickStyle} {title : String} {board : Board} {viewer : Option Context}
    {shown : Bool} {cards : List CardId} {answer : CardId → Engine Outcome}
    (each : ∀ id, footing.Supports (answer id)) :
    footing.Supports
      (CreatureCards.pickOne style title (board.cardCandidates viewer shown cards)
        (onCard answer)) := by
  refine .pickOne fun candidate member => ?_
  obtain ⟨id, -, rfl⟩ := List.mem_map.1 member
  exact each id

/-- No card answers to being selected. -/
theorem reactionOf (silent : react.Silent footing.admits) (target : CardId)
    (source : Option CardId) (context : Context) :
    Succeeds footing.admits (fun response => response = .null)
      (reactionOf react target source context) := by
  refine (Succeeds.derived context).bind fun derived _ board admitted session usable => ?_
  exact ⟨.null, session, silent _ _ board admitted session, usable, rfl⟩

theorem reactionOr (silent : react.Silent footing.admits) (target : CardId) {result : Outcome}
    (reliable : Outcome.IsReliable footing result) (context : Context) :
    footing.Supports (reactionOr react target result context) := by
  refine (Succeeds.reactionOf silent target none context).bind fun response isNull => ?_
  subst isNull
  exact .pure reliable

/-- What the run comes to is merged behind a reliable result. -/
theorem behind {first : Outcome} (reliable : Outcome.IsReliable footing first)
    {running : Engine Outcome} (supports : footing.Supports running) :
    footing.Supports (do Engine.orFail (Outcome.merge [first, ← running])) :=
  supports.bind fun _ other => .merge (by simpa using ⟨reliable, other⟩)

end Succeeds

namespace Effect

variable {footing : Footing} {react : Reactor} {stance : Stance}

section Creatures

theorem supported_addKeyword (shape : AddKeywordShape) :
    (addKeyword shape).SupportedBy footing := by
  intro context acting
  refine .ite (fun _ => ?_) fun _ => .ite (fun _ => ?_) fun _ =>
    .ite (fun _ => ?_) fun _ => .nothing
  · exact supported_onFriendlies _ _ (fun _ => .descriptor (by decide)) context acting
  · exact .reading fun _ _ => .ite (fun _ => .missing _) fun _ => .pickCard (supports_gainKeyword _)
  · split
    · exact supports_gainKeyword _ _
    · exact .nothing

theorem supported_buff (shape : BuffShape) : (buff shape).SupportedBy footing := by
  intro context acting
  refine .ite (fun _ => ?_) fun _ => .ite (fun _ => ?_) fun _ => ?_
  · exact supported_buffFriendlies _ _ context acting
  · split
    · exact supports_gainStats _ _ _
    · exact .nothing
  · exact .reading fun _ _ => .ite (fun _ => .missing _) fun _ => .pickCard (supports_gainStats _ _)

theorem supported_destroy (shape : DestroyShape) : (destroy shape).SupportedBy footing := by
  refine fun context _ => .reading fun board _ => .ite (fun _ => ?_) fun _ =>
    .ite (fun _ => ?_) fun _ =>
    .ite (fun _ => ?_) fun _ => .nothing
  · exact .ite (fun _ => .missing _) fun _ => .told _ (by decide)
  · exact .ite (fun _ => .missing _) fun _ => .telling <| .pure <|
      .of_keys ["destroy_creatures", "destroy_creatures_opponent"] rfl (by decide) (by decide)
  · exact .ite (fun _ => .missing _) fun _ => .pickCard fun _ =>
      .reading fun _ _ => .told _ (by decide)

end Creatures

section Picks

/-- A nested definition is resolved in the same stance, whatever it is aimed at. -/
theorem supported_selectTarget (pool : Value) {effect : Effect}
    (each : effect.SupportedBy stance.footing) :
    (selectTarget pool effect).SupportedBy stance.footing :=
  fun context acts => .reading fun _ _ => .ite (fun _ => .missing _) fun _ =>
    .pickCard fun target =>
    (Succeeds.derived context).bind fun derived ⟨resolver, isDerived⟩ => by
      subst isDerived
      refine Succeeds.bind (each _ ⟨?_, ?_⟩) fun _ reliable => .pure reliable.orNothing
      · exact acts.player
      · exact acts.creature

theorem follow_of_handedOver {cardType count valid follow : Outcome} {effect : Effect}
    (hands : effect ∈ Outcome.handedOver Outcome.requestKey (.record
      [("card_type", cardType), ("count", count), ("valid_cards", valid),
       ("on_consume", follow)])) : follow = .callback effect := by
  cases follow with
  | callback other => exact congrArg Outcome.callback (List.mem_singleton.1 hands).symm
  | _ => cases hands

theorem supported_selectConsume (cardType count : Value) {follow : Outcome}
    (runs : ∀ effect, follow = .callback effect → Outcome.CanRun stance.footing effect) :
    (selectConsume cardType count follow).SupportedBy stance.footing := fun _ acts =>
  .reading fun _ admits => Stance.requiring admits acts fun _ _ =>
    .ite (fun _ => .missing _) fun _ => .pure <| .request fun effect hands =>
      runs effect (follow_of_handedOver hands)

theorem supports_steal (context : Context) (target : CardId) :
    footing.Supports (steal context target) :=
  .reading fun _ _ => .told _ (by decide)

theorem supported_stealCreature (targetType : Value) :
    (stealCreature targetType).SupportedBy footing := by
  refine fun context _ => .reading fun board _ => .ite (fun _ => .missing _) fun present =>
    .ite (fun _ => ?_) fun _ => .pickCard (supports_steal context)
  refine .drawing (List.length_pos_iff.2 (by simpa using present)) fun place below => ?_
  rw [List.getElem?_eq_getElem below]
  exact supports_steal context _

theorem supported_pickFrom (silent : react.Silent footing.admits)
    {pool : Board → Context → (CardId → Bool) → List CardId} {asked : CreaturePick}
    {build : CardId → Effect} (each : ∀ target, (build target).SupportedBy footing) :
    (pickFrom react pool asked build).SupportedBy footing := fun context acting =>
  have goesOn (target : CardId) : footing.Supports (do
      let result ← build target context
      reactionOr react target result context) :=
    (each target context acting).bind fun _ reliable => .reactionOr silent target reliable context
  .reading fun _ _ => .ite (fun _ => .missing _) fun _ => .pickCard fun target =>
    .ite (fun _ => .reading fun _ _ => .telling (goesOn target)) fun _ => goesOn target

theorem supported_selectEnemyToKill (silent : react.Silent footing.admits) :
    (selectEnemyToKill react).SupportedBy footing :=
  supported_pickFrom silent fun _ _ _ => .pure (.descriptor (by decide))

theorem supported_selectEnemyToFreeze (silent : react.Silent footing.admits) :
    (selectEnemyToFreeze react).SupportedBy footing :=
  supported_pickFrom silent fun _ _ _ => .pure (.descriptor (by decide))

theorem supported_selectEnemyToReturn (silent : react.Silent footing.admits) (title : String) :
    (selectEnemyToReturn react title).SupportedBy footing :=
  supported_pickFrom silent fun _ _ _ => .pure (.descriptor (by decide))

theorem supported_selectEnemyForKeyword (silent : react.Silent footing.admits) (keyword : Value) :
    (selectEnemyForKeyword react keyword).SupportedBy footing :=
  supported_pickFrom silent fun _ _ _ => .reading fun _ _ => .told _ (by decide)

theorem supported_selectEnemyCreatureForDamage (silent : react.Silent footing.admits)
    (amount label : Value) :
    (selectEnemyCreatureForDamage react amount label).SupportedBy footing :=
  supported_pickFrom silent fun _ _ _ => .pure (.descriptor (by decide))

theorem supported_selectEnemyPreyToConsume (silent : react.Silent footing.admits) :
    (selectEnemyPreyToConsume react).SupportedBy footing :=
  supported_pickFrom silent fun _ _ _ => .pure (.descriptor (by decide))

/-- Prey is eaten only where there is a creature to eat it. -/
theorem supported_eatPreyInsteadOfAttacking (silent : react.Silent stance.footing.admits)
    (eater : stance.creature ≠ none) :
    (eatPreyInsteadOfAttacking react).SupportedBy stance.footing := by
  obtain ⟨creature, isEater⟩ := Option.ne_none_iff_exists'.1 eater
  refine fun context acts => .reading fun _ _ => .ite (fun _ => .missing _) fun _ =>
    .pickCard fun target => ?_
  refine (Succeeds.reactionOf silent target context.creature context).bind fun response isNull => ?_
  subst isNull
  exact .reading fun _ _ => .requiring (acts.creature.trans isEater) (.told _ (by decide))

theorem supported_damageRivalAndSelectEnemy (silent : react.Silent footing.admits)
    (rivalDamage creatureDamage : Value) :
    (damageRivalAndSelectEnemy react rivalDamage creatureDamage).SupportedBy footing :=
  fun context _ => .reading fun _ _ => .ite (fun _ => .told _ (by decide)) fun _ =>
    .behind (.descriptor (by decide)) <| .pickCard fun target =>
      .reactionOr silent target (.descriptor (by decide)) context

theorem supported_selectCreatureForDamage (silent : react.Silent footing.admits) {amount : Value}
    (plain : amount.isContainer = false) (label : Value) :
    (selectCreatureForDamage react amount label).SupportedBy footing := fun context acting =>
  (succeeds_resolveCount plain context).bind fun _ _ => .ite (fun _ => .missing _) fun _ =>
    supported_pickFrom silent (fun _ _ _ => .pure (.descriptor (by decide))) context acting

theorem supported_selectCreatureToRestore (silent : react.Silent footing.admits) :
    (selectCreatureToRestore react).SupportedBy footing :=
  supported_pickFrom silent fun _ _ _ => .pure (.descriptor (by decide))

theorem supported_selectCreatureToCopy (silent : react.Silent footing.admits) :
    (selectCreatureToCopy react).SupportedBy footing :=
  supported_pickFrom silent fun _ _ _ => .pure (.descriptor (by decide))

theorem supported_selectCreatureToTransform (silent : react.Silent footing.admits)
    (newCardId : Value) : (selectCreatureToTransform react newCardId).SupportedBy footing :=
  supported_pickFrom silent fun _ _ _ => .pure (.descriptor (by decide))

theorem supported_selectForBuff (silent : react.Silent footing.admits) (preyOnly : Bool)
    (stats : Stats) : (selectForBuff react preyOnly stats).SupportedBy footing :=
  supported_pickFrom silent fun _ _ _ => .pure (.descriptor (by decide))

theorem mem_creatureOrRivalCandidates {board : Board} {context : Context} {candidate : Candidate}
    (member : candidate ∈ creatureOrRivalCandidates board context) :
    ∃ ref, candidate.value = .ref ref ∧ (ref.kind ≠ .player → ref.creature ≠ none) := by
  have creature {index : Option Int} {ids : List CardId}
      (isCreature : candidate ∈ ids.map (board.creatureCandidate index)) :
      ∃ ref, candidate.value = .ref ref ∧ (ref.kind ≠ .player → ref.creature ≠ none) := by
    obtain ⟨id, -, rfl⟩ := List.mem_map.1 isCreature
    exact ⟨_, rfl, fun _ => Option.some_ne_none id⟩
  unfold creatureOrRivalCandidates at member
  dsimp only at member
  split at member
  · exact creature member
  · obtain creatures | isRival := List.mem_append.1 member
    · exact (List.mem_append.1 creatures).elim creature creature
    · rw [List.mem_singleton.1 isRival]
      exact ⟨_, rfl, fun other => absurd rfl other⟩

theorem supports_damagePicked (silent : react.Silent footing.admits) (amount label : Value)
    (context : Context) {ref : TargetRef} (present : ref.kind ≠ .player → ref.creature ≠ none) :
    footing.Supports (damagePicked react amount label context ref) := by
  refine .ite (fun _ => .told _ (by decide)) fun other => ?_
  obtain ⟨creature, isCreature⟩ := Option.ne_none_iff_exists'.1 (present other)
  exact .requiring isCreature <| .reading fun _ _ => .telling <|
    .reactionOr silent creature (.descriptor (by decide)) context

/-- A creature or the rival is picked, and damaged. -/
theorem supports_pickDamaged (silent : react.Silent footing.admits) {style : PickStyle}
    {title : String} (amount label : Value) (board : Board) (context : Context) :
    footing.Supports (pickOne style title (creatureOrRivalCandidates board context)
      (onRef (damagePicked react amount label context))) := by
  refine .pickOne fun candidate member => ?_
  obtain ⟨ref, isRef, present⟩ := mem_creatureOrRivalCandidates member
  rw [isRef]
  exact supports_damagePicked silent amount label context present

theorem supported_selectTargetForDamage (silent : react.Silent footing.admits)
    (amount label : Value) : (selectTargetForDamage react amount label).SupportedBy footing :=
  fun context _ => .reading fun board _ => supports_pickDamaged silent amount label board context

theorem supported_healAndSelectTargetForDamage (silent : react.Silent footing.admits)
    (healAmount damageAmount : Value) :
    (healAndSelectTargetForDamage react healAmount damageAmount).SupportedBy footing :=
  fun context _ => .telling <| .reading fun board _ => .behind (.descriptor (by decide)) <|
    supports_pickDamaged silent damageAmount _ board context

theorem supported_selectPredatorForEndEffect (tokenId : Value) :
    (selectPredatorForEndEffect tokenId).SupportedBy footing :=
  supported_onPool fun _ _ _ _ _ => .reading fun _ _ => .pickCard fun _ =>
    .reading fun _ _ => .told _ (by decide)

theorem supported_drawAndEmpowerPredator (drawCount tokenId : Value) :
    (drawAndEmpowerPredator drawCount tokenId).SupportedBy footing := fun context acting =>
  .reading fun _ _ => .ite (fun _ => .told _ (by decide)) fun _ => .telling <|
    .behind (.descriptor (by decide)) (supported_selectPredatorForEndEffect tokenId context acting)

theorem supported_selectFriendlyCreatureToSacrifice :
    selectFriendlyCreatureToSacrifice.SupportedBy footing :=
  supported_onPool fun _ _ _ _ _ => .reading fun _ _ => .pickCard fun _ =>
    .pure (.descriptor (by decide))

end Picks

end Effect

end CreatureCards
