import CreatureCards.Proofs.BrokenAnswer
import CreatureCards.Proofs.HonouredReaction

/-!
# Group effects on players

Five target groups offer players: the acting player, the rival, or both.  A group
effect on a picked player asks for damage to the rival and for healing of the acting
player, whichever of the two was picked.  So a player effect lands on the picked
player unless the acting player was picked for damage or the rival for healing.
-/

namespace CreatureCards

open Engine

namespace Candidate

/-- If the candidate stands for a player, it stands for one of these. -/
def IsPlayerAmong (players : List (Option Int)) (candidate : Candidate) : Prop :=
  ∀ picked, candidate.value = .ref picked → picked.kind = .player → picked.playerIndex ∈ players

theorem isPlayerAmong_playerCandidate {players : List (Option Int)} (label : String)
    {index : Option Int} (among : index ∈ players) :
    (playerCandidate label index).IsPlayerAmong players := by
  intro picked isPick _
  obtain rfl : _ = picked := Choice.ref.inj isPick
  exact among

theorem isPlayerAmong_creatureCandidate (players : List (Option Int)) (board : Board)
    (owner : Option Int) (id : CardId) :
    (board.creatureCandidate owner id).IsPlayerAmong players := by
  intro picked isPick isPlayer
  obtain rfl : _ = picked := Choice.ref.inj isPick
  cases isPlayer

theorem isPlayerAmong_pileCandidate (players : List (Option Int)) (board : Board)
    {kind : TargetKind} (notPlayer : kind ≠ .player) (owner : Option Int) (id : CardId) :
    (board.pileCandidate kind owner id).IsPlayerAmong players := by
  intro picked isPick isPlayer
  obtain rfl : _ = picked := Choice.ref.inj isPick
  exact absurd isPlayer notPlayer

end Candidate

/-- The players that the group may offer, by their index. -/
def TargetGroup.players (context : Context) : TargetGroup → List (Option Int)
  | self | friendlyEntities => [context.playerIndex]
  | rival | enemyEntities => [context.opponentIndex]
  | allEntities => [context.playerIndex, context.opponentIndex]
  | _ => []

namespace Board

variable {board : Board} {context : Context} {players : List (Option Int)}

theorem isPlayerAmong_friendlyCandidates (rule : CardId → Bool) :
    ∀ candidate ∈ board.friendlyCandidates context rule, candidate.IsPlayerAmong players := by
  intro candidate member
  obtain ⟨id, -, rfl⟩ := List.mem_map.1 member
  exact Candidate.isPlayerAmong_creatureCandidate players board _ id

theorem isPlayerAmong_enemyCandidates (rule : CardId → Bool) :
    ∀ candidate ∈ board.enemyCandidates context rule, candidate.IsPlayerAmong players := by
  intro candidate member
  obtain ⟨id, -, rfl⟩ := List.mem_map.1 member
  exact Candidate.isPlayerAmong_creatureCandidate players board _ id

theorem isPlayerAmong_pileCandidates {kind : TargetKind} (notPlayer : kind ≠ .player)
    (owner : Option Int) (pile : Places) (rule : Card → Bool) :
    ∀ candidate ∈ board.pileCandidates kind owner pile rule, candidate.IsPlayerAmong players := by
  intro candidate member
  obtain ⟨id, -, rfl⟩ := List.mem_map.1 member
  exact Candidate.isPlayerAmong_pileCandidate players board notPlayer owner id

theorem isPlayerAmong_mixedCandidates (rule : CardId → Bool) {others : List Candidate}
    (beside : ∀ other ∈ others, other.IsPlayerAmong players) :
    ∀ candidate ∈ board.mixedCandidates context rule others, candidate.IsPlayerAmong players := by
  unfold mixedCandidates
  split
  · exact isPlayerAmong_enemyCandidates rule
  · exact List.forall_mem_append.2 ⟨beside, isPlayerAmong_enemyCandidates rule⟩

theorem isPlayerAmong_ownCandidates {kind : TargetKind} (notPlayer : kind ≠ .player)
    {pile : Player → Places} {rule : Card → Bool} {candidates : List Candidate}
    (found : (match context.actor board with
      | some player => .ok (board.pileCandidates kind context.playerIndex (pile player) rule)
      | none => .error .missingPart : Except Failure (List Candidate)) = .ok candidates) :
    ∀ candidate ∈ candidates, candidate.IsPlayerAmong players := by
  split at found
  · cases found
    exact isPlayerAmong_pileCandidates notPlayer _ _ _
  · cases found

/-- The players among the candidates of a group are those that the group may offer. -/
theorem isPlayerAmong_groupCandidates {group : TargetGroup} {candidates : List Candidate}
    (offered : board.groupCandidates context group = .ok candidates) :
    ∀ candidate ∈ candidates, candidate.IsPlayerAmong (group.players context) := by
  have self {players : List (Option Int)} (among : context.playerIndex ∈ players) :
      (board.selfCandidate context).IsPlayerAmong players :=
    Candidate.isPlayerAmong_playerCandidate _ among
  have rival {players : List (Option Int)} (among : context.opponentIndex ∈ players) :
      (board.rivalCandidate context).IsPlayerAmong players :=
    Candidate.isPlayerAmong_playerCandidate _ among
  cases group
  case friendlyCreatures | friendlyPrey | friendlyPredators =>
    cases offered
    exact isPlayerAmong_friendlyCandidates _
  case enemyCreatures | enemyPrey =>
    cases offered
    exact isPlayerAmong_enemyCandidates _
  case allCreatures | allPrey | otherCreatures =>
    cases offered
    exact isPlayerAmong_mixedCandidates _ (isPlayerAmong_friendlyCandidates _)
  case self =>
    cases offered
    exact List.forall_mem_singleton.2 (self (by simp [TargetGroup.players]))
  case rival =>
    cases offered
    exact List.forall_mem_singleton.2 (rival (by simp [TargetGroup.players]))
  case friendlyEntities =>
    cases offered
    exact List.forall_mem_cons.2
      ⟨self (by simp [TargetGroup.players]), isPlayerAmong_friendlyCandidates _⟩
  case enemyEntities =>
    cases offered
    exact isPlayerAmong_mixedCandidates _
      (List.forall_mem_singleton.2 (rival (by simp [TargetGroup.players])))
  case allEntities =>
    cases offered
    refine isPlayerAmong_mixedCandidates _ (List.forall_mem_cons.2
      ⟨self (by simp [TargetGroup.players]), List.forall_mem_cons.2
        ⟨rival (by simp [TargetGroup.players]), isPlayerAmong_friendlyCandidates _⟩⟩)
  case handPrey => exact isPlayerAmong_ownCandidates (by simp) offered
  case carrionPredators | friendlyCarrion => exact isPlayerAmong_ownCandidates (by simp) offered
  case carrion =>
    obtain ⟨mine, isMine, made⟩ := bind_eq_ok.1 offered
    cases made
    have notPlayer : TargetKind.carrion ≠ .player := by simp
    refine List.forall_mem_append.2 ⟨isPlayerAmong_ownCandidates notPlayer isMine, ?_⟩
    rcases context.rival board with - | other
    · exact List.forall_mem_nil _
    · dsimp only [Option.elim]
      exact isPlayerAmong_pileCandidates notPlayer _ _ _

end Board

namespace Effect

/-- Telling a list of messages does nothing else. -/
theorem forM_announce (taken : List Step) (board : Board) (session : Session) :
    (taken.forM fun step => announce step.message) board session =
      (.ok (), session.telling (taken.map Step.message)) := by
  induction taken generalizing session with
  | nil => rw [List.map_nil, session.telling_nil]; rfl
  | cons step rest ih =>
      change (announce step.message >>= fun _ => rest.forM fun step => announce step.message)
        board session = _
      have told : announce step.message board session =
          (.ok (), session.telling [step.message]) := rfl
      rw [bind_of_ok told, ih, List.map_cons, ← session.telling_append]
      rfl

/-- Where shortcuts suit the picked object, they are the result, and each of them is
told. -/
theorem applyGroupEffect_of_steps {picked : TargetRef} {effect : GroupEffect} {context : Context}
    {board : Board} (suits : steps board context picked effect.shortcuts ≠ [])
    (nested : Option Resolution) (session : Session) :
    applyGroupEffect picked effect nested context board session =
      (.ok (.record ((steps board context picked effect.shortcuts).map
          (fun step => (step.key, step.payload)) ++ sacrificeDraw picked effect.shortcuts)),
        session.telling ((steps board context picked effect.shortcuts).map Step.message)) := by
  obtain ⟨first, rest, taken⟩ := List.exists_cons_of_ne_nil suits
  change (List.forM (steps board context picked effect.shortcuts) (fun step =>
    announce step.message) >>= fun _ => _) board session = _
  rw [bind_of_ok (forM_announce _ board session), taken]
  rfl

theorem steps_of_player {board : Board} {context : Context} {picked : TargetRef}
    (isPlayer : picked.kind = .player) (shortcuts : Shortcuts) :
    steps board context picked shortcuts = playerSteps shortcuts := by
  unfold steps
  rw [isPlayer]

theorem sacrificeDraw_of_player {picked : TargetRef} (isPlayer : picked.kind = .player)
    (shortcuts : Shortcuts) : sacrificeDraw picked shortcuts = [] := by
  unfold sacrificeDraw
  rw [isPlayer]
  rfl

/-- Damage to a player is asked for as damage to the rival, and healing as healing of the
acting player. -/
theorem lookup_playerSteps (shortcuts : Shortcuts) :
    let fields := (playerSteps shortcuts).map fun step => (step.key, step.payload)
    fields.lookup "damage_opponent" = (present shortcuts.damage).map .int ∧
      fields.lookup "heal" = (present shortcuts.heal).map .int := by
  unfold playerSteps
  rcases present shortcuts.damage with - | damage <;>
    rcases present shortcuts.heal with - | heal <;>
    exact ⟨rfl, rfl⟩

/-- What the result does to players it does to the picked player: it damages the rival only
if the rival was picked, and heals the acting player only if that player was picked. -/
structure LandsOn (context : Context) (picked : TargetRef) (result : Outcome) : Prop where
  damage : ∀ amount, result.get? "damage_opponent" = some amount →
    picked.playerIndex = context.opponentIndex
  heal : ∀ amount, result.get? "heal" = some amount → picked.playerIndex = context.playerIndex

/-- A group effect with damage or healing always succeeds on an offered player, on whatever
board it is applied, and asks for exactly its damage and its healing.  It lands on the
picked player exactly if it does not damage the acting player and does not heal the
rival. -/
theorem player_effects_land_iff {board later : Board} {context : Context} {group : TargetGroup}
    {candidates : List Candidate} {candidate : Candidate} {picked : TargetRef}
    (effect : GroupEffect) (nested : Option Resolution) (session : Session)
    (apart : context.playerIndex ≠ context.opponentIndex)
    (offered : board.groupCandidates context group = .ok candidates)
    (member : candidate ∈ candidates) (isPick : candidate.value = .ref picked)
    (isPlayer : picked.kind = .player)
    (acts : (present effect.shortcuts.damage).isSome ∨ (present effect.shortcuts.heal).isSome) :
    ∃ result, applyGroupEffect picked effect nested context later session =
        (.ok result, session.telling ((playerSteps effect.shortcuts).map Step.message)) ∧
      result.get? "damage_opponent" = (present effect.shortcuts.damage).map .int ∧
      result.get? "heal" = (present effect.shortcuts.heal).map .int ∧
      picked.playerIndex ∈ group.players context ∧
      (LandsOn context picked result ↔
        ¬ ((present effect.shortcuts.damage).isSome ∧ picked.playerIndex = context.playerIndex) ∧
        ¬ ((present effect.shortcuts.heal).isSome ∧
          picked.playerIndex = context.opponentIndex)) := by
  have taken : steps later context picked effect.shortcuts = playerSteps effect.shortcuts :=
    steps_of_player isPlayer _
  have suits : steps later context picked effect.shortcuts ≠ [] := by
    rw [taken, playerSteps]
    rcases acts with damages | heals
    · obtain ⟨amount, damages⟩ := Option.isSome_iff_exists.1 damages
      simp [damages]
    · obtain ⟨amount, heals⟩ := Option.isSome_iff_exists.1 heals
      simp [heals]
  have applied := applyGroupEffect_of_steps suits nested session
  rw [taken, sacrificeDraw_of_player isPlayer, List.append_nil] at applied
  obtain ⟨damages, heals⟩ := lookup_playerSteps effect.shortcuts
  have among := Board.isPlayerAmong_groupCandidates offered candidate member picked isPick isPlayer
  -- A picked player is the acting player or the rival, and by `apart` not both.
  have either : picked.playerIndex = context.playerIndex ∨
      picked.playerIndex = context.opponentIndex := by
    cases group <;> simp [TargetGroup.players] at among <;> simp [among]
  refine ⟨_, applied, damages, heals, among, fun lands => ⟨fun astray => ?_, fun astray => ?_⟩,
    fun aimed => ⟨fun amount asked => ?_, fun amount asked => ?_⟩⟩
  · obtain ⟨amount, isAmount⟩ := Option.isSome_iff_exists.1 astray.1
    have onRival := lands.damage (.int amount) (damages.trans (by rw [isAmount]; rfl))
    exact apart (astray.2.symm.trans onRival)
  · obtain ⟨amount, isAmount⟩ := Option.isSome_iff_exists.1 astray.1
    have onSelf := lands.heal (.int amount) (heals.trans (by rw [isAmount]; rfl))
    exact apart (onSelf.symm.trans astray.2)
  · have damaging : (present effect.shortcuts.damage).isSome := by
      have some := damages.symm.trans asked
      exact Option.isSome_map.symm.trans (Option.isSome_iff_exists.2 ⟨_, some⟩)
    exact either.resolve_left fun own => aimed.1 ⟨damaging, own⟩
  · have healing : (present effect.shortcuts.heal).isSome := by
      have some := heals.symm.trans asked
      exact Option.isSome_map.symm.trans (Option.isSome_iff_exists.2 ⟨_, some⟩)
    exact either.resolve_right fun rival => aimed.2 ⟨healing, rival⟩

/-- A rival who is picked for damage, from a group that also offers creatures, is damaged. -/
theorem damage_to_the_rival_lands :
    ∃ picked result, (playerCandidate "Rival" (some 1)).value = .ref picked ∧
      applyGroupEffect picked { shortcuts := { damage := some 3 } } none duel touchyBoard
          (default : Moment).session =
        (.ok result, (default : Moment).session.telling ["Deals 3 damage to rival."]) ∧
      LandsOn duel picked result := by
  obtain ⟨result, applied, -, -, -, lands⟩ := player_effects_land_iff
    { shortcuts := { damage := some 3 } } none (default : Moment).session
    (by decide : duel.playerIndex ≠ duel.opponentIndex)
    (show touchyBoard.groupCandidates duel .enemyEntities = _ from rfl)
    (List.mem_cons_self) rfl rfl (.inl rfl)
  exact ⟨_, result, rfl, applied, lands.2 ⟨by decide, by decide⟩⟩

/-- A player who picks themselves for damage damages the rival, and one who picks the rival
for healing is healed. -/
theorem players_who_are_missed :
    (∃ candidate picked result,
      touchyBoard.groupCandidates duel .self = .ok [candidate] ∧ candidate.value = .ref picked ∧
      picked.playerIndex = duel.playerIndex ∧
      (applyGroupEffect picked { shortcuts := { damage := some 3 } } none duel touchyBoard
        (default : Moment).session).1 = .ok result ∧
      result.get? "damage_opponent" = some (.int 3) ∧ ¬ LandsOn duel picked result) ∧
    (∃ candidate picked result,
      touchyBoard.groupCandidates duel .rival = .ok [candidate] ∧ candidate.value = .ref picked ∧
      picked.playerIndex = duel.opponentIndex ∧
      (applyGroupEffect picked { shortcuts := { heal := some 3 } } none duel touchyBoard
        (default : Moment).session).1 = .ok result ∧
      result.get? "heal" = some (.int 3) ∧ ¬ LandsOn duel picked result) := by
  refine ⟨⟨_, _, _, rfl, rfl, rfl, rfl, rfl, fun lands => ?_⟩,
    ⟨_, _, _, rfl, rfl, rfl, rfl, rfl, fun lands => ?_⟩⟩
  · exact absurd (lands.damage _ rfl) (by decide)
  · exact absurd (lands.heal _ rfl) (by decide)

end Effect

end CreatureCards
