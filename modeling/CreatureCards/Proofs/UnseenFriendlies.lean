import CreatureCards.Proofs.GroupComposition

/-!
# Friendly creatures that are not seen

Creatures of both sides are gathered twice.  The target groups take every friendly
creature; the pool that effects pick from takes only those that the acting creature may
select, so an invisible friend is left out of it unless the acting creature has Acuity.
Creatures of the rival are found by the same rules of targeting in both, and those with
Lure drive the friendly ones out of both.  Therefore the two agree exactly if a creature
with Lure may be selected or no friendly creature is unseen.
-/

namespace CreatureCards

/-- The pools of any creature, by the creatures that they admit. -/
inductive CreaturePool where
  | all
  | prey
  /-- All but the acting creature. -/
  | others
  deriving DecidableEq, Repr

namespace CreaturePool

def group : CreaturePool → TargetGroup
  | all => .allCreatures
  | prey => .allPrey
  | others => .otherCreatures

def admits (board : Board) (context : Context) : CreaturePool → CardId → Bool
  | all => anyCard
  | prey => fun id => (board.card id).isPrey
  | others => fun id => some id != context.creature

end CreaturePool

namespace Board

variable {board : Board} {context : Context} {rule : CardId → Bool}

/-- Friendly creatures that meet the rule but that the acting creature may not select. -/
def unseenFriendlies (board : Board) (context : Context) (rule : CardId → Bool) : List CardId :=
  (board.friendlyCreatures context).filter fun id =>
    rule id && !board.canTarget (some id) context.creature

theorem unseenFriendlies_eq_nil_iff :
    board.unseenFriendlies context rule = [] ↔
      ∀ id ∈ board.friendlyCreatures context, rule id = true →
        board.canTarget (some id) context.creature = true := by
  simp only [unseenFriendlies, List.filter_eq_nil_iff, Bool.and_eq_true, Bool.not_eq_true',
    not_and, Bool.not_eq_false]

/-- The friendly targets are those that meet the rule, less the unseen ones. -/
theorem targetableFriendlies_eq :
    board.targetableFriendlies context rule =
      ((board.friendlyCreatures context).filter rule).filter
        fun id => board.canTarget (some id) context.creature := by
  simp only [targetableFriendlies, List.filter_filter, Bool.and_comm]

/-- All friendly creatures that meet the rule are targets exactly if none is unseen. -/
theorem targetableFriendlies_eq_iff :
    board.targetableFriendlies context rule = (board.friendlyCreatures context).filter rule ↔
      board.unseenFriendlies context rule = [] := by
  rw [targetableFriendlies_eq, List.filter_eq_self, unseenFriendlies_eq_nil_iff]
  constructor
  · intro seen id friend meets
    exact seen id (List.mem_filter.2 ⟨friend, meets⟩)
  · intro seen id member
    obtain ⟨friend, meets⟩ := List.mem_filter.1 member
    exact seen id friend meets

/-- The creatures behind the candidates of a group of both sides. -/
theorem subjects_mixedCandidates :
    (board.mixedCandidates context rule (board.friendlyCandidates context rule)).map
        Candidate.subject =
      (if board.hasLureAmong (board.targetableEnemies context rule) then
        board.targetableEnemies context rule
      else
        (board.friendlyCreatures context).filter rule ++
          board.targetableEnemies context rule).map some := by
  by_cases lured : board.hasLureAmong (board.targetableEnemies context rule) = true
  · rw [mixedCandidates_of_lured _ lured, if_pos lured]
    exact subjects_creatureCandidates _ _
  · rw [mixedCandidates_of_unlured _ lured, if_neg lured, List.map_append, List.map_append]
    exact congrArg₂ _ (subjects_creatureCandidates _ _) (subjects_creatureCandidates _ _)

/-- The group and the pool of mixed targets hold the same creatures in the same order
exactly if a creature with Lure may be selected or no friendly creature is unseen. -/
theorem subjects_mixedCandidates_eq_iff :
    (board.mixedCandidates context rule (board.friendlyCandidates context rule)).map
        Candidate.subject = (board.mixedTargets context rule).map some ↔
      board.hasLureAmong (board.targetableEnemies context rule) = true ∨
        board.unseenFriendlies context rule = [] := by
  rw [subjects_mixedCandidates, mixedTargets, (Option.some_injective CardId).list_map.eq_iff]
  by_cases lured : board.hasLureAmong (board.targetableEnemies context rule) = true
  · simp only [lured, if_true, true_or]
  · rw [if_neg lured, if_neg lured, List.append_cancel_right_eq, eq_comm,
      targetableFriendlies_eq_iff, or_iff_right lured]

/-- Friendly creatures that meet the rule are unseen or targets. -/
theorem perm_unseenFriendlies_append :
    (board.unseenFriendlies context rule ++ board.targetableFriendlies context rule).Perm
      ((board.friendlyCreatures context).filter rule) := by
  have unseen : board.unseenFriendlies context rule =
      ((board.friendlyCreatures context).filter rule).filter
        fun id => !board.canTarget (some id) context.creature := by
    simp only [unseenFriendlies, List.filter_filter, Bool.and_comm]
  rw [unseen, targetableFriendlies_eq]
  refine List.perm_append_comm.trans ?_
  simpa only [Bool.not_eq_true, Bool.decide_eq_false] using
    List.filter_append_perm (fun id => board.canTarget (some id) context.creature)
      ((board.friendlyCreatures context).filter rule)

/-- Where no creature with Lure may be selected, the group offers the unseen friendly
creatures beside the mixed targets. -/
theorem perm_subjects_mixedCandidates
    (unlured : ¬ board.hasLureAmong (board.targetableEnemies context rule) = true) :
    ((board.mixedCandidates context rule (board.friendlyCandidates context rule)).map
        Candidate.subject).Perm
      ((board.unseenFriendlies context rule ++ board.mixedTargets context rule).map some) := by
  rw [subjects_mixedCandidates, mixedTargets, if_neg unlured, if_neg unlured,
    ← List.append_assoc]
  exact ((perm_unseenFriendlies_append.symm).append_right _).map some

end Board

/-- A group of any creatures can be offered, and it offers the mixed targets in their order
if and only if a creature of the rival that it admits has Lure and may be selected, or the
acting creature may select every friendly creature that the group admits.  Without such a
creature of the rival, the group offers the unseen friendly creatures and the mixed
targets, each as often as they stand there. -/
theorem any_creature_groups_agree_iff (pool : CreaturePool) (board : Board) (context : Context) :
    ∃ candidates, board.Offers context pool.group candidates ∧
      (candidates.map Candidate.subject =
          (board.mixedTargets context (pool.admits board context)).map some ↔
        (∃ id ∈ board.enemyCreatures context, pool.admits board context id = true ∧
          board.canTarget (some id) context.creature = true ∧ (board.card id).hasLure = true) ∨
        ∀ id ∈ board.friendlyCreatures context, pool.admits board context id = true →
          board.canTarget (some id) context.creature = true) ∧
      ((∃ id ∈ board.enemyCreatures context, pool.admits board context id = true ∧
          board.canTarget (some id) context.creature = true ∧ (board.card id).hasLure = true) ∨
        (candidates.map Candidate.subject).Perm
          ((board.unseenFriendlies context (pool.admits board context) ++
            board.mixedTargets context (pool.admits board context)).map some)) := by
  have made : board.groupCandidates context pool.group =
      .ok (board.mixedCandidates context (pool.admits board context)
        (board.friendlyCandidates context (pool.admits board context))) := by
    cases pool <;> rfl
  refine ⟨_, Board.offers_of_groupCandidates made, ?_, ?_⟩
  · rw [Board.subjects_mixedCandidates_eq_iff, Board.hasLureAmong_targetableEnemies,
      Board.unseenFriendlies_eq_nil_iff]
  · rw [← Board.hasLureAmong_targetableEnemies]
    exact or_iff_not_imp_left.2 Board.perm_subjects_mixedCandidates

end CreatureCards
