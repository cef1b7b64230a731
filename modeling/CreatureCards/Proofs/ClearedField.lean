import CreatureCards.Proofs.GroupComposition

/-!
# Clearing the rival's field

Cards are taken off the field of the rival and leave empty slots.  Everything else stays as
it is, so an ability finds the creatures that it found before, less those that were taken
off.  Creatures that gave way to others with Lure do not come back as long as one of those
with Lure stays: if all targets but one are taken off, that one is the only target.
-/

namespace CreatureCards

section Lists

variable {α : Type} {rule keep : α → Bool} {pool : List α} {chosen : α}

theorem filter_eq_singleton (nodup : pool.Nodup) (member : chosen ∈ pool)
    (kept : ∀ other ∈ pool, keep other = true ↔ other = chosen) :
    pool.filter keep = [chosen] := by
  have kept : ∀ other, other ∈ pool.filter keep ↔ other = chosen := by
    intro other
    rw [List.mem_filter]
    constructor
    · exact fun isKept => (kept other isKept.1).1 isKept.2
    · rintro rfl
      exact ⟨member, (kept other member).2 rfl⟩
  exact List.perm_singleton.1 ((List.perm_ext_iff_of_nodup (nodup.filter _)
    (List.nodup_singleton _)).2 fun other => (kept other).trans List.mem_singleton.symm)

theorem preferred_of_filter_eq_nil (none : pool.filter rule = []) : preferred rule pool = pool := by
  unfold preferred
  rw [none]
  rfl

theorem preferred_of_filter_ne_nil (some : pool.filter rule ≠ []) :
    preferred rule pool = pool.filter rule :=
  if_neg (by simpa using some)

/-- If all preferred members but one are taken out of a pool, that one alone is
preferred. -/
theorem preferred_filter_eq_singleton (nodup : pool.Nodup) (member : chosen ∈ preferred rule pool)
    (kept : ∀ other ∈ pool, keep other = true ↔ other ∉ preferred rule pool ∨ other = chosen) :
    preferred rule (pool.filter keep) = [chosen] := by
  by_cases none : pool.filter rule = []
  · rw [preferred_of_filter_eq_nil none] at member kept
    have single : pool.filter keep = [chosen] :=
      filter_eq_singleton nodup member fun other isMember =>
        (kept other isMember).trans (or_iff_right (not_not_intro isMember))
    rw [preferred_of_filter_eq_nil, single]
    rw [List.filter_comm, none, List.filter_nil]
  · rw [preferred_of_filter_ne_nil none] at member kept
    have single : (pool.filter keep).filter rule = [chosen] := by
      rw [List.filter_comm]
      refine filter_eq_singleton (nodup.filter _) member fun other isMember => ?_
      exact (kept other (List.mem_filter.1 isMember).1).trans
        (or_iff_right (not_not_intro isMember))
    rw [preferred_of_filter_ne_nil (by simp [single]), single]

end Lists

/-- The places with the cards taken away. -/
def Places.clearing (places : Places) (taken : List CardId) : Places :=
  places.map fun place => place.filter fun id => !taken.contains id

theorem Places.cards_clearing (places : Places) (taken : List CardId) :
    (places.clearing taken).cards = places.cards.filter fun id => !taken.contains id := by
  simp only [clearing, cards, List.filterMap_map, List.filter_filterMap]
  rfl

namespace Board

/-- The board with the cards taken off the rival's field. -/
def clearing (board : Board) (context : Context) (taken : List CardId) : Board :=
  { board with players := context.opponent.elim board.players fun place =>
      board.players.modify place fun rival => { rival with field := rival.field.clearing taken } }

/-- The cards in all places of the two sides. -/
def sideCards (board : Board) (context : Context) : List CardId :=
  (context.actor board).elim [] (fun player => player.places.cards) ++
    (context.rival board).elim [] (fun rival => rival.places.cards)

variable {board : Board} {context : Context} {taken : List CardId}

theorem rival_clearing :
    context.rival (board.clearing context taken) =
      (context.rival board).map fun rival =>
        { rival with field := rival.field.clearing taken } := by
  unfold Context.rival clearing
  cases context.opponent with
  | none => rfl
  | some place => simp

theorem creatures_clearing (player : Player) :
    (board.clearing context taken).creatures { player with field := player.field.clearing taken } =
      (board.creatures player).filter fun id => !taken.contains id := by
  unfold creatures creaturesAmong
  rw [Places.cards_clearing]
  exact List.filter_comm _ _ _

theorem enemyCreatures_clearing :
    (board.clearing context taken).enemyCreatures context =
      (board.enemyCreatures context).filter fun id => !taken.contains id := by
  unfold enemyCreatures
  rw [rival_clearing]
  cases context.rival board with
  | none => rfl
  | some rival => exact creatures_clearing rival

theorem creatures_sublist (player : Player) :
    (board.creatures player).Sublist player.places.cards := by
  rw [cards_places, List.append_assoc, List.append_assoc]
  exact List.filter_sublist.trans (List.sublist_append_left _ _)

theorem sublist_sideCards :
    (board.friendlyCreatures context ++ board.enemyCreatures context).Sublist
      (board.sideCards context) := by
  unfold friendlyCreatures enemyCreatures sideCards
  refine List.Sublist.append ?_ ?_
  · cases context.actor board with
    | none => exact List.Sublist.refl _
    | some player => exact creatures_sublist player
  · cases context.rival board with
    | none => exact List.Sublist.refl _
    | some rival => exact creatures_sublist rival

theorem nodup_enemyCreatures (single : (board.sideCards context).Nodup) :
    (board.enemyCreatures context).Nodup :=
  (List.nodup_append.1 (single.sublist sublist_sideCards)).2.1

/-- Creatures of the rival are no friendly ones. -/
theorem not_mem_friendlyCreatures (single : (board.sideCards context).Nodup) {id : CardId}
    (enemy : id ∈ board.enemyCreatures context) : id ∉ board.friendlyCreatures context :=
  fun friend =>
    (List.nodup_append.1 (single.sublist sublist_sideCards)).2.2 id friend id enemy rfl

theorem friendlyCreatures_clearing (single : (board.sideCards context).Nodup)
    (enemies : ∀ id ∈ taken, id ∈ board.enemyCreatures context) :
    (board.clearing context taken).friendlyCreatures context = board.friendlyCreatures context := by
  have untaken : (board.friendlyCreatures context).filter (fun id => !taken.contains id) =
      board.friendlyCreatures context := by
    rw [List.filter_eq_self]
    intro id friend
    have spared : id ∉ taken := fun isTaken =>
      not_mem_friendlyCreatures single (enemies id isTaken) friend
    simpa using spared
  by_cases same : context.player = context.opponent
  · -- The sides are one, and none of its creatures is taken off.
    have friendly : board.friendlyCreatures context = board.enemyCreatures context := by
      unfold friendlyCreatures enemyCreatures Context.actor Context.rival
      rw [same]
    have friendlyToo : (board.clearing context taken).friendlyCreatures context =
        (board.clearing context taken).enemyCreatures context := by
      unfold friendlyCreatures enemyCreatures Context.actor Context.rival
      rw [same]
    rw [friendlyToo, enemyCreatures_clearing, ← friendly, untaken]
  · have unchanged : context.actor (board.clearing context taken) = context.actor board := by
      unfold Context.actor clearing
      cases acting : context.player with
      | none => rfl
      | some place =>
          cases opposing : context.opponent with
          | none => rfl
          | some other =>
              have differs : other ≠ place := by
                rintro rfl
                exact same (acting.trans opposing.symm)
              exact List.getElem?_modify_ne _ _ differs
    unfold friendlyCreatures
    rw [unchanged]
    rfl

/-- If all targets but one are taken off the field, that one is the only target. -/
theorem targetableEnemies_clearing {rule : CardId → Bool} {chosen : CardId}
    (single : (board.sideCards context).Nodup)
    (target : chosen ∈ board.targetableEnemies context rule) :
    (board.clearing context
        ((board.targetableEnemies context rule).filter (· != chosen))).targetableEnemies
          context rule =
      [chosen] := by
  have visible (taken : List CardId) :
      (board.clearing context taken).visibleEnemies context rule =
        (board.visibleEnemies context rule).filter fun id => !taken.contains id := by
    unfold visibleEnemies
    rw [enemyCreatures_clearing, List.filter_comm]
    rfl
  unfold targetableEnemies at target ⊢
  rw [visible]
  refine preferred_filter_eq_singleton ((nodup_enemyCreatures single).filter _) target
    fun other _ => ?_
  rw [Bool.not_eq_true', List.contains_eq_mem, decide_eq_false_iff_not, List.mem_filter, bne_iff_ne,
    not_and_not_right]
  exact imp_iff_not_or

end Board

end CreatureCards
