import CreatureCards.Proofs.SupportedPicks

/-!
# Supported effects on zones and tribes

The effects on hands and decks ask for the acting player and for what stands in the zones;
later picks look both up again on the board of the moment.  The tribal effects that multiply
or add up are supported as far as the totals can be told.
-/

namespace CreatureCards

open Engine

namespace Value

theorem shown_of_isTellable {number : Int} (tellable : IsTellable number) :
    shown number = .ok number :=
  if_pos tellable

theorem times_of_isTellable {first second : Int} (tellable : IsTellable (first * second)) :
    times (.int first) (.int second) = .ok (.int (first * second)) := by
  change (shown (first * second)).map Value.int = _
  rw [shown_of_isTellable tellable]
  rfl

theorem IsTellable.of_le {count slots : Nat} {amount : Int} (le : count ≤ slots)
    (tellable : IsTellable (slots * amount)) : IsTellable (count * amount) := by
  refine Nat.lt_of_le_of_lt ?_ tellable
  rw [Int.natAbs_mul, Int.natAbs_mul, Int.natAbs_natCast, Int.natAbs_natCast]
  exact Nat.mul_le_mul_right _ le

end Value

theorem Effect.exists_roundsUp {count : Value} (number : count.isNumber = true) :
    ∃ rounds, roundsUp count = .ok rounds := by
  cases count with
  | float number =>
      unfold roundsUp
      dsimp only
      split <;> exact ⟨_, rfl⟩
  | int _ | bool _ => exact ⟨_, rfl⟩
  | _ => cases number

namespace Stance

variable {stance : Stance} {context : Context} {board : Board}

theorem Admits.length_creatures_le (admits : stance.Admits board) {player : Player}
    (member : player ∈ board.players) : (board.creatures player).length ≤ stance.slots :=
  ((List.length_filter_le _ _).trans (List.length_filterMap_le _ _)).trans
    (admits.narrow player member)

theorem Admits.length_friendlyWith_le (admits : stance.Admits board) (acts : stance.Acts context)
    (rule : Card → Bool) : (board.friendlyWith rule context).length ≤ stance.slots := by
  obtain ⟨player, member, isActor⟩ := admits.exists_actor acts
  refine (List.length_filter_le _ _).trans ?_
  rw [Board.friendlyCreatures, isActor]
  exact admits.length_creatures_le member

theorem Admits.length_webbedEnemies_le (admits : stance.Admits board) (context : Context) :
    (board.webbedEnemies context).length ≤ stance.slots := by
  refine (List.length_filter_le _ _).trans ?_
  rw [Board.enemyCreatures]
  cases found : context.rival board with
  | none => exact Nat.zero_le _
  | some rival =>
      obtain ⟨place, -, isRival⟩ := Option.bind_eq_some_iff.1 found
      exact admits.length_creatures_le (List.mem_of_getElem? isRival)

theorem Admits.tellable_totalShell (admits : stance.Admits board) (acts : stance.Acts context) :
    Value.IsTellable (Effect.totalShell board context) := by
  have same : Effect.totalShell board context =
      Effect.totalShell board { player := some stance.place } := by
    simp only [Effect.totalShell, Board.friendlyWith, Board.friendlyCreatures, Context.actor,
      acts.player]
  rw [same]
  exact admits.shells

end Stance

namespace Effect

variable {footing : Footing} {react : Reactor} {stance : Stance}

section Zones

theorem supported_tutor (cardType : Value) : (tutor cardType).SupportedBy stance.footing :=
  fun _ acts => .reading fun _ admits => Stance.requiring admits acts fun _ _ =>
    .ite (fun _ => .missing _) fun _ => .pure (.descriptor (by decide))

theorem supports_discardTold (who : String) (playerIndex : Option Int) (card : CardId) :
    footing.Supports (discardTold who playerIndex card) :=
  .reading fun _ _ => .told _ (by decide)

theorem supported_selectCardToDiscard (count : Value) :
    (selectCardToDiscard count).SupportedBy stance.footing := fun _ acts =>
  .reading fun _ admits => Stance.requiring admits acts fun player member =>
    .ite (fun _ => .missing _) fun _ =>
      .making (placeCandidates_eq _ _ _ (admits.filled player member).1) <|
        .pickCard fun _ => .pure (.descriptor (by decide))

theorem supported_selectAndDiscard (count : Value) :
    (selectAndDiscard count).SupportedBy stance.footing := by
  refine fun context acts => .reading fun _ admits =>
    Stance.requiring admits acts fun player member => ?_
  have filled : none ∉ player.hand.filter (· != context.playedCard) :=
    fun inside => (admits.filled player member).1 (List.mem_filter.1 inside).1
  exact .ite (fun _ => .missing _) fun _ => .making (placeCandidates_eq _ _ _ filled) <|
    .pickCard (supports_discardTold _ _)

theorem supported_forceOpponentDiscard (count : Value) :
    (forceOpponentDiscard count).SupportedBy stance.footing := by
  refine fun context _ => .reading fun board admits => ?_
  have filled : none ∉ (discardRival board context).2.elim [] Player.hand := by
    cases found : (discardRival board context).2 with
    | none => exact List.not_mem_nil
    | some rival => exact (admits.filled rival (board.mem_players_of_discardRival found)).1
  exact .ite (fun _ => .missing _) fun _ => .making (placeCandidates_eq _ _ _ filled) <|
    .pickCard (supports_discardTold _ _)

theorem supported_tutorFromDeck (cardType : Value) :
    (tutorFromDeck cardType).SupportedBy stance.footing := by
  refine fun context acts => .reading fun board admits =>
    Stance.requiring admits acts fun player member =>
    .ite (fun _ => .missing _) fun _ => ?_
  have filled : none ∉ player.deck.filter (cardTypeRule board cardType) :=
    fun inside => (admits.filled player member).2 (List.mem_filter.1 inside).1
  dsimp only
  split
  · exact .missing _
  · exact .pure (.descriptor (by decide))
  · exact .pure <| .pickLater (fun later _ => ⟨_, offer_sortedCandidates later false filled⟩)
      fun _ => .pure (.descriptor (by decide))

theorem supported_selectCreatureFromDeckWithKeyword (keyword : Value) :
    (selectCreatureFromDeckWithKeyword keyword).SupportedBy stance.footing := fun _ acts =>
  .reading fun _ admits => Stance.requiring admits acts fun _ _ =>
    .ite (fun _ => .missing _) fun _ =>
    .pickCard fun _ => .pure (.descriptor (by decide))

/-- Further spells are picked from what is in hand then. -/
theorem supports_playSpell {context : Context} (acts : stance.Acts context) (several : Bool)
    (left step : Nat) (chosen : List CardId) (spell : CardId) :
    stance.footing.Supports (playSpell context several left step chosen spell) := by
  induction left generalizing step chosen spell with
  | zero => exact .pure (.descriptor (by decide))
  | succ left ih =>
      refine .reading fun board admits => ?_
      obtain ⟨player, -, isActor⟩ := admits.exists_actor acts
      refine .making (handSpells_eq _ isActor) <| .ite (fun _ => .told _ (by decide)) fun _ => ?_
      have further : Outcome.IsReliable stance.footing (pickLater .asCards
          (spellTitle several (step + 1)) (spellCandidates context (chosen ++ [spell]))
          (onCard (playSpell context several left (step + 1) (chosen ++ [spell])))) := by
        refine .pickLater (fun later admits => ?_) (ih (step + 1) (chosen ++ [spell]))
        obtain ⟨holder, -, isHolder⟩ := admits.exists_actor acts
        exact ⟨_, LatePick.offer_furtherSpell several left step chosen spell isHolder⟩
      exact .merge (by simpa using ⟨.descriptor (by decide), further⟩)

theorem supported_playSpellsFromHand {count : Value} (number : count.isNumber = true) :
    (playSpellsFromHand count).SupportedBy stance.footing := by
  refine fun context acts => .reading fun board admits => ?_
  obtain ⟨player, -, isActor⟩ := admits.exists_actor acts
  obtain ⟨rounds, isRounds⟩ := exists_roundsUp number
  exact .making (handSpells_eq _ isActor) <| .ite (fun _ => .missing _) fun _ =>
    .making isRounds <| .pickCard (supports_playSpell acts _ _ _ _)

theorem supported_playSpellFromHand : playSpellFromHand.SupportedBy stance.footing := by
  refine fun context acts => .reading fun board admits => ?_
  obtain ⟨player, -, isActor⟩ := admits.exists_actor acts
  exact .making (handSpells_eq _ isActor) <| .ite (fun _ => .missing _) fun _ =>
    .pickCard fun _ => .reading fun _ _ => .told _ (by decide)

theorem supports_tutorThenPlay {context : Context} (acts : stance.Acts context) (card : CardId) :
    stance.footing.Supports (tutorThenPlay context card) := by
  refine .reading fun board admits => ?_
  obtain ⟨player, -, isActor⟩ := admits.exists_actor acts
  refine .making (handSpells_eq _ isActor) <| .ite (fun _ => .told _ (by decide)) fun _ => .merge ?_
  refine List.forall_mem_cons.2 ⟨.descriptor (by decide), List.forall_mem_singleton.2 ?_⟩
  refine .pickLater (fun later admits => ?_) fun _ => .pure (.descriptor (by decide))
  obtain ⟨holder, -, isHolder⟩ := admits.exists_actor acts
  exact ⟨_, LatePick.offer_spellAfter card isHolder⟩

theorem supported_tutorAndPlaySpell : tutorAndPlaySpell.SupportedBy stance.footing := by
  refine fun context acts => .reading fun board admits => Stance.requiring admits acts fun _ _ =>
    .ite (fun _ => .missing _) fun _ => .pure (.pickLater (fun later admits => ?_)
      (supports_tutorThenPlay acts))
  obtain ⟨player, member, isActor⟩ := admits.exists_actor acts
  exact ⟨_, LatePick.offer_fromDeck isActor (admits.filled player member).2⟩

theorem supported_drawThenDiscard (drawCount discardCount : Value) :
    (drawThenDiscard drawCount discardCount).SupportedBy stance.footing := by
  refine fun context acts => .telling <| .pure <| Outcome.IsReliable.cons_free
    (.cons_question .nothing List.not_mem_nil (by decide) trivial
      (.later (fun later admits => ?_) fun _ => .pure (.descriptor (by decide))))
    (show "draw" ∉ ["select_target"] by decide) (by decide)
  obtain ⟨player, member, isActor⟩ := admits.exists_actor acts
  exact ⟨_, LatePick.offer_discard drawCount isActor (admits.filled player member).1⟩

theorem supports_discardThenKill (silent : react.Silent footing.admits) (context : Context)
    (card : CardId) : footing.Supports (discardThenKill react context card) := by
  have done (index : Option Int) : Outcome.IsReliable footing (.record
      [("discard_cards", discardPayload index [card]), ("draw", .int 1)]) :=
    .of_keys ["discard_cards", "draw"] rfl (by decide) (by decide)
  exact .reading fun _ _ => .ite (fun _ => .telling (.pure (done _))) fun _ =>
    .behind (done _) <| .pickCard fun target =>
      .reactionOr silent target (.descriptor (by decide)) context

theorem supported_discardDrawAndKillEnemy (silent : react.Silent stance.footing.admits) :
    (discardDrawAndKillEnemy react).SupportedBy stance.footing := fun context acts =>
  .reading fun _ admits => Stance.requiring admits acts fun player member =>
    .ite (fun _ => .missing _) fun _ =>
      .making (placeCandidates_eq _ _ _ (admits.filled player member).1) <|
        .pickCard (supports_discardThenKill silent context)

end Zones

section Tribes

theorem supported_webTarget : webTarget.SupportedBy footing :=
  supported_onPool fun _ _ _ _ _ => .reading fun _ _ => .pickCard supports_web

theorem supported_healPerWebbed {amount : Value}
    (tellable : ∃ number, amount = .int number ∧ Value.IsTellable (stance.slots * number)) :
    (healPerWebbed amount).SupportedBy stance.footing := by
  obtain ⟨number, rfl, tellable⟩ := tellable
  exact supported_onPool fun context _ _ admits _ =>
    .making (Value.times_of_isTellable (tellable.of_le (admits.length_webbedEnemies_le context))) <|
      .told _ (by decide)

theorem supported_buffAtkPerWebbed {bonus : Value}
    (tellable : ∃ number, bonus = .int number ∧ Value.IsTellable (stance.slots * number)) :
    (buffAtkPerWebbed bonus).SupportedBy stance.footing := by
  obtain ⟨number, rfl, tellable⟩ := tellable
  refine supported_onPool fun context _ _ admits _ => ?_
  split
  · exact .nothing
  · exact .making (Value.times_of_isTellable
      (tellable.of_le (admits.length_webbedEnemies_le context))) (.told _ (by decide))

theorem supported_healPer (rule : Card → Bool) (noun : String) {amount : Value}
    (tellable : ∃ number, amount = .int number ∧ Value.IsTellable (stance.slots * number)) :
    (healPer rule noun amount).SupportedBy stance.footing := by
  obtain ⟨number, rfl, tellable⟩ := tellable
  exact supported_onPool fun _ acts _ admits _ =>
    .making
      (Value.times_of_isTellable (tellable.of_le (admits.length_friendlyWith_le acts rule))) <|
      .told _ (by decide)

theorem supported_enterStalkMode : enterStalkMode.SupportedBy footing :=
  supported_onPool fun _ _ _ _ _ => .reading fun _ _ => .pickCard supports_enterStalking

theorem supported_pickFriendly {rule : Card → Bool} {missing title : String}
    {change : CardId → Engine Outcome} (each : ∀ creature, footing.Supports (change creature)) :
    (pickFriendly rule missing title change).SupportedBy footing :=
  supported_onPool fun _ _ _ _ _ => .reading fun _ _ => .pickCard each

theorem supported_grantPride : grantPride.SupportedBy footing :=
  supported_pickFriendly fun _ => .reading fun _ _ => .told _ (by decide)

theorem supported_chasePrey (atkBonus : Value) : (chasePrey atkBonus).SupportedBy footing :=
  supported_pickFriendly fun _ => .reading fun _ _ => .telling <| .pure <|
    .of_keys ["buff_creature", "add_keyword"] rfl (by decide) (by decide)

theorem supported_grantShell (shellLevel : Value) : (grantShell shellLevel).SupportedBy footing :=
  supported_pickFriendly fun _ => .reading fun _ _ => .told _ (by decide)

theorem supported_grantMolt : grantMolt.SupportedBy footing :=
  supported_pickFriendly fun _ => .reading fun _ _ => .told _ (by decide)

theorem supported_damageEqualToStalkBonus : damageEqualToStalkBonus.SupportedBy footing :=
  fun _ _ => .reading fun _ _ => .ite (fun _ => .missing _) fun _ =>
    .ite (fun _ => .missing _) fun _ =>
    .pickCard fun _ => .reading fun _ _ => .told _ (by decide)

theorem supported_damageEqualToTotalShell :
    damageEqualToTotalShell.SupportedBy stance.footing := by
  refine fun context acts => .reading fun board admits => .ite (fun _ => .missing _) fun _ =>
    .ite (fun _ => .missing _) fun _ =>
      .making (Value.shown_of_isTellable (admits.tellable_totalShell acts)) ?_
  refine .pickOne fun candidate member => ?_
  obtain ⟨id, -, rfl⟩ := List.mem_map.1 member
  exact .reading fun _ _ => .told _ (by decide)

end Tribes

end Effect

end CreatureCards
