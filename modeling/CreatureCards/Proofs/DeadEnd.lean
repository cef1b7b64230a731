import CreatureCards.Proofs.LatePick

/-!
# Late picks with nothing to pick

A late pick is announced before what stands ahead of it is applied, and finds its
candidates afterwards.  Given that the keeper of the game draws, adds and plays cards as
it is asked to, each such pick has a candidate, but for one case: a draw that leaves an
empty hand empty is followed by a discard all the same.
-/

namespace CreatureCards

/-- The card is among the candidates that the pick has on the board. -/
def Inquiry.Offers (inquiry : Inquiry) (board : Board) (card : CardId) : Prop :=
  ∃ pick candidates, inquiry = .pick pick ∧ pick.source.candidates board = .ok candidates ∧
    .card card ∈ candidates.map Candidate.value

/-- The cards are as they were, and the acting player has this hand and this deck, each in
some order. -/
def Board.Dealt (before : Board) (context : Context) (hand deck : Places) (after : Board) : Prop :=
  after.card = before.card ∧
    ∃ player, context.actor after = some player ∧ player.hand.Perm hand ∧ player.deck.Perm deck

/-- The keeper of the game applies descriptors to the board.  What is assumed is how the
cards of the acting player move: a draw takes as many cards as it says, or all there are,
from deck to hand; a card that is added from the deck comes into the hand; and a card
that is played leaves the hand. -/
structure Keeper (context : Context) where
  apply : String × Outcome → Board → Board
  draws {board : Board} {player : Player} (acts : context.actor board = some player) (count : Int) :
    ∃ drawn left, player.deck.Perm (drawn ++ left) ∧
      drawn.length = min count.toNat player.deck.length ∧
      board.Dealt context (player.hand ++ drawn) left (apply ("draw", .int count) board)
  adds {board : Board} {player : Player} (acts : context.actor board = some player) {card : CardId}
    (held : some card ∈ player.deck) :
    board.Dealt context (player.hand ++ [some card]) (player.deck.erase (some card))
      (apply ("add_to_hand", .record [("player_index", .index context.playerIndex),
        ("card", .card card), ("from_deck", .bool true)]) board)
  plays {board : Board} {player : Player} (acts : context.actor board = some player)
    (card : CardId) :
    board.Dealt context (player.hand.erase (some card)) player.deck
      (apply ("play_from_hand", .record [("player_index", .index context.playerIndex),
        ("card", .card card)]) board)

/-- The board after the descriptors were applied in order. -/
def Keeper.applyAll {context : Context} (keeper : Keeper context) (fields : Descriptors)
    (board : Board) : Board :=
  fields.foldl (fun board field => keeper.apply field board) board

theorem Board.Dealt.actor_ne_none {before after : Board} {context : Context} {hand deck : Places}
    (dealt : before.Dealt context hand deck after) : context.actor after ≠ none := by
  obtain ⟨-, player, actor, -, -⟩ := dealt
  rw [actor]
  exact Option.some_ne_none player

/-- The candidates are cards, and there is one unless `empty` holds. -/
def OffersUnless (empty : Prop) (made : Except Failure (List Candidate)) : Prop :=
  ∃ offered, made = .ok offered ∧ (∀ candidate ∈ offered, ∃ card, candidate.value = .card card) ∧
    (offered = [] ↔ empty)

theorem Offer.offersUnless {made : Except Failure (List Candidate)} {cards : List CardId}
    {empty : Prop} (offer : Offer made cards) (isEmpty : cards = [] ↔ empty) :
    OffersUnless empty made := by
  obtain ⟨offered, isOffered, perm⟩ := offer
  refine ⟨offered, isOffered, fun candidate member => ?_, ?_⟩
  · obtain ⟨card, -, isCard⟩ := List.mem_map.1 (perm.mem_iff.1 (List.mem_map_of_mem member))
    exact ⟨card, isCard.symm⟩
  · rw [← isEmpty, ← List.length_eq_zero_iff, ← List.length_eq_zero_iff, ← List.length_map,
      perm.length_eq, List.length_map]

namespace LateEffect

variable {context : Context} {board : Board} {player : Player}

/-- A card that was taken from the deck on an offer stood in the deck. -/
theorem mem_deck_of_returned {chosen : List CardId} {tutored : CardId} {outcome : Outcome}
    (returned : tutorAndPlaySpell.effect.Returned Inquiry.Offers context chosen board outcome)
    (isChosen : chosen = [tutored]) (acts : context.actor board = some player)
    (filled : none ∉ player.deck) : some tutored ∈ player.deck := by
  cases returned with
  | resolved ran => cases isChosen
  | @answered prior _ _ _ _ _ _ card _ _ returned asked isLegal ran =>
      have parts : prior = [] ∧ card = tutored := by
        have split := List.append_eq_singleton_iff.1 isChosen
        simpa using split
      obtain ⟨rfl, rfl⟩ := parts
      cases stage_of_returned returned with
      | ended unasked => rw [unasked] at asked; cases asked
      | late poses title =>
          cases poses with
          | fromDeck actor nonempty =>
              cases asked
              obtain ⟨pick, candidates, isPick, made, member⟩ := isLegal
              cases isPick
              exact Places.mem_cards.1
                (((LatePick.offer_fromDeck acts filled).mem_iff_of_made made _).1 member)

variable {keeper : Keeper context}

/-- After a draw, the hand is empty exactly if it was empty before and nothing was drawn. -/
theorem offersUnless_discard (acts : context.actor board = some player)
    (filledHand : none ∉ player.hand) (filledDeck : none ∉ player.deck) (count : Int) :
    OffersUnless (player.hand = [] ∧ (count ≤ 0 ∨ player.deck = []))
      ((LatePick.discard context (.int count)).candidates
        (keeper.applyAll (LatePick.discard context (.int count)).ahead board)) := by
  obtain ⟨drawn, left, parts, size, -, after, actor, hand, deck⟩ := keeper.draws acts count
  have filledDrawn : none ∉ drawn := fun member =>
    filledDeck (parts.mem_iff.2 (List.mem_append_left left member))
  have filledAfter : none ∉ after.hand := fun member =>
    (List.mem_append.1 (hand.mem_iff.1 member)).elim filledHand filledDrawn
  refine (LatePick.offer_discard (.int count) actor filledAfter).offersUnless ?_
  rw [Places.cards_eq_nil_iff filledAfter, ← List.length_eq_zero_iff, hand.length_eq,
    List.length_append, size, ← List.length_eq_zero_iff,
      ← List.length_eq_zero_iff (l := player.deck)]
  omega

/-- After the tutored card has come into the hand, there is a spell in it. -/
theorem offersUnless_spellAfter {tutored : CardId} {spells : List CardId}
    (acts : context.actor board = some player) (held : some tutored ∈ player.deck)
    (found : Effect.handSpells context [] board = .ok spells)
    (present : spells ≠ [] ∨ (board.card tutored).isSpell) :
    OffersUnless False ((LatePick.spellAfter context tutored).candidates
      (keeper.applyAll (LatePick.spellAfter context tutored).ahead board)) := by
  obtain ⟨cards, after, actor, hand, -⟩ := keeper.adds acts held
  refine (LatePick.offer_spellAfter tutored actor).offersUnless (iff_false_intro fun empty => ?_)
  have spellless := List.filter_eq_nil_iff.1 empty
  rw [cards] at spellless
  rw [handSpells_nil_eq acts] at found
  obtain rfl : _ = spells := Except.ok.inj found
  rcases present with held | isSpell
  · refine held (List.filter_eq_nil_iff.2 fun id member => spellless id ?_)
    exact Places.mem_cards.2 (hand.mem_iff.2 (List.mem_append_left _ (Places.mem_cards.1 member)))
  · refine spellless tutored ?_ isSpell
    exact Places.mem_cards.2 (hand.mem_iff.2 (List.mem_append_right _ (List.mem_singleton_self _)))

/-- After a chosen spell has left the hand, the spells that were not chosen are still in it. -/
theorem offersUnless_furtherSpell {chosen others : List CardId} {spell : CardId}
    (acts : context.actor board = some player)
    (found : Effect.handSpells context (chosen ++ [spell]) board = .ok others)
    (present : others ≠ []) (several : Bool) (left step : Nat) :
    OffersUnless False ((LatePick.furtherSpell context several left step chosen spell).candidates
      (keeper.applyAll (LatePick.furtherSpell context several left step chosen spell).ahead
        board)) := by
  obtain ⟨cards, after, actor, hand, -⟩ := keeper.plays acts spell
  refine (LatePick.offer_furtherSpell several left step chosen spell actor).offersUnless
    (iff_false_intro fun empty => ?_)
  have spellless := List.filter_eq_nil_iff.1 empty
  rw [cards] at spellless
  rw [handSpells_eq _ acts] at found
  obtain rfl : _ = others := Except.ok.inj found
  refine present (List.filter_eq_nil_iff.2 fun id member isOther => spellless id ?_ isOther)
  have other : id ≠ spell := by
    rintro rfl
    simp at isOther
  refine Places.mem_cards.2 (hand.mem_iff.2 ?_)
  exact (List.mem_erase_of_ne fun same => other (Option.some.inj same)).2
    (Places.mem_cards.1 member)

/-- A draw of the effect, if it makes one, is by a whole number. -/
def DrawsWhole : LateEffect → Prop
  | drawThenDiscard drawCount _ => ∃ number, drawCount = .int number
  | _ => True

/-- The effect draws nothing into an empty hand. -/
def LeavesEmpty (player : Player) : LateEffect → Prop
  | drawThenDiscard (.int number) _ => player.hand = [] ∧ (number ≤ 0 ∨ player.deck = [])
  | _ => False

/-- Once what stands ahead of it was applied, a late pick has a candidate, unless nothing was
drawn into an empty hand. -/
theorem Poses.offersUnless (keeper : Keeper context) {late : LateEffect} {chosen : List CardId}
    {posed : LatePick} (poses : late.Poses context chosen board posed) (whole : late.DrawsWhole)
    (acts : context.actor board = some player) (filledHand : none ∉ player.hand)
    (filledDeck : none ∉ player.deck)
    (fromDeck : ∀ tutored, late = tutorAndPlaySpell → chosen = [tutored] →
      some tutored ∈ player.deck) :
    context.actor (keeper.applyAll posed.ahead board) ≠ none ∧
      OffersUnless (late.LeavesEmpty player)
        (posed.candidates (keeper.applyAll posed.ahead board)) := by
  have here : context.actor board ≠ none := by
    rw [acts]
    exact Option.some_ne_none player
  cases poses with
  | @fromSearch cardType _ _ found actor isFound several =>
      obtain rfl : _ = player := Option.some.inj (actor.symm.trans acts)
      subst isFound
      have filled : none ∉ List.filter (Effect.cardTypeRule board cardType) _ :=
        fun member => filledDeck (List.mem_filter.1 member).1
      refine ⟨here, (LatePick.offer_fromSearch filled).offersUnless
        (iff_false_intro fun empty => ?_)⟩
      rw [(Places.cards_eq_nil_iff filled).1 empty] at several
      exact absurd several (by simp)
  | fromDeck actor nonempty =>
      obtain rfl : _ = player := Option.some.inj (actor.symm.trans acts)
      refine ⟨here, (LatePick.offer_fromDeck acts filledDeck).offersUnless
        (iff_false_intro fun empty => nonempty ?_)⟩
      exact (Places.cards_eq_nil_iff filledDeck).1 empty
  | spellAfter found present =>
      have held := fromDeck _ rfl rfl
      exact ⟨(keeper.adds acts held).actor_ne_none, offersUnless_spellAfter acts held found present⟩
  | discard =>
      obtain ⟨number, rfl⟩ := whole
      obtain ⟨drawn, left, -, -, dealt⟩ := keeper.draws acts number
      exact ⟨dealt.actor_ne_none, offersUnless_discard acts filledHand filledDeck number⟩
  | furtherSpell found present =>
      exact ⟨(keeper.plays acts _).actor_ne_none,
        offersUnless_furtherSpell acts found present _ _ _⟩

/-- Given a keeper who draws, adds and plays cards as asked: after everything else in the
outcome was applied, a late pick of the effect finds its candidates, and there is none
exactly if nothing is drawn into an empty hand.  Each candidate is an answer that leads
on. -/
theorem late_pick_is_empty_iff {late : LateEffect} {chosen : List CardId} {fields : Descriptors}
    {pick : Pick} {answer : Choice → Engine Outcome}
    {candidates : Board → Except Failure (List Candidate)} (keeper : Keeper context)
    (whole : late.DrawsWhole)
    (returned : late.effect.Returned Inquiry.Offers context chosen board (.record fields))
    (asked : fields.lookup "select_target" = some (.question (.pick pick) answer))
    (isLate : pick.source = .produced candidates) (acts : context.actor board = some player)
    (filledHand : none ∉ player.hand) (filledDeck : none ∉ player.deck) :
    ∃ offered, candidates (keeper.applyAll fields.immediate board) = .ok offered ∧
      (offered = [] ↔ late.LeavesEmpty player) ∧
      ∀ candidate ∈ offered, ∀ session, ∃ next after,
        answer candidate.value (keeper.applyAll fields.immediate board) session =
          (.ok next, after) := by
  obtain ⟨posed, title, poses, isPosed, rfl⟩ := exists_poses_of_returned returned asked isLate
  obtain rfl : fields = _ := Outcome.record.inj isPosed
  have ahead : Descriptors.immediate (posed.ahead ++ [("select_target",
      laterPick .asCards title posed.candidates posed.answer)]) = posed.ahead := by
    cases poses <;> rfl
  have fromDeck : ∀ tutored, late = tutorAndPlaySpell → chosen = [tutored] →
      some tutored ∈ player.deck := by
    rintro tutored rfl isChosen
    exact mem_deck_of_returned returned isChosen acts filledDeck
  obtain ⟨actor, offered, made, areCards, empty⟩ :=
    poses.offersUnless keeper whole acts filledHand filledDeck fromDeck
  rw [ahead]
  refine ⟨offered, made, empty, fun candidate member session => ?_⟩
  obtain ⟨card, isCard⟩ := areCards candidate member
  rw [isCard]
  obtain ⟨next, after, ran, -⟩ := ((stage_of_returned returned).upshot_answer
    (keeper.applyAll posed.ahead board) asked card).exists_ok actor session
  exact ⟨next, after, ran⟩

end LateEffect

/-- The board after the cards of its first player were moved. -/
def Board.dealing (board : Board) (change : Player → Player) : Board :=
  { board with players := board.players.modify 0 change }

theorem Board.dealt_dealing {board : Board} {player : Player}
    (acts : soloist.actor board = some player) (change : Player → Player) :
    board.Dealt soloist (change player).hand (change player).deck (board.dealing change) := by
  refine ⟨rfl, change player, ?_, .refl _, .refl _⟩
  change (board.players.modify 0 change)[0]? = some (change player)
  have first : board.players[0]? = some player := acts
  rw [List.getElem?_modify_eq, first]
  rfl

/-- A keeper who draws from the front of the deck. -/
def dealer : Keeper soloist where
  apply field board :=
    match field with
    | ("draw", .value (.int count)) => board.dealing fun player =>
      { player with
        hand := player.hand ++ player.deck.take count.toNat
        deck := player.deck.drop count.toNat }
    | ("add_to_hand", .record [_, (_, .card id), _]) => board.dealing fun player =>
      { player with
        hand := player.hand ++ [some id]
        deck := player.deck.erase (some id) }
    | ("play_from_hand", .record [_, (_, .card id)]) => board.dealing fun player =>
      { player with hand := player.hand.erase (some id) }
    | _ => board
  draws {board player} acts count :=
    ⟨player.deck.take count.toNat, player.deck.drop count.toNat,
      by rw [List.take_append_drop], List.length_take, board.dealt_dealing acts _⟩
  adds {board player} acts _ _ := board.dealt_dealing acts _
  plays {board player} acts _ := board.dealt_dealing acts _

namespace LateEffect

/-- A discard follows the draw of the last card of the deck into an empty hand, and has that
card to offer. -/
theorem discarding_the_drawn_card :
    ∃ fields pick answer candidates,
      (drawThenDiscard (.int 2) (.int 1)).effect.Returned Inquiry.Offers soloist []
        (spellTable [] [rain]) (.record fields) ∧
      fields.lookup "select_target" = some (.question (.pick pick) answer) ∧
      pick.source = .produced candidates ∧
      ∃ offered,
        candidates (dealer.applyAll (Descriptors.immediate fields) (spellTable [] [rain])) =
        .ok offered ∧ offered ≠ [] := by
  have asks : (drawThenDiscard (.int 2) (.int 1)).effect soloist (spellTable [] [rain]) .fresh =
      (.ok (.record _), _) := rfl
  have returned : (drawThenDiscard (.int 2) (.int 1)).effect.Returned Inquiry.Offers soloist []
      (spellTable [] [rain]) (.record _) := .resolved asks
  have whole : (drawThenDiscard (.int 2) (.int 1)).DrawsWhole := ⟨2, rfl⟩
  obtain ⟨offered, made, isEmpty, -⟩ := late_pick_is_empty_iff dealer whole returned rfl rfl rfl
    (by decide) (by decide)
  refine ⟨_, _, _, _, returned, rfl, rfl, offered, made, fun empty => ?_⟩
  exact absurd (isEmpty.1 empty) (by simp [LeavesEmpty])

/-- With no card in hand or deck, a draw and a discard are asked for all the same, and the
discard has nothing to offer. -/
theorem discarding_from_nothing_drawn :
    ∃ fields pick answer candidates,
      (drawThenDiscard (.int 1) (.int 1)).effect.Returned Inquiry.Offers soloist []
        (spellTable [] []) (.record fields) ∧
      fields.lookup "select_target" = some (.question (.pick pick) answer) ∧
      pick.source = .produced candidates ∧
      candidates (dealer.applyAll (Descriptors.immediate fields) (spellTable [] [])) = .ok [] := by
  have asks : (drawThenDiscard (.int 1) (.int 1)).effect soloist (spellTable [] []) .fresh =
      (.ok (.record _), _) := rfl
  exact ⟨_, _, _, _, .resolved asks, rfl, rfl, rfl⟩

end LateEffect

end CreatureCards
