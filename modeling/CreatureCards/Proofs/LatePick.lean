import CreatureCards.Proofs.Upshot
import CreatureCards.ZoneEffect

/-!
# Picks that find their candidates when they are shown

Four effects ask for picks whose candidates are found when the pick is shown.  All of
them but one show the hand or the deck of that moment: a search of the deck shows the
cards that stood in the deck when it was resolved, so it goes on to offer cards that
have left the deck since.
-/

namespace CreatureCards

open Engine

/-- What an effect comes to, and what the answers to its picks come to: the cards that were
picked so far, the board on which the outcome came about, and the outcome.  Only legal
cards answer. -/
inductive Effect.Returned (legal : Inquiry → Board → CardId → Prop) (effect : Effect)
    (context : Context) : List CardId → Board → Outcome → Prop
  | resolved {board : Board} {session after : Session} {outcome : Outcome}
      (ran : effect context board session = (.ok outcome, after)) :
      Returned legal effect context [] board outcome
  | answered {chosen : List CardId} {board later : Board} {outcome next : Outcome}
      {inquiry : Inquiry} {answer : Choice → Engine Outcome} {card : CardId}
      {session after : Session} (returned : Returned legal effect context chosen board outcome)
      (asked : outcome.get? "select_target" = some (.question inquiry answer))
      (isLegal : legal inquiry later card)
      (ran : answer (.card card) later session = (.ok next, after)) :
      Returned legal effect context (chosen ++ [card]) later next

/-- A pick that finds its candidates when it is shown, after what stands ahead of it was
applied. -/
structure LatePick where
  ahead : Descriptors := []
  candidates : Board → Except Failure (List Candidate)
  answer : Choice → Engine Outcome

namespace LatePick

def outcome (pick : LatePick) (title : String) : Outcome :=
  .record (pick.ahead ++
    [("select_target", laterPick .asCards title pick.candidates pick.answer)])

/-- A card is taken from those that a search found. -/
def fromSearch (context : Context) (found : Places) : LatePick where
  candidates later := later.sortedCandidates false found
  answer := onCard fun card => return Effect.tutored context (some card)

/-- Any card is taken from the deck, before a spell is played. -/
def fromDeck (context : Context) : LatePick where
  candidates later := match context.actor later with
    | some player => later.sortedCandidates true player.deck
    | none => .error .missingPart
  answer := onCard (Effect.tutorThenPlay context)

/-- A spell is played after a card has come from the deck. -/
def spellAfter (context : Context) (tutored : CardId) : LatePick where
  ahead := [("add_to_hand", .record
    [("player_index", .index context.playerIndex), ("card", .card tutored),
     ("from_deck", .bool true)])]
  candidates later := do
    let spells ← Effect.handSpells context [] later
    return later.cardCandidates none true (later.sorted spells)
  answer := onCard fun spell => return Effect.playedFromHand context spell

/-- A card is discarded after a draw. -/
def discard (context : Context) (drawCount : Value) : LatePick where
  ahead := [("draw", .value drawCount)]
  candidates later := match context.actor later with
    | some player => later.placeCandidates (some context) true player.hand
    | none => .error .missingPart
  answer := onCard fun card => return Effect.discardOne context.playerIndex card

/-- A further spell is played after those that were chosen, the last of which is `spell`. -/
def furtherSpell (context : Context) (several : Bool) (left step : Nat) (chosen : List CardId)
    (spell : CardId) : LatePick where
  ahead := [("play_from_hand", .record
    [("player_index", .index context.playerIndex), ("card", .card spell)])]
  candidates := Effect.spellCandidates context (chosen ++ [spell])
  answer := onCard (Effect.playSpell context several left step (chosen ++ [spell]))

end LatePick

theorem Places.full_cons (place : Option CardId) (rest : Places) :
    Places.full (place :: rest) = (do
      let id ← place.elim (.error .missingPart) .ok
      return id :: (← Places.full rest)) := by
  unfold Places.full
  rw [List.mapM_cons]

/-- Places none of which is empty hold a list of cards. -/
theorem Places.full_eq {places : Places} (filled : none ∉ places) :
    places.full = .ok places.cards := by
  induction places with
  | nil => rfl
  | cons place rest ih =>
      rcases place with - | id
      · exact absurd List.mem_cons_self filled
      · have filledRest : none ∉ rest := fun member => filled (List.mem_cons_of_mem _ member)
        rw [Places.full_cons, ih filledRest]
        rfl

theorem Places.filled_of_full {places : Places} {cards : List CardId}
    (isFull : places.full = .ok cards) : none ∉ places := by
  induction places generalizing cards with
  | nil => exact List.not_mem_nil
  | cons place rest ih =>
      rw [Places.full_cons] at isFull
      rcases place with - | id
      · cases isFull
      · rcases inner : Places.full rest with failure | others
        · rw [inner] at isFull
          cases isFull
        · simpa using ih inner

theorem Places.full_of_vacant {places : Places} (vacant : none ∈ places) :
    places.full = .error .missingPart := by
  induction places with
  | nil => cases vacant
  | cons place rest ih =>
      rw [Places.full_cons]
      rcases place with - | id
      · rfl
      · rw [ih (by simpa using vacant)]
        rfl

theorem Places.cards_none (rest : Places) : Places.cards (none :: rest) = Places.cards rest :=
  rfl

theorem Places.cards_some (id : CardId) (rest : Places) :
    Places.cards (some id :: rest) = id :: Places.cards rest :=
  rfl

theorem Places.cards_filter (rule : Option CardId → Bool) (places : Places) :
    Places.cards (places.filter rule) = places.cards.filter fun id => rule (some id) := by
  induction places with
  | nil => rfl
  | cons place rest ih =>
      rcases place with - | id
      · rw [Places.cards_none, ← ih, List.filter_cons]
        split
        · exact Places.cards_none _
        · rfl
      · rw [Places.cards_some, List.filter_cons, List.filter_cons, ← ih]
        by_cases kept : rule (some id) = true
        · rw [if_pos kept, if_pos kept, Places.cards_some]
        · rw [if_neg kept, if_neg kept]

theorem Places.cards_eq_nil_iff {places : Places} (filled : none ∉ places) :
    places.cards = [] ↔ places = [] := by
  rcases places with - | ⟨- | id, rest⟩
  · exact iff_of_true rfl rfl
  · exact absurd List.mem_cons_self filled
  · exact iff_of_false (List.cons_ne_nil id _) (List.cons_ne_nil _ rest)

theorem Places.length_cards {places : Places} (filled : none ∉ places) :
    places.cards.length = places.length := by
  induction places with
  | nil => rfl
  | cons place rest ih =>
      rcases place with - | id
      · exact absurd List.mem_cons_self filled
      · rw [Places.cards_some, List.length_cons, List.length_cons,
          ih fun member => filled (List.mem_cons_of_mem _ member)]

/-- The candidates offer these cards, in some order. -/
def Offer (made : Except Failure (List Candidate)) (cards : List CardId) : Prop :=
  ∃ offered, made = .ok offered ∧ (offered.map Candidate.value).Perm (cards.map .card)

theorem Offer.mem_iff_of_made {made : Except Failure (List Candidate)} {cards : List CardId}
    {candidates : List Candidate} (offer : Offer made cards) (isMade : made = .ok candidates)
    (card : CardId) : .card card ∈ candidates.map Candidate.value ↔ card ∈ cards := by
  obtain ⟨offered, isOffered, perm⟩ := offer
  obtain rfl : offered = candidates := Except.ok.inj (isOffered.symm.trans isMade)
  rw [perm.mem_iff]
  simp only [List.mem_map, Choice.card.injEq, exists_eq_right]

theorem Offer.mem_iff {made : Except Failure (List Candidate)} {cards others : List CardId}
    (offer : Offer made cards) (other : Offer made others) (id : CardId) :
    id ∈ cards ↔ id ∈ others := by
  have isMade : ∃ offered, made = .ok offered := offer.imp fun _ both => both.1
  obtain ⟨offered, isOffered⟩ := isMade
  exact (offer.mem_iff_of_made isOffered id).symm.trans (other.mem_iff_of_made isOffered id)

section Offers

variable (board : Board) (viewer : Option Context) (shown : Bool)

theorem values_cardCandidates (cards : List CardId) :
    (board.cardCandidates viewer shown cards).map Candidate.value = cards.map .card := by
  rw [Board.cardCandidates, List.map_map]
  rfl

theorem placeCandidates_eq {places : Places} (filled : none ∉ places) :
    board.placeCandidates viewer shown places =
      .ok (board.cardCandidates viewer shown places.cards) := by
  rw [Board.placeCandidates, Places.full_eq filled]
  rfl

theorem offer_placeCandidates {places : Places} (filled : none ∉ places) :
    Offer (board.placeCandidates viewer shown places) places.cards := by
  refine ⟨_, placeCandidates_eq board viewer shown filled, ?_⟩
  rw [values_cardCandidates]

theorem offer_sorted (cards : List CardId) :
    Offer (.ok (board.cardCandidates viewer shown (board.sorted cards))) cards := by
  refine ⟨_, rfl, ?_⟩
  rw [values_cardCandidates]
  exact (List.mergeSort_perm cards _).map _

theorem offer_sortedCandidates {places : Places} (filled : none ∉ places) :
    Offer (board.sortedCandidates shown places) places.cards := by
  rw [Board.sortedCandidates, Places.full_eq filled]
  exact offer_sorted board none shown places.cards

end Offers

section Zones

variable {context : Context} {later : Board} {player : Player}

theorem handSpells_eq (chosen : List CardId) (acts : context.actor later = some player) :
    Effect.handSpells context chosen later =
      .ok (player.hand.cards.filter fun id => (later.card id).isSpell && !chosen.contains id) := by
  unfold Effect.handSpells
  rw [acts]

theorem handSpells_nil_eq (acts : context.actor later = some player) :
    Effect.handSpells context [] later =
      .ok (player.hand.cards.filter fun id => (later.card id).isSpell) := by
  rw [handSpells_eq [] acts]
  simp only [List.contains_nil, Bool.not_false, Bool.and_true]

namespace LatePick

theorem offer_fromSearch {found : Places} (filled : none ∉ found) :
    Offer ((fromSearch context found).candidates later) found.cards :=
  offer_sortedCandidates later false filled

theorem offer_fromDeck (acts : context.actor later = some player) (filled : none ∉ player.deck) :
    Offer ((fromDeck context).candidates later) player.deck.cards := by
  dsimp only [fromDeck]
  rw [acts]
  exact offer_sortedCandidates later true filled

theorem offer_spellAfter (tutored : CardId) (acts : context.actor later = some player) :
    Offer ((spellAfter context tutored).candidates later)
      (player.hand.cards.filter fun id => (later.card id).isSpell) := by
  dsimp only [spellAfter]
  rw [handSpells_nil_eq acts]
  exact offer_sorted later none true _

theorem offer_discard (drawCount : Value) (acts : context.actor later = some player)
    (filled : none ∉ player.hand) :
    Offer ((discard context drawCount).candidates later) player.hand.cards := by
  dsimp only [discard]
  rw [acts]
  exact offer_placeCandidates later (some context) true filled

theorem offer_furtherSpell (several : Bool) (left step : Nat) (chosen : List CardId)
    (spell : CardId) (acts : context.actor later = some player) :
    Offer ((furtherSpell context several left step chosen spell).candidates later)
      (player.hand.cards.filter fun id =>
        (later.card id).isSpell && !(chosen ++ [spell]).contains id) := by
  dsimp only [furtherSpell, Effect.spellCandidates]
  rw [handSpells_eq _ acts]
  refine ⟨_, rfl, ?_⟩
  rw [values_cardCandidates]

end LatePick

end Zones

/-- The effects with such picks. -/
inductive LateEffect where
  | tutorFromDeck (cardType : Value)
  | tutorAndPlaySpell
  | drawThenDiscard (drawCount discardCount : Value)
  | playSpellsFromHand (count : Value)

namespace LateEffect

def effect : LateEffect → Effect
  | tutorFromDeck cardType => Effect.tutorFromDeck cardType
  | tutorAndPlaySpell => Effect.tutorAndPlaySpell
  | drawThenDiscard drawCount discardCount => Effect.drawThenDiscard drawCount discardCount
  | playSpellsFromHand count => Effect.playSpellsFromHand count

/-- The picks that the effect asks for on a board, after some cards were chosen. -/
inductive Poses (context : Context) : LateEffect → List CardId → Board → LatePick → Prop
  | fromSearch {cardType : Value} {board : Board} {player : Player} {found : Places}
      (acts : context.actor board = some player)
      (isFound : player.deck.filter (Effect.cardTypeRule board cardType) = found)
      (several : 1 < found.length) :
      Poses context (tutorFromDeck cardType) [] board (.fromSearch context found)
  | fromDeck {board : Board} {player : Player} (acts : context.actor board = some player)
      (filled : player.deck ≠ []) :
      Poses context tutorAndPlaySpell [] board (.fromDeck context)
  | spellAfter {board : Board} {tutored : CardId} {spells : List CardId}
      (found : Effect.handSpells context [] board = .ok spells)
      (present : spells ≠ [] ∨ (board.card tutored).isSpell) :
      Poses context tutorAndPlaySpell [tutored] board (.spellAfter context tutored)
  | discard {drawCount discardCount : Value} {board : Board} :
      Poses context (drawThenDiscard drawCount discardCount) [] board (.discard context drawCount)
  | furtherSpell {count : Value} {board : Board} {several : Bool} {left step : Nat}
      {chosen others : List CardId} {spell : CardId}
      (found : Effect.handSpells context (chosen ++ [spell]) board = .ok others)
      (present : others ≠ []) :
      Poses context (playSpellsFromHand count) (chosen ++ [spell]) board
        (.furtherSpell context several left step chosen spell)

/-- What the effect may have come to: no pick at all, the first pick of spells, whose
candidates are listed, or a late pick. -/
inductive Stage (context : Context) : LateEffect → List CardId → Board → Outcome → Prop
  | ended {late : LateEffect} {chosen : List CardId} {board : Board} {outcome : Outcome}
      (unasked : outcome.get? "select_target" = none) : Stage context late chosen board outcome
  | listed {count : Value} {board : Board} {title : String} {candidates : List Candidate}
      {several : Bool} {left : Nat} :
      Stage context (playSpellsFromHand count) [] board
        (.asking (PickStyle.asCards.pick title (.listed candidates))
          (onCard (Effect.playSpell context several left 0 [])))
  | late {late : LateEffect} {chosen : List CardId} {board : Board} {pick : LatePick}
      (poses : late.Poses context chosen board pick) (title : String) :
      Stage context late chosen board (pick.outcome title)

section Stages

variable {context : Context} {board : Board}

theorem upshot_tutorFromDeck (cardType : Value) :
    Upshot board True (Stage context (.tutorFromDeck cardType) [] board)
      (Effect.tutorFromDeck cardType context) := by
  refine .reading (.requiring (fun _ => trivial) fun player acts =>
    .branch (fun _ => ?_) fun _ => ?_)
  · exact .telling (.pure (.ended rfl))
  · dsimp only
    rcases isFound : player.deck.filter (Effect.cardTypeRule board cardType) with
      - | ⟨only, - | ⟨other, rest⟩⟩
    · exact .telling (.pure (.ended rfl))
    · exact .pure (.ended rfl)
    · exact .pure (.late (.fromSearch acts isFound (by simp)) _)

theorem upshot_tutorAndPlaySpell :
    Upshot board True (Stage context .tutorAndPlaySpell [] board)
      (Effect.tutorAndPlaySpell context) := by
  refine .reading (.requiring (fun _ => trivial) fun player acts =>
    .branch (fun _ => ?_) fun filled => ?_)
  · exact .telling (.pure (.ended rfl))
  · have filled : player.deck ≠ [] := fun empty => filled (by rw [empty]; rfl)
    exact .pure (.late (.fromDeck acts filled) _)

theorem actor_eq_none_of_handSpells {chosen : List CardId} {failure : Failure}
    (broken : Effect.handSpells context chosen board = .error failure) :
    context.actor board = none := by
  unfold Effect.handSpells at broken
  split at broken
  · cases broken
  · assumption

theorem upshot_tutorThenPlay (card : CardId) :
    Upshot board (context.actor board = none) (Stage context .tutorAndPlaySpell [card] board)
      (Effect.tutorThenPlay context card) := by
  refine .reading (.making (fun _ => actor_eq_none_of_handSpells) fun spells found =>
    .branch (fun _ => ?_) fun present => ?_)
  · exact .telling (.pure (.ended rfl))
  · have present : spells ≠ [] ∨ (board.card card).isSpell := by
      rcases spells with - | ⟨first, rest⟩
      · exact .inr (by simpa using present)
      · exact .inl (List.cons_ne_nil first rest)
    refine .orFail (fun failure broken => ?_) fun outcome merged => ?_
    · cases broken
    · cases merged
      exact .late (.spellAfter found present) _

theorem upshot_drawThenDiscard (drawCount discardCount : Value) :
    Upshot board True (Stage context (.drawThenDiscard drawCount discardCount) [] board)
      (Effect.drawThenDiscard drawCount discardCount context) :=
  .telling (.pure (.late .discard _))

theorem upshot_playSpell (count : Value) (several : Bool) (left step : Nat)
    (chosen : List CardId) (spell : CardId) :
    Upshot board (context.actor board = none)
      (Stage context (.playSpellsFromHand count) (chosen ++ [spell]) board)
      (Effect.playSpell context several left step chosen spell) := by
  cases left with
  | zero => exact .pure (.ended rfl)
  | succ left =>
      refine .reading (.making (fun _ => actor_eq_none_of_handSpells) fun others found =>
        .branch (fun _ => ?_) fun present => ?_)
      · exact .telling (.pure (.ended rfl))
      · have present : others ≠ [] := fun empty => present (by rw [empty]; rfl)
        refine .orFail (fun failure broken => ?_) fun outcome merged => ?_
        · cases broken
        · cases merged
          exact .late (.furtherSpell found present) _

theorem handSpells_eq_filter {spells : List CardId} (chosen : List CardId)
    (found : Effect.handSpells context [] board = .ok spells) :
    Effect.handSpells context chosen board =
      .ok (spells.filter fun id => !chosen.contains id) := by
  rcases acts : context.actor board with - | player
  · unfold Effect.handSpells at found
    rw [acts] at found
    cases found
  · rw [handSpells_nil_eq acts] at found
    obtain rfl : _ = spells := Except.ok.inj found
    rw [handSpells_eq chosen acts, List.filter_filter]
    exact congrArg Except.ok (List.filter_congr fun id _ => Bool.and_comm _ _)

/-- The only spell in hand leaves no further spell to ask for. -/
theorem upshot_playSpell_alone {spell : CardId}
    (found : Effect.handSpells context [] board = .ok [spell]) (late : LateEffect)
    (several : Bool) (left : Nat) :
    Upshot board True (fun outcome => Stage context late [] board outcome.orNothing)
      (Effect.playSpell context several left 0 [] spell) := by
  cases left with
  | zero => exact .pure (.ended rfl)
  | succ left =>
      refine .reading (.making (fun _ _ => trivial) fun others isOthers =>
        .branch (fun _ => ?_) fun present => ?_)
      · exact .telling (.pure (.ended rfl))
      · rw [handSpells_eq_filter _ found] at isOthers
        obtain rfl : _ = others := Except.ok.inj isOthers
        simp at present

theorem upshot_playSpellsFromHand (count : Value) :
    Upshot board True (Stage context (.playSpellsFromHand count) [] board)
      (Effect.playSpellsFromHand count context) := by
  refine .reading (.making (fun _ _ => trivial) fun spells found =>
    .branch (fun _ => ?_) fun _ => ?_)
  · exact .telling (.pure (.ended rfl))
  · refine .making (fun _ _ => trivial) fun rounds _ =>
      .pickOne (fun _ => .ended rfl) ?_ fun _ => .listed
    intro only isOnly
    obtain ⟨spell, rfl, rfl⟩ := List.map_eq_singleton_iff.1 isOnly
    exact upshot_playSpell_alone found _ _ _

theorem upshot_effect (late : LateEffect) :
    Upshot board True (Stage context late [] board) (late.effect context) := by
  cases late with
  | tutorFromDeck cardType => exact upshot_tutorFromDeck cardType
  | tutorAndPlaySpell => exact upshot_tutorAndPlaySpell
  | drawThenDiscard drawCount discardCount => exact upshot_drawThenDiscard drawCount discardCount
  | playSpellsFromHand count => exact upshot_playSpellsFromHand count

/-- The answer with a card, on whatever board with an acting player it is given, leads to a
further stage. -/
theorem Stage.upshot_answer {late : LateEffect} {chosen : List CardId} {outcome : Outcome}
    {inquiry : Inquiry} {answer : Choice → Engine Outcome} (later : Board)
    (stage : Stage context late chosen board outcome)
    (asked : outcome.get? "select_target" = some (.question inquiry answer)) (card : CardId) :
    Upshot later (context.actor later = none) (Stage context late (chosen ++ [card]) later)
      (answer (.card card)) := by
  cases stage with
  | ended unasked => rw [unasked] at asked; cases asked
  | listed =>
      cases asked
      exact upshot_playSpell _ _ _ _ _ card
  | late poses title =>
      cases poses with
      | fromSearch acts isFound several =>
          cases asked
          exact .pure (.ended rfl)
      | fromDeck acts filled =>
          cases asked
          exact upshot_tutorThenPlay card
      | spellAfter found present =>
          cases asked
          exact .pure (.ended rfl)
      | discard =>
          cases asked
          exact .pure (.ended rfl)
      | furtherSpell found present =>
          cases asked
          exact upshot_playSpell _ _ _ _ _ card

end Stages

variable {legal : Inquiry → Board → CardId → Prop} {late : LateEffect} {context : Context}
  {chosen : List CardId} {board : Board} {outcome : Outcome}

/-- Whatever is answered, the effect goes through its stages. -/
theorem stage_of_returned (returned : late.effect.Returned legal context chosen board outcome) :
    Stage context late chosen board outcome := by
  induction returned with
  | resolved ran => exact (upshot_effect late).of_ok ran
  | answered returned asked isLegal ran stage => exact (stage.upshot_answer _ asked _).of_ok ran

/-- A pick whose candidates are found when it is shown is one of those that the effect
poses. -/
theorem exists_poses_of_returned {pick : Pick} {answer : Choice → Engine Outcome}
    {candidates : Board → Except Failure (List Candidate)}
    (returned : late.effect.Returned legal context chosen board outcome)
    (asked : outcome.get? "select_target" = some (.question (.pick pick) answer))
    (isLate : pick.source = .produced candidates) :
    ∃ posed title, late.Poses context chosen board posed ∧ outcome = posed.outcome title ∧
      posed.candidates = candidates := by
  cases stage_of_returned returned with
  | ended unasked => rw [unasked] at asked; cases asked
  | listed =>
      cases asked
      cases isLate
  | @late _ _ _ posed poses title =>
      refine ⟨posed, title, poses, rfl, ?_⟩
      cases poses <;> (cases asked; exact CandidateSource.produced.inj isLate)

/-- The cards that a pick of the effect is about, in the zones of the acting player. -/
def eligible (board : Board) (player : Player) (chosen : List CardId) : LateEffect → List CardId
  | tutorFromDeck cardType =>
    player.deck.cards.filter fun id => Effect.cardTypeRule board cardType (some id)
  | tutorAndPlaySpell =>
    if chosen.isEmpty then player.deck.cards
    else player.hand.cards.filter fun id => (board.card id).isSpell
  | drawThenDiscard _ _ => player.hand.cards
  | playSpellsFromHand _ =>
    player.hand.cards.filter fun id => (board.card id).isSpell && !chosen.contains id

/-- The board whose zones a pick shows: that of the moment in which it is shown, and for a
search of the deck that of the moment in which the effect was resolved. -/
def source (returnedOn shownOn : Board) : LateEffect → Board
  | tutorFromDeck _ => returnedOn
  | _ => shownOn

/-- On whatever board a late pick is shown, it offers exactly the eligible cards of the board
that is its source: the cards of the acting player's deck or hand at that moment, without
the spells that were chosen already.  Only a search of the deck has another source than
the board on which it is shown. -/
theorem late_picks_offer_the_eligible {pick : Pick} {answer : Choice → Engine Outcome}
    {candidates : Board → Except Failure (List Candidate)} (later : Board) {player : Player}
    (returned : late.effect.Returned legal context chosen board outcome)
    (asked : outcome.get? "select_target" = some (.question (.pick pick) answer))
    (isLate : pick.source = .produced candidates)
    (acts : context.actor (late.source board later) = some player)
    (filledHand : none ∉ player.hand) (filledDeck : none ∉ player.deck) :
    Offer (candidates later) (late.eligible (late.source board later) player chosen) := by
  obtain ⟨posed, title, poses, rfl, rfl⟩ := exists_poses_of_returned returned asked isLate
  cases poses with
  | @fromSearch cardType _ _ found actor isFound several =>
      obtain rfl : _ = player := Option.some.inj (actor.symm.trans acts)
      subst isFound
      dsimp only [eligible, source]
      rw [← Places.cards_filter]
      exact LatePick.offer_fromSearch fun member => filledDeck (List.mem_filter.1 member).1
  | fromDeck => exact LatePick.offer_fromDeck acts filledDeck
  | spellAfter => exact LatePick.offer_spellAfter _ acts
  | discard => exact LatePick.offer_discard _ acts filledHand
  | furtherSpell => exact LatePick.offer_furtherSpell _ _ _ _ _ acts

end LateEffect

def rain : CardId := ⟨"rain"⟩

def snow : CardId := ⟨"snow"⟩

def hail : CardId := ⟨"hail"⟩

/-- Every card is a spell, and one player holds some of them. -/
def spellTable (hand deck : List CardId) : Board where
  card id :=
    { cardId := id.key, instanceId := id.key, name := some id.key
      printedType := some CardType.spell.name }
  players := [{ hand := hand.map some, deck := deck.map some }]

def soloist : Context := { player := some 0, playerIndex := some 0 }

def Session.fresh : Session := { random := .scripted [] 0 }

namespace LateEffect

/-- After the first of three spells was picked, one of the others leaves the hand before
the next pick is shown, which offers the one that is left. -/
theorem playing_on_offers_what_is_left :
    ∃ outcome pick answer candidates,
      (playSpellsFromHand (.int 3)).effect.Returned (fun _ _ _ => True) soloist [rain]
        (spellTable [rain, snow, hail] []) outcome ∧
      outcome.get? "select_target" = some (.question (.pick pick) answer) ∧
      pick.source = .produced candidates ∧ Offer (candidates (spellTable [hail] [])) [hail] := by
  have asks :
      (playSpellsFromHand (.int 3)).effect soloist (spellTable [rain, snow, hail] []) .fresh =
      (.ok _, _) := rfl
  have answers :
      Effect.playSpell soloist true 2 0 [] rain (spellTable [rain, snow, hail] []) .fresh =
      (.ok _, _) := rfl
  have returned : (playSpellsFromHand (.int 3)).effect.Returned (fun _ _ _ => True) soloist [rain]
      (spellTable [rain, snow, hail] []) _ := .answered (.resolved asks) rfl trivial answers
  exact ⟨_, _, _, _, returned, rfl, rfl,
    late_picks_offer_the_eligible (spellTable [hail] []) returned rfl rfl rfl (by decide)
      (by decide)⟩

/-- A search of the deck offers a card that has been drawn since, beside those that are
still in the deck. -/
theorem searching_offers_what_has_left :
    ∃ outcome pick answer candidates,
      (tutorFromDeck (.text "any")).effect.Returned (fun _ _ _ => True) soloist []
        (spellTable [] [rain, snow, hail]) outcome ∧
      outcome.get? "select_target" = some (.question (.pick pick) answer) ∧
      pick.source = .produced candidates ∧
      Offer (candidates (spellTable [rain] [snow, hail])) [rain, snow, hail] ∧
      ∀ player ∈ soloist.actor (spellTable [rain] [snow, hail]),
        ¬ Offer (candidates (spellTable [rain] [snow, hail]))
          ((tutorFromDeck (.text "any")).eligible (spellTable [rain] [snow, hail]) player []) := by
  have offer : Offer ((LatePick.fromSearch soloist [some rain, some snow, some hail]).candidates
      (spellTable [rain] [snow, hail])) [rain, snow, hail] :=
    LatePick.offer_fromSearch (by decide)
  have asks :
      (tutorFromDeck (.text "any")).effect soloist (spellTable [] [rain, snow, hail]) .fresh =
      (.ok _, _) := rfl
  refine ⟨_, _, _, _, .resolved asks, rfl, rfl, offer, fun player acts other => ?_⟩
  obtain rfl := Option.some.inj acts
  exact absurd ((offer.mem_iff other rain).1 List.mem_cons_self) (by decide)

end LateEffect

end CreatureCards
