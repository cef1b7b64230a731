import CreatureCards.Proofs.LatePick
import Mathlib.Data.Prod.Lex
import Mathlib.Data.String.Basic

/-!
# Searches that hide the order of the deck

Three effects let the acting player search the deck.  The cards they show are ordered by
kind and then by name, so two decks that differ in nothing but their order look alike: the
same is told, a pick is shown or not, and what it shows reads the same from the first
card to the last.

Cards of one kind and one name are shown in the order of the deck.  They look alike
unless one of them has no name at all, which the order takes for an empty name and the
pick does not.
-/

namespace CreatureCards

open Engine

namespace Card

/-- Where a card stands among others: by its kind, and then by its name. -/
def rank (card : Card) : Nat ×ₗ String :=
  toLex (card.typePriority, card.name.getD "")

theorem sortsBefore_iff {left right : Card} :
    left.sortsBefore right = true ↔ left.rank ≤ right.rank := by
  simp only [sortsBefore, rank, Bool.or_eq_true, Bool.and_eq_true, decide_eq_true_eq, beq_iff_eq,
    Prod.Lex.toLex_le_toLex]

end Card

namespace Board

variable (board : Board)

def ranks (cards : List CardId) : List (Nat ×ₗ String) :=
  cards.map fun id => (board.card id).rank

theorem sorted_perm (cards : List CardId) : (board.sorted cards).Perm cards :=
  List.mergeSort_perm cards _

theorem pairwise_sorted (cards : List CardId) :
    (board.sorted cards).Pairwise fun left right =>
      (board.card left).rank ≤ (board.card right).rank := by
  have ordered : (board.sorted cards).Pairwise fun left right =>
      (board.card left).sortsBefore (board.card right) = true := by
    refine List.pairwise_mergeSort (fun first second third one next => ?_) (fun first second => ?_)
      cards
    · rw [Card.sortsBefore_iff] at one next ⊢
      exact one.trans next
    · rw [Bool.or_eq_true, Card.sortsBefore_iff, Card.sortsBefore_iff]
      exact le_total _ _
  exact ordered.imp Card.sortsBefore_iff.1

/-- Sorted, the same cards in another order have the same ranks from first to last. -/
theorem ranks_sorted {cards others : List CardId} (same : cards.Perm others) :
    board.ranks (board.sorted cards) = board.ranks (board.sorted others) := by
  have ascending (some : List CardId) : (board.ranks (board.sorted some)).Pairwise (· ≤ ·) :=
    List.pairwise_map.2 (board.pairwise_sorted some)
  -- Different cards may have one rank, so the ranks are compared and not the cards.
  refine List.Perm.eq_of_pairwise (fun _ _ _ _ => le_antisymm) (ascending cards)
    (ascending others) (List.Perm.map _ ?_)
  exact (board.sorted_perm cards).trans (same.trans (board.sorted_perm others).symm)

/-- What cards are called, from first to last. -/
def names (cards : List CardId) : List (Option String) :=
  cards.map fun id => (board.card id).name

/-- Cards of one rank among these have one name, or none of them has any. -/
def NamedApart (cards : List CardId) : Prop :=
  ∀ one ∈ cards, ∀ other ∈ cards, (board.card one).rank = (board.card other).rank →
    (board.card one).name = none → (board.card other).name = none

/-- What the cards in places are called where a missing name reads as an empty one. -/
theorem texts_eq (cards : List CardId) :
    (board.names cards).map (fun name => name.getD "") =
      (board.ranks cards).map fun rank => (ofLex rank).2 := by
  rw [names, ranks, List.map_map, List.map_map]
  rfl

variable {board}

theorem namedApart_of_named {cards : List CardId}
    (named : ∀ id ∈ cards, (board.card id).name ≠ none) : board.NamedApart cards :=
  fun one isOne _ _ _ nameless => absurd nameless (named one isOne)

theorem NamedApart.name_eq {cards : List CardId} (apart : board.NamedApart cards)
    {one other : CardId} (isOne : one ∈ cards) (isOther : other ∈ cards)
    (same : (board.card one).rank = (board.card other).rank) :
    (board.card one).name = (board.card other).name := by
  have sameRead : (board.card one).name.getD "" = (board.card other).name.getD "" :=
    congrArg (fun rank => (ofLex rank).2) same
  rcases isName : (board.card one).name with - | name
  · exact (apart one isOne other isOther same isName).symm
  · rcases isNameToo : (board.card other).name with - | second
    · rw [apart other isOther one isOne same.symm isNameToo] at isName
      cases isName
    · rw [isName, isNameToo] at sameRead
      exact congrArg some sameRead

/-- Among cards that are named apart, the same ranks are the same names. -/
theorem NamedApart.names_eq {cards ones others : List CardId} (apart : board.NamedApart cards)
    (isOnes : ∀ id ∈ ones, id ∈ cards) (isOthers : ∀ id ∈ others, id ∈ cards)
    (same : board.ranks ones = board.ranks others) : board.names ones = board.names others := by
  have sameLength : ones.length = others.length := by
    simpa [ranks] using congrArg List.length same
  refine List.ext_getElem (by simpa [names] using sameLength) fun place here there => ?_
  have within : place < ones.length := by simpa [names] using here
  have withinToo : place < others.length := by simpa [names] using there
  have sameRank : (board.card ones[place]).rank = (board.card others[place]).rank := by
    simpa [ranks, within, withinToo] using congrArg (fun ranks => ranks[place]?) same
  simpa [names] using apart.name_eq (isOnes _ (List.getElem_mem within))
    (isOthers _ (List.getElem_mem withinToo)) sameRank

end Board

/-- What candidates are labelled with, from first to last. -/
def labels (offered : Except Failure (List Candidate)) : Except Failure (List (Option String)) :=
  offered.map (List.map Candidate.label)

/-- How the labels read: a missing one reads as an empty one. -/
def readings (offered : Except Failure (List Candidate)) : Except Failure (List String) :=
  (labels offered).map (List.map fun label => label.getD "")

namespace Board

/-- The candidates are the cards that were found, ordered by kind and then by name, unless
an empty place was found with them. -/
structure InOrder (board : Board) (found : Places) (offered : Except Failure (List Candidate)) :
    Prop where
  offers_iff : (∃ candidates, offered = .ok candidates) ↔ none ∉ found
  cards {candidates : List Candidate} (isOffered : offered = .ok candidates) :
    ∃ cards, candidates.map Candidate.value = cards.map .card ∧ cards.Perm found.cards ∧
      (cards.Pairwise fun left right => (board.card left).rank ≤ (board.card right).rank) ∧
      candidates.map Candidate.label = board.names cards

/-- The candidates of two picks of what was found are in order and look alike. -/
structure LooksAlike (board : Board) (found : Places)
    (offered others : Except Failure (List Candidate)) : Prop where
  inOrder : board.InOrder found offered
  inOrderToo : board.InOrder found others
  readings_eq : readings offered = readings others
  labels_eq (apart : board.NamedApart found.cards) : labels offered = labels others

section Candidates

variable (board : Board) (shown : Bool)

theorem sortedCandidates_of_filled {places : Places} (filled : none ∉ places) :
    board.sortedCandidates shown places =
      .ok (board.cardCandidates none shown (board.sorted places.cards)) := by
  rw [sortedCandidates, Places.full_eq filled]
  rfl

theorem labels_cardCandidates (cards : List CardId) :
    (board.cardCandidates none shown cards).map Candidate.label = board.names cards := by
  rw [cardCandidates, List.map_map]
  rfl

theorem sortedCandidates_of_vacant {places : Places} (vacant : none ∈ places) :
    board.sortedCandidates shown places = .error .missingPart := by
  rw [sortedCandidates, Places.full_of_vacant vacant]
  rfl

theorem inOrder_sortedCandidates {places found : Places} (same : places.Perm found) :
    board.InOrder found (board.sortedCandidates shown places) := by
  by_cases vacant : none ∈ places
  · rw [board.sortedCandidates_of_vacant shown vacant]
    refine ⟨?_, fun isOffered => by cases isOffered⟩
    exact iff_of_false (fun ⟨_, isOffered⟩ => by cases isOffered)
      (not_not_intro (same.mem_iff.1 vacant))
  · rw [board.sortedCandidates_of_filled shown vacant]
    refine ⟨iff_of_true ⟨_, rfl⟩ (mt same.mem_iff.2 vacant), fun isOffered => ?_⟩
    cases isOffered
    exact ⟨board.sorted places.cards, values_cardCandidates board none shown _,
      (board.sorted_perm _).trans (same.filterMap _), board.pairwise_sorted _,
      board.labels_cardCandidates shown _⟩

/-- The same places in another order offer candidates that look alike. -/
theorem looksAlike_sortedCandidates {places others : Places} (same : places.Perm others) :
    board.LooksAlike places (board.sortedCandidates shown places)
      (board.sortedCandidates shown others) := by
  have inOrder := board.inOrder_sortedCandidates shown (.refl places)
  have inOrderToo := board.inOrder_sortedCandidates shown same.symm
  by_cases vacant : none ∈ places
  · rw [board.sortedCandidates_of_vacant shown vacant] at inOrder ⊢
    rw [board.sortedCandidates_of_vacant shown (same.mem_iff.1 vacant)] at inOrderToo ⊢
    exact ⟨inOrder, inOrderToo, rfl, fun _ => rfl⟩
  · rw [board.sortedCandidates_of_filled shown vacant] at inOrder ⊢
    rw [board.sortedCandidates_of_filled shown (mt same.mem_iff.2 vacant)] at inOrderToo ⊢
    have samePlaces : places.cards.Perm others.cards := same.filterMap _
    have sameRanks := board.ranks_sorted samePlaces
    refine ⟨inOrder, inOrderToo, ?_, fun apart => ?_⟩
    · rw [readings, labels, readings, labels]
      simp only [Except.map, labels_cardCandidates, texts_eq, sameRanks]
    · have sameNames := apart.names_eq (fun _ => (board.sorted_perm _).mem_iff.1)
        (fun _ member => samePlaces.mem_iff.2 ((board.sorted_perm _).mem_iff.1 member)) sameRanks
      simp only [labels, Except.map, labels_cardCandidates, sameNames]

end Candidates

end Board

/-- The pick that an outcome asks for. -/
def Outcome.pick? (outcome : Outcome) : Option Pick :=
  match outcome.get? "select_target" with
  | some (.question (.pick pick) _) => some pick
  | _ => none

/-- The effects that show cards of the deck. -/
inductive DeckSearch where
  | ofType (cardType : Value)
  | beforeSpell
  | withKeyword (keyword : Value)

namespace DeckSearch

def effect : DeckSearch → Effect
  | ofType cardType => Effect.tutorFromDeck cardType
  | beforeSpell => Effect.tutorAndPlaySpell
  | withKeyword keyword => Effect.selectCreatureFromDeckWithKeyword keyword

/-- The places of a deck that the search is about. -/
def rule (board : Board) (place : Option CardId) : DeckSearch → Bool
  | ofType cardType => Effect.cardTypeRule board cardType place
  | beforeSpell => true
  | withKeyword _ => place.any fun id => (board.card id).isCreature

def found (context : Context) (board : Board) (search : DeckSearch) : Places :=
  ((context.actor board).elim [] Player.deck).filter fun place => search.rule board place

/-- What is told when there is nothing to be found. -/
def message (deck found : Places) : DeckSearch → Option String
  | ofType _ =>
    if deck.isEmpty then some "Deck is empty."
    else if found.isEmpty then some "No valid cards in deck."
    else none
  | beforeSpell => if deck.isEmpty then some "Deck is empty." else none
  | withKeyword _ => if found.isEmpty then some "No creatures in deck." else none

/-- Whether so many places are shown. -/
def asks (number : Nat) : DeckSearch → Bool
  | beforeSpell => 0 < number
  | ofType _ | withKeyword _ => 1 < number

/-- The pick shows the card itself. -/
def showsCards : DeckSearch → Bool
  | ofType _ => false
  | beforeSpell | withKeyword _ => true

/-- The board whose deck is searched: a search before a spell waits until its pick is
shown. -/
def searched (resolvedOn shownOn : Board) : DeckSearch → Board
  | beforeSpell => shownOn
  | ofType _ | withKeyword _ => resolvedOn

/-- The board that tells how cards are shown: the creatures to be played are listed
beforehand. -/
def faced (resolvedOn shownOn : Board) : DeckSearch → Board
  | withKeyword _ => resolvedOn
  | ofType _ | beforeSpell => shownOn

/-- What the pick of the search has to offer when it is shown. -/
def offers (context : Context) (resolvedOn shownOn : Board) (search : DeckSearch) :
    Except Failure (List Candidate) :=
  (search.faced resolvedOn shownOn).sortedCandidates search.showsCards
    (search.found context (search.searched resolvedOn shownOn))

/-- What a search comes to: a pick, if there is something to choose from, which shows what
was found in order. -/
structure Shows (context : Context) (resolvedOn : Board) (search : DeckSearch) (outcome : Outcome) :
    Prop where
  asks : outcome.pick?.isSome = search.asks (search.found context resolvedOn).length
  offers {pick : Pick} (asked : outcome.pick? = some pick) {shownOn : Board}
    (acts : context.actor shownOn ≠ none) :
    pick.source.candidates shownOn = search.offers context resolvedOn shownOn

section Runs

variable {context : Context} {board : Board} {player : Player}

theorem found_eq (search : DeckSearch) (acts : context.actor board = some player) :
    search.found context board = player.deck.filter fun place => search.rule board place := by
  rw [found, acts]
  rfl

/-- With nothing to choose from, a search shows no pick. -/
theorem shows_of_unasked {search : DeckSearch} {outcome : Outcome}
    (few : search.asks (search.found context board).length = false)
    (unasked : outcome.pick? = none) : Shows context board search outcome where
  asks := by rw [unasked, few]; rfl
  offers asked := by rw [unasked] at asked; cases asked

/-- A search that has found nothing comes to nothing. -/
theorem shows_of_nothing {search : DeckSearch} (nothing : search.found context board = []) :
    Shows context board search .nothing := by
  refine shows_of_unasked ?_ rfl
  rw [nothing]
  cases search <;> rfl

theorem run_ofType (cardType : Value) (acts : context.actor board = some player)
    (session : Session) :
    ∃ outcome, Effect.tutorFromDeck cardType context board session =
        (.ok outcome, ((ofType cardType).message player.deck
          ((ofType cardType).found context board)).elim session session.announce) ∧
      Shows context board (ofType cardType) outcome := by
  have looked : Engine.board board session = (.ok board, session) := rfl
  have isFound : player.deck.filter (Effect.cardTypeRule board cardType) =
      (ofType cardType).found context board := (found_eq (ofType cardType) acts).symm
  unfold Effect.tutorFromDeck
  rw [bind_of_ok looked, bind_of_ok (require_of_some acts board session), isFound]
  by_cases empty : player.deck.isEmpty = true
  · have nothing : (ofType cardType).found context board = [] := by
      rw [← isFound, List.isEmpty_iff.1 empty]
      rfl
    rw [if_pos empty, message, if_pos empty]
    exact ⟨.nothing, rfl, shows_of_nothing nothing⟩
  · rw [if_neg empty, message, if_neg empty]
    rcases few : (ofType cardType).found context board with - | ⟨only, - | ⟨second, rest⟩⟩
    · exact ⟨.nothing, rfl, shows_of_nothing few⟩
    · exact ⟨Effect.tutored context only, rfl, shows_of_unasked (by rw [few]; rfl) rfl⟩
    · refine ⟨_, rfl, by rw [few]; rfl, fun asked shownOn _ => ?_⟩
      cases asked
      rw [offers, searched, few]
      rfl

theorem run_beforeSpell (acts : context.actor board = some player) (session : Session) :
    ∃ outcome, Effect.tutorAndPlaySpell context board session =
        (.ok outcome, (beforeSpell.message player.deck
          (beforeSpell.found context board)).elim session session.announce) ∧
      Shows context board beforeSpell outcome := by
  have looked : Engine.board board session = (.ok board, session) := rfl
  have whole (deck : Places) (anywhere : Board) :
      (deck.filter fun place => beforeSpell.rule anywhere place) = deck :=
    List.filter_true _
  unfold Effect.tutorAndPlaySpell
  rw [bind_of_ok looked, bind_of_ok (require_of_some acts board session)]
  by_cases empty : player.deck.isEmpty = true
  · have nothing : beforeSpell.found context board = [] := by
      rw [found_eq _ acts, whole, List.isEmpty_iff.1 empty]
    rw [if_pos empty, message, if_pos empty]
    exact ⟨.nothing, rfl, shows_of_nothing nothing⟩
  · rw [if_neg empty, message, if_neg empty]
    refine ⟨_, rfl, ?_, fun asked shownOn isThere => ?_⟩
    · rw [found_eq _ acts, whole]
      have stocked : 0 < player.deck.length :=
        List.length_pos_iff.2 fun nil => empty (by rw [nil]; rfl)
      exact (decide_eq_true stocked).symm
    · cases asked
      obtain ⟨holder, holds⟩ := Option.ne_none_iff_exists'.1 isThere
      rw [offers, searched, found_eq _ holds, whole]
      dsimp only [PickStyle.pick, CandidateSource.candidates]
      rw [holds]
      rfl

theorem run_withKeyword (keyword : Value) (acts : context.actor board = some player)
    (session : Session) :
    ∃ outcome, Effect.selectCreatureFromDeckWithKeyword keyword context board session =
        (.ok outcome, ((withKeyword keyword).message player.deck
          ((withKeyword keyword).found context board)).elim session session.announce) ∧
      Shows context board (withKeyword keyword) outcome := by
  have looked : Engine.board board session = (.ok board, session) := rfl
  have filled : none ∉ (withKeyword keyword).found context board := fun member => by
    rw [found_eq _ acts] at member
    cases (List.mem_filter.1 member).2
  have isFound : board.creaturesAmong player.deck =
      ((withKeyword keyword).found context board).cards := by
    rw [found_eq _ acts, Places.cards_filter]
    rfl
  have sized : ((withKeyword keyword).found context board).length =
      (board.creaturesAmong player.deck).length := by
    rw [isFound, Places.length_cards filled]
  have inOrder : (board.sorted (board.creaturesAmong player.deck)).length =
      ((withKeyword keyword).found context board).length := by
    rw [(board.sorted_perm _).length_eq, sized]
  unfold Effect.selectCreatureFromDeckWithKeyword
  rw [bind_of_ok looked, bind_of_ok (require_of_some acts board session), message]
  by_cases nothing : (withKeyword keyword).found context board = []
  · rw [isFound, nothing]
    exact ⟨.nothing, rfl, shows_of_nothing nothing⟩
  · have present : ¬ (board.creaturesAmong player.deck).isEmpty = true := fun empty => by
      rw [List.isEmpty_iff.1 empty] at sized
      exact nothing (List.eq_nil_of_length_eq_zero sized)
    rw [if_neg present, if_neg (fun empty => nothing (List.isEmpty_iff.1 empty))]
    rcases shown : board.sorted (board.creaturesAmong player.deck) with
      - | ⟨only, - | ⟨second, rest⟩⟩
    · rw [shown] at inOrder
      exact absurd (List.eq_nil_of_length_eq_zero inOrder.symm) nothing
    · rw [shown] at inOrder
      exact ⟨_, rfl, shows_of_unasked (by rw [← inOrder]; rfl) rfl⟩
    · refine ⟨_, rfl, ?_, fun asked shownOn _ => ?_⟩
      · rw [← inOrder, shown]
        rfl
      · cases asked
        rw [offers, searched, faced, Board.sortedCandidates, Places.full_eq filled, ← isFound]
        exact congrArg (fun cards => Except.ok (board.cardCandidates none true cards)) shown.symm

/-- A search tells that there is nothing to be found, or nothing at all, and shows a pick
if there is something to choose from. -/
theorem run (search : DeckSearch) (acts : context.actor board = some player) (session : Session) :
    ∃ outcome, search.effect context board session =
        (.ok outcome, (search.message player.deck
          (search.found context board)).elim session session.announce) ∧
      Shows context board search outcome := by
  cases search with
  | ofType cardType => exact run_ofType cardType acts session
  | beforeSpell => exact run_beforeSpell acts session
  | withKeyword keyword => exact run_withKeyword keyword acts session

end Runs

end DeckSearch

/-- The other board differs in nothing but the order of the acting player's deck. -/
def Board.Reshuffled (context : Context) (board other : Board) : Prop :=
  ∃ place player deck, context.player = some place ∧ board.players[place]? = some player ∧
    player.deck.Perm deck ∧
    other = { board with players := board.players.set place { player with deck } }

namespace Board.Reshuffled

variable {context : Context} {board other : Board}

theorem exists_decks (shuffled : board.Reshuffled context other) :
    ∃ player deck, context.actor board = some player ∧
      context.actor other = some { player with deck } ∧ player.deck.Perm deck := by
  obtain ⟨place, player, deck, isPlace, isPlayer, same, rfl⟩ := shuffled
  have within : place < board.players.length := (List.getElem?_eq_some_iff.1 isPlayer).1
  refine ⟨player, deck, ?_, ?_, same⟩
  · rw [Context.actor, isPlace]
    exact isPlayer
  · rw [Context.actor, isPlace]
    exact List.getElem?_set_self within

theorem sortedCandidates_eq (shuffled : board.Reshuffled context other) (shown : Bool)
    (places : Places) :
    other.sortedCandidates shown places = board.sortedCandidates shown places := by
  obtain ⟨place, player, deck, isPlace, isPlayer, same, rfl⟩ := shuffled
  rfl

theorem rule_eq (shuffled : board.Reshuffled context other) (search : DeckSearch) :
    search.rule other = search.rule board := by
  obtain ⟨place, player, deck, isPlace, isPlayer, same, rfl⟩ := shuffled
  cases search <;> rfl

/-- A search finds the same in the same cards. -/
theorem found_perm (shuffled : board.Reshuffled context other) (search : DeckSearch) :
    (search.found context board).Perm (search.found context other) := by
  obtain ⟨player, deck, acts, actsToo, same⟩ := shuffled.exists_decks
  rw [search.found_eq acts, search.found_eq actsToo, shuffled.rule_eq]
  exact same.filter _

end Board.Reshuffled

section Shuffled

variable {context : Context} {board other : Board}

theorem DeckSearch.message_eq {deck otherDeck found others : Places} (search : DeckSearch)
    (same : deck.Perm otherDeck) (sameFound : found.Perm others) :
    search.message deck found = search.message otherDeck others := by
  cases search <;> simp only [message, same.isEmpty_eq, sameFound.isEmpty_eq]

/-- On boards that differ in nothing but the order of the deck a search tells the same and
shows a pick on both or on neither.  Wherever the two picks are shown on such boards, they
show what was found, ordered by kind and then by name, and read the same from the first
card to the last.  Their labels are the same unless a card without a name was found beside
one of its kind whose name is empty. -/
theorem searches_hide_the_order_of_the_deck (search : DeckSearch)
    (shuffled : board.Reshuffled context other) (session : Session) :
    ∃ outcome otherOutcome after,
      search.effect context board session = (.ok outcome, after) ∧
      search.effect context other session = (.ok otherOutcome, after) ∧
      outcome.pick?.isSome = otherOutcome.pick?.isSome ∧
      ∀ pick otherPick, outcome.pick? = some pick → otherOutcome.pick? = some otherPick →
        ∀ shown otherShown, shown.Reshuffled context otherShown →
          (search.faced board shown).LooksAlike
            (search.found context (search.searched board shown))
            (pick.source.candidates shown) (otherPick.source.candidates otherShown) := by
  obtain ⟨player, deck, acts, actsToo, same⟩ := shuffled.exists_decks
  have sameFound := shuffled.found_perm search
  obtain ⟨outcome, ran, shows⟩ := search.run acts session
  obtain ⟨otherOutcome, ranToo, showsToo⟩ := search.run actsToo session
  rw [← search.message_eq same sameFound] at ranToo
  refine ⟨outcome, otherOutcome, _, ran, ranToo, ?_, fun pick otherPick asked askedToo shown
    otherShown shuffledShown => ?_⟩
  · rw [shows.asks, showsToo.asks, sameFound.length_eq]
  · obtain ⟨shownPlayer, shownDeck, actsShown, actsOther, -⟩ := shuffledShown.exists_decks
    rw [shows.offers asked (by rw [actsShown]; exact Option.some_ne_none _),
      showsToo.offers askedToo (by rw [actsOther]; exact Option.some_ne_none _)]
    -- Whichever board a search reads, the two runs read boards that differ in their order alone.
    have faced : (search.faced board shown).Reshuffled context (search.faced other otherShown) := by
      cases search <;> assumption
    have searched : (search.searched board shown).Reshuffled context
        (search.searched other otherShown) := by
      cases search <;> assumption
    rw [DeckSearch.offers, DeckSearch.offers, faced.sortedCandidates_eq]
    exact (search.faced board shown).looksAlike_sortedCandidates _ (searched.found_perm search)

/-- Whichever of three spells lies on top, the search of the deck looks the same. -/
theorem three_spells_look_the_same :
    (spellTable [] [rain, snow, hail]).Reshuffled soloist (spellTable [] [hail, rain, snow]) ∧
      ∃ outcome otherOutcome after pick otherPick,
        (DeckSearch.ofType (.text "any")).effect soloist (spellTable [] [rain, snow, hail]) .fresh =
          (.ok outcome, after) ∧
        (DeckSearch.ofType (.text "any")).effect soloist (spellTable [] [hail, rain, snow]) .fresh =
          (.ok otherOutcome, after) ∧
        outcome.pick? = some pick ∧ otherOutcome.pick? = some otherPick ∧
        labels (pick.source.candidates (spellTable [] [rain, snow, hail])) =
          labels (otherPick.source.candidates (spellTable [] [hail, rain, snow])) := by
  have shuffled :
      (spellTable [] [rain, snow, hail]).Reshuffled soloist (spellTable [] [hail, rain, snow]) :=
    ⟨0, _, [hail, rain, snow].map some, rfl, rfl, by decide, rfl⟩
  obtain ⟨outcome, otherOutcome, after, ran, ranToo, -, alike⟩ :=
    searches_hide_the_order_of_the_deck (.ofType (.text "any")) shuffled .fresh
  cases ran
  cases ranToo
  refine ⟨shuffled, _, _, _, _, _, rfl, rfl, rfl, rfl, ?_⟩
  exact (alike _ _ rfl rfl _ _ shuffled).labels_eq
    (Board.namedApart_of_named fun _ _ => Option.some_ne_none _)

end Shuffled

def nameless : CardId := ⟨"nameless"⟩

def blank : CardId := ⟨"blank"⟩

/-- One player has cards of one kind in the deck, one of which has no name; those of the
others are empty. -/
def blankTable (deck : List CardId) : Board where
  card id :=
    { cardId := id.key, instanceId := id.key, name := if id = nameless then none else some "" }
  players := [{ deck := deck.map some }]

/-- All cards of this table have one rank, so they stay as they are. -/
theorem sorted_blankTable (deck cards : List CardId) : (blankTable deck).sorted cards = cards := by
  have reads (id : CardId) : ((blankTable deck).card id).name.getD "" = "" := by
    dsimp only [blankTable]
    split <;> rfl
  refine List.mergeSort_of_pairwise (List.pairwise_of_forall fun left right => ?_)
  refine Card.sortsBefore_iff.2 (le_of_eq ?_)
  rw [Card.rank, Card.rank, reads, reads]
  rfl

theorem labels_blankTable (deck : List CardId) (places : Places) (filled : none ∉ places) :
    labels ((blankTable deck).sortedCandidates false places) =
      .ok ((blankTable deck).names places.cards) := by
  rw [Board.sortedCandidates_of_filled _ _ filled, sorted_blankTable]
  exact congrArg Except.ok ((blankTable deck).labels_cardCandidates false _)

/-- A card without a name is shown before or after one with an empty name, as they lie in the
deck. -/
theorem a_missing_name_shows_the_order :
    (blankTable [nameless, blank]).Reshuffled soloist (blankTable [blank, nameless]) ∧
      ∃ outcome otherOutcome after pick otherPick,
        (DeckSearch.ofType (.text "any")).effect soloist (blankTable [nameless, blank]) .fresh =
          (.ok outcome, after) ∧
        (DeckSearch.ofType (.text "any")).effect soloist (blankTable [blank, nameless]) .fresh =
          (.ok otherOutcome, after) ∧
        outcome.pick? = some pick ∧ otherOutcome.pick? = some otherPick ∧
        labels (pick.source.candidates (blankTable [nameless, blank])) = .ok [none, some ""] ∧
        labels (otherPick.source.candidates (blankTable [blank, nameless])) =
          .ok [some "", none] := by
  refine ⟨⟨0, _, [blank, nameless].map some, rfl, rfl, by decide, rfl⟩, _, _, _, _, _, rfl, rfl,
    rfl, rfl, ?_, ?_⟩
  · exact labels_blankTable _ [some nameless, some blank] (by decide)
  · exact labels_blankTable _ [some blank, some nameless] (by decide)

end CreatureCards
