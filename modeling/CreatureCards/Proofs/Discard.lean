import CreatureCards.Proofs.BrokenAnswer
import CreatureCards.Proofs.DeadEnd
import CreatureCards.Proofs.Leaves

/-!
# Discards that are asked for

Four effects have a player discard: from the own hand, from the own hand without the card
that is being played, from the hand of the rival, and after a draw.  Each of them takes
the number of cards to discard and puts it into the title of its question, but a walk
through what it comes to names a single card, or none if there is none to discard.
-/

namespace CreatureCards

open Engine

/-- The effects that have a player pick what to discard. -/
inductive Discarding where
  | own
  | besidePlayed
  | byRival
  | afterDraw (drawCount : Value)

namespace Discarding

def effect (count : Value) : Discarding → Effect
  | own => Effect.selectCardToDiscard count
  | besidePlayed => Effect.selectAndDiscard count
  | byRival => Effect.forceOpponentDiscard count
  | afterDraw drawCount => Effect.drawThenDiscard drawCount count

/-- Who discards, and under which index. -/
def discarder (context : Context) (board : Board) : Discarding → Option Int × Option Player
  | byRival => Effect.discardRival board context
  | _ => (context.playerIndex, context.actor board)

/-- Where the cards that may be discarded stand. -/
def pool (context : Context) (board : Board) (discarding : Discarding) : Places :=
  let hand := (discarding.discarder context board).2.elim [] Player.hand
  match discarding with
  | besidePlayed => hand.filter (· != context.playedCard)
  | _ => hand

def index (context : Context) (board : Board) (discarding : Discarding) : Option Int :=
  (discarding.discarder context board).1

/-- The index of who discards does not depend on the board. -/
theorem index_eq (context : Context) (board other : Board) (discarding : Discarding) :
    discarding.index context board = discarding.index context other := by
  cases discarding with
  | byRival =>
      unfold index discarder Effect.discardRival
      dsimp only
      split <;> rfl
  | _ => rfl

end Discarding

/-- Whatever card is picked, and wherever, the player with this index discards it. -/
def DiscardsPicked (index : Option Int) (answer : Choice → Engine Outcome) : Prop :=
  ∀ card board session, ∃ after,
    answer (.card card) board session = (.ok (Effect.discardOne index card), after)

/-- What an effect comes to that has a player discard one of some cards: nothing, the only
card, or a pick. -/
inductive DiscardOf (index : Option Int) : List CardId → Outcome → Prop
  | none : DiscardOf index [] .nothing
  | only (card : CardId) : DiscardOf index [card] (Effect.discardOne index card)
  | pick {cards : List CardId} {style : PickStyle} {title : String} {candidates : List Candidate}
      {answer : Choice → Engine Outcome} (several : 1 < cards.length)
      (offers : candidates.map Candidate.value = cards.map .card)
      (discards : DiscardsPicked index answer) :
      DiscardOf index cards (.asking (style.pick title (.listed candidates)) answer)

theorem discardsPicked_return (index : Option Int) :
    DiscardsPicked index (onCard fun card => return Effect.discardOne index card) :=
  fun _ _ session => ⟨session, rfl⟩

theorem discardsPicked_told (who : String) (index : Option Int) :
    DiscardsPicked index (onCard (Effect.discardTold who index)) :=
  fun _ _ _ => ⟨_, rfl⟩

theorem upshot_pickDiscard {board : Board} {index : Option Int} {style : PickStyle}
    {title : String} {viewer : Option Context} {shown : Bool} {cards : List CardId}
    {answer : Choice → Engine Outcome} (discards : DiscardsPicked index answer) :
    Upshot board False (DiscardOf index cards)
      (pickOne style title (board.cardCandidates viewer shown cards) answer) := by
  have offers := values_cardCandidates board viewer shown cards
  refine .pickOne (fun empty => ?_) (fun only isOnly => ?_) fun several => ?_
  · obtain rfl : cards = [] := List.map_eq_nil_iff.1 empty
    exact .none
  · obtain ⟨card, rfl, rfl⟩ := List.map_eq_singleton_iff.1 isOnly
    intro session
    obtain ⟨after, ran⟩ := discards card board session
    dsimp only
    rw [ran]
    exact .only card
  · rw [Board.cardCandidates, List.length_map] at several
    exact .pick several offers discards

/-- Where there is nothing to discard, that is told; otherwise one of the cards is picked. -/
theorem upshot_discardFrom {board : Board} {index : Option Int} {message title : String}
    {style : PickStyle} {viewer : Option Context} {shown : Bool} {places : Places}
    {answer : Choice → Engine Outcome} (filled : none ∉ places)
    (discards : DiscardsPicked index answer) :
    Upshot board False (DiscardOf index places.cards)
      (if places.isEmpty then do
        announce message
        return .nothing
      else do
        let candidates ← orFail (board.placeCandidates viewer shown places)
        pickOne style title candidates answer) := by
  refine .branch (fun empty => ?_) fun _ => ?_
  · rw [List.isEmpty_iff.1 empty]
    exact .telling (.pure .none)
  · rw [placeCandidates_eq _ _ _ filled]
    exact upshot_pickDiscard discards

namespace Discarding

/-- The discarding player is there, and holds cards only; an effect that waits for a draw
finds out who is there when its pick is shown. -/
def Ready (context : Context) (board : Board) : Discarding → Prop
  | byRival => none ∉ byRival.pool context board
  | afterDraw _ => True
  | discarding => context.actor board ≠ none ∧ none ∉ discarding.pool context board

variable {context : Context} {board : Board}

theorem upshot_own (count : Value) (ready : own.Ready context board) :
    Upshot board False (DiscardOf (own.index context board) (own.pool context board).cards)
      (Effect.selectCardToDiscard count context) := by
  obtain ⟨present, filled⟩ := ready
  refine .reading (.requiring present fun player acts => ?_)
  have pool : own.pool context board = player.hand := by
    simp only [Discarding.pool, discarder, acts, Option.elim]
  rw [pool] at filled ⊢
  exact upshot_discardFrom filled (discardsPicked_return _)

theorem upshot_besidePlayed (count : Value) (ready : besidePlayed.Ready context board) :
    Upshot board False
      (DiscardOf (besidePlayed.index context board) (besidePlayed.pool context board).cards)
      (Effect.selectAndDiscard count context) := by
  obtain ⟨present, filled⟩ := ready
  refine .reading (.requiring present fun player acts => ?_)
  have pool : besidePlayed.pool context board =
      player.hand.filter (· != context.playedCard) := by
    simp only [Discarding.pool, discarder, acts, Option.elim]
  rw [pool] at filled ⊢
  exact upshot_discardFrom filled (discardsPicked_told _ _)

theorem upshot_byRival (count : Value) (ready : byRival.Ready context board) :
    Upshot board False (DiscardOf (byRival.index context board) (byRival.pool context board).cards)
      (Effect.forceOpponentDiscard count context) := by
  have filled : none ∉ byRival.pool context board := ready
  exact .reading (upshot_discardFrom filled (discardsPicked_told _ _))

end Discarding

namespace Walk

/-- Every answer is one of the candidates that the walk has on the board of the moment. -/
def Fair (walk : Walk) : List Moment → Prop
  | [] => True
  | moment :: moments =>
    (∃ candidates, walk.candidates moment.board = .ok candidates ∧
      moment.choice ∈ candidates.map Candidate.value) ∧
    (walk.answered moment).1.2.Fair moments

theorem eq_nil_of_fair {walk : Walk} {moments : List Moment} (done : walk.isDone = true)
    (fair : walk.Fair moments) : moments = [] := by
  cases moments with
  | nil => rfl
  | cons moment moments =>
      obtain ⟨⟨candidates, made, member⟩, -⟩ := fair
      have unasked : walk.current = none := by simpa [isDone] using done
      unfold Walk.candidates at made
      rw [unasked] at made
      cases made
      cases member

theorem settle_of_nothing {walk : Walk} (empty : walk.queue = []) : walk.settle = (walk, none) := by
  rw [settle]
  split
  · rfl
  · split
    · rfl
    · simp_all

/-- A result that leaves nothing to wait for is taken in one step. -/
theorem take_of_nothing_left {walk next : Walk} {outcome : Outcome}
    (absorbed : walk.absorb outcome = (next, none)) (empty : next.queue = []) :
    walk.take outcome = (next, none) := by
  rw [take, absorbed]
  exact settle_of_nothing empty

/-- A discard is applied at once. -/
theorem take_discardOne {walk : Walk} (empty : walk.queue = []) (index : Option Int)
    (card : CardId) :
    walk.take (Effect.discardOne index card).orNothing =
      ({ walk with applied := walk.applied ++ [Effect.discardOne index card] }, none) := by
  have absorbed : walk.absorb (Effect.discardOne index card).orNothing =
      ({ walk with
        applied := walk.applied ++ [Effect.discardOne index card]
        queue := [] ++ walk.queue }, none) := rfl
  rw [List.nil_append] at absorbed
  exact take_of_nothing_left absorbed empty

/-- The walk waits for a pick of what to discard, and for nothing else. -/
structure AsksDiscard (walk : Walk) (index : Option Int) (source : CandidateSource) : Prop where
  queue : walk.queue = []
  asked : ∃ pick answer, walk.current = some ⟨.pick pick, answer⟩ ∧ pick.source = source ∧
    DiscardsPicked index answer

variable {walk : Walk} {index : Option Int} {source : CandidateSource}

theorem AsksDiscard.not_isDone (asks : walk.AsksDiscard index source) : walk.isDone = false := by
  obtain ⟨pick, answer, asked, -, -⟩ := asks.asked
  rw [isDone, asked]
  rfl

theorem AsksDiscard.answered (asks : walk.AsksDiscard index source) {moment : Moment}
    {card : CardId} (picked : moment.choice = .card card) :
    (walk.answered moment).1.2 =
      { applied := walk.applied ++ [Effect.discardOne index card] } := by
  obtain ⟨pick, answer, asked, -, discards⟩ := asks.asked
  obtain ⟨after, ran⟩ := discards card moment.board moment.session
  have taken := @take_discardOne { walk with current := none } asks.queue index card
  rw [← picked] at ran
  rw [answered_of_taken asked ran taken]
  simp only [asks.queue]

/-- A fair walk that waits for a discard is over after one answer: the pick of a card that
was offered, which is applied as a discard. -/
theorem AsksDiscard.after_of_fair (asks : walk.AsksDiscard index source)
    (areCards : ∀ board offered, source.candidates board = .ok offered →
      ∀ candidate ∈ offered, ∃ card, candidate.value = .card card)
    {moments : List Moment} (fair : walk.Fair moments) :
    moments = [] ∨ ∃ moment card offered, moments = [moment] ∧
      source.candidates moment.board = .ok offered ∧ .card card ∈ offered.map Candidate.value ∧
      walk.after moments = { applied := walk.applied ++ [Effect.discardOne index card] } := by
  cases moments with
  | nil => exact .inl rfl
  | cons moment moments =>
      obtain ⟨⟨offered, made, member⟩, fairRest⟩ := fair
      obtain ⟨pick, answer, asked, isSource, -⟩ := asks.asked
      have fromSource : source.candidates moment.board = .ok offered := by
        rw [← made, Walk.candidates, asked, ← isSource]
      obtain ⟨candidate, isOffered, isChoice⟩ := List.mem_map.1 member
      obtain ⟨card, isCard⟩ := areCards _ _ fromSource candidate isOffered
      have picked : moment.choice = .card card := isChoice.symm.trans isCard
      have next := asks.answered picked
      rw [next] at fairRest
      obtain rfl : moments = [] := eq_nil_of_fair rfl fairRest
      refine .inr ⟨moment, card, offered, rfl, fromSource, picked ▸ member, ?_⟩
      exact next

end Walk

/-- The discards among what was applied name this number of different cards, all of them
eligible, and have the player with this index discard them. -/
def NamesDiscards (index : Option Int) (eligible : List CardId) (number : Nat)
    (applied : List Outcome) : Prop :=
  ∃ groups : List (List CardId),
    (applied.map Outcome.leaves).sum.filter (fun leaf => leaf.1 = "discard_cards") =
      Multiset.ofList (groups.map fun cards =>
        ("discard_cards", Effect.discardPayload index cards)) ∧
    groups.flatten.Nodup ∧ groups.flatten.length = number ∧ groups.flatten ⊆ eligible

namespace NamesDiscards

variable {index : Option Int} {eligible : List CardId}

theorem of_nothing : NamesDiscards index [] 0 [] :=
  ⟨[], rfl, List.nodup_nil, rfl, List.Subset.refl _⟩

/-- One discard after what names none. -/
theorem of_discardOne {ahead : List Outcome} {card : CardId}
    (quiet : (ahead.map Outcome.leaves).sum.filter (fun leaf => leaf.1 = "discard_cards") = 0)
    (member : card ∈ eligible) :
    NamesDiscards index eligible (min 1 eligible.length)
      (ahead ++ [Effect.discardOne index card]) := by
  refine ⟨[[card]], ?_, List.nodup_singleton card, ?_, by simpa using member⟩
  · rw [List.map_append, List.sum_append, Multiset.filter_add, quiet, zero_add]
    rfl
  · have positive := List.length_pos_of_mem member
    simp only [List.flatten_cons, List.flatten_nil, List.append_nil, List.length_singleton]
    omega

/-- The number of cards that a discard names. -/
def size (leaf : String × Outcome) : Nat :=
  match leaf.2 with
  | .record fields =>
    match fields.lookup "cards" with
    | some (.list cards) => cards.length
    | _ => 0
  | _ => 0

/-- How many cards are named can be told from what was applied. -/
theorem number_eq {number : Nat} {applied : List Outcome}
    (names : NamesDiscards index eligible number applied) :
    number = (((applied.map Outcome.leaves).sum.filter
      fun leaf => leaf.1 = "discard_cards").map size).sum := by
  obtain ⟨groups, isNamed, -, length, -⟩ := names
  rw [isNamed, Multiset.map_coe, Multiset.sum_coe, List.map_map, ← length, List.length_flatten]
  refine congrArg List.sum (List.map_congr_left fun cards _ => ?_)
  change cards.length = (cards.map Outcome.card).length
  rw [List.length_map]

end NamesDiscards

/-- After a fair walk that waited for a discard, one of the eligible cards is named. -/
theorem Walk.AsksDiscard.names {walk : Walk} {index : Option Int} {source : CandidateSource}
    (asks : walk.AsksDiscard index source) (eligible : Board → List CardId)
    (quiet : (walk.applied.map Outcome.leaves).sum.filter
      (fun leaf => leaf.1 = "discard_cards") = 0)
    (offers : ∀ board offered, source.candidates board = .ok offered →
      ∀ candidate ∈ offered, ∃ card ∈ eligible board, candidate.value = .card card)
    {moments : List Moment} (fair : walk.Fair moments) :
    ((walk.after moments).isDone = true ↔ moments ≠ []) ∧
      ∀ moment ∈ moments, NamesDiscards index (eligible moment.board)
        (min 1 (eligible moment.board).length) (walk.after moments).applied := by
  have areCards : ∀ board offered, source.candidates board = .ok offered →
      ∀ candidate ∈ offered, ∃ card, candidate.value = .card card := by
    intro board offered made candidate member
    obtain ⟨card, -, isCard⟩ := offers board offered made candidate member
    exact ⟨card, isCard⟩
  rcases asks.after_of_fair areCards fair
    with rfl | ⟨moment, card, offered, rfl, made, member, ends⟩
  · exact ⟨by simp [Walk.after, asks.not_isDone], by simp⟩
  · obtain ⟨candidate, isOffered, isChoice⟩ := List.mem_map.1 member
    obtain ⟨found, isEligible, isFound⟩ := offers _ _ made candidate isOffered
    obtain rfl : found = card := Choice.card.inj (isFound.symm.trans isChoice)
    rw [ends]
    refine ⟨by simp [Walk.isDone], List.forall_mem_singleton.2 ?_⟩
    exact .of_discardOne quiet isEligible

/-- The indices of the context are those under which the board knows its two players. -/
structure Context.Seated (context : Context) (board : Board) : Prop where
  actor : ∀ player, context.actor board = some player →
    ∃ seat, context.playerIndex = some seat ∧ board.player? seat = some player
  rival : ∀ player, context.rival board = some player →
    ∃ seat, context.opponentIndex = some seat ∧ board.player? seat = some player

namespace Discarding

variable {context : Context} {board : Board}

/-- The cards that may be discarded are in the hand of the player under whose index they are
discarded. -/
theorem mem_hand_of_mem_pool {discarding : Discarding} (seated : context.Seated board)
    {card : CardId} (member : card ∈ (discarding.pool context board).cards) :
    ∃ seat player, discarding.index context board = some seat ∧
      board.player? seat = some player ∧ some card ∈ player.hand := by
  have inHand : some card ∈ (discarding.discarder context board).2.elim [] Player.hand := by
    have inPool := Places.mem_cards.1 member
    cases discarding with
    | besidePlayed => exact (List.mem_filter.1 inPool).1
    | _ => exact inPool
  rcases isPlayer : (discarding.discarder context board).2 with - | player
  · rw [isPlayer] at inHand
    cases inHand
  · rw [isPlayer] at inHand
    have known : ∃ seat, discarding.index context board = some seat ∧
        board.player? seat = some player := by
      cases discarding with
      | byRival =>
          unfold index
          unfold discarder Effect.discardRival at isPlayer ⊢
          dsimp only at isPlayer ⊢
          split at isPlayer
          · rename_i defender _
            refine ⟨_, rfl, ?_⟩
            split at isPlayer
            · exact isPlayer
            · cases isPlayer
          · exact seated.rival player isPlayer
      | _ => exact seated.actor player isPlayer
    obtain ⟨seat, isSeat, isKnown⟩ := known
    exact ⟨seat, player, isSeat, isKnown, inHand⟩

/-- The board whose hand is discarded from: a discard after a draw shows the hand of the
moment in which it is answered. -/
def shownOn (board : Board) (moments : List Moment) : Discarding → Board
  | afterDraw _ => (moments.head?.map Moment.board).getD board
  | _ => board

/-- The effect leads to a walk, and every fair walk to its end names a card, unless none is
eligible. -/
def NamesOne (context : Context) (board : Board) (discarding : Discarding) (outcome : Outcome) :
    Prop :=
  ∃ walk, Walk.start outcome = .ok walk ∧ ∀ moments, walk.Fair moments →
    ((walk.after moments).isDone = true ↔ walk.isDone = true ∨ moments ≠ []) ∧
    ((walk.after moments).isDone = true →
      NamesDiscards (discarding.index context board)
        (discarding.pool context (discarding.shownOn board moments)).cards
        (min 1 (discarding.pool context (discarding.shownOn board moments)).cards.length)
        (walk.after moments).applied)

theorem namesOne_of_discardOf {discarding : Discarding}
    (fixed : ∀ moments, discarding.shownOn board moments = board) {outcome : Outcome}
    (discards : DiscardOf (discarding.index context board)
      (discarding.pool context board).cards outcome) :
    discarding.NamesOne context board outcome := by
  unfold NamesOne
  simp only [fixed]
  generalize (discarding.pool context board).cards = cards at discards ⊢
  generalize discarding.index context board = index at discards ⊢
  cases discards with
  | none =>
      refine ⟨{}, ?_, fun moments fair => ?_⟩
      · have absorbed : ({} : Walk).absorb Outcome.nothing.orNothing = ({}, none) := rfl
        rw [Walk.start, Walk.take, absorbed]
        dsimp only
        rw [Walk.settle_of_nothing rfl]
      · obtain rfl := Walk.eq_nil_of_fair rfl fair
        exact ⟨by simp [Walk.after, Walk.isDone], fun _ => .of_nothing⟩
  | only card =>
      refine ⟨{ applied := [Effect.discardOne index card] }, ?_, fun moments fair => ?_⟩
      · rw [Walk.start, Walk.take_discardOne rfl]
        rfl
      · obtain rfl := Walk.eq_nil_of_fair rfl fair
        have names : NamesDiscards index [card] (min 1 [card].length)
            ([] ++ [Effect.discardOne index card]) := .of_discardOne rfl List.mem_cons_self
        exact ⟨by simp [Walk.after, Walk.isDone], fun _ => names⟩
  | @pick _ style title candidates answer several offers discards =>
      have started : ∃ walk, Walk.start (.asking (style.pick title (.listed candidates)) answer) =
          .ok walk ∧ walk.AsksDiscard index (.listed candidates) ∧ walk.applied = [] :=
        ⟨_, Walk.start_of_question rfl rfl rfl rfl, ⟨rfl, _, _, rfl, rfl, discards⟩, rfl⟩
      obtain ⟨walk, started, asks, unapplied⟩ := started
      refine ⟨walk, started, fun moments fair => ?_⟩
      have listed : ∀ shown offered, (CandidateSource.listed candidates).candidates shown =
          .ok offered → ∀ candidate ∈ offered, ∃ card ∈ cards, candidate.value = .card card := by
        intro shown offered made candidate member
        obtain rfl : candidates = offered := Except.ok.inj made
        have isValue := List.mem_map_of_mem (f := Candidate.value) member
        rw [offers] at isValue
        obtain ⟨card, isCard, same⟩ := List.mem_map.1 isValue
        exact ⟨card, isCard, same.symm⟩
      obtain ⟨ends, names⟩ := asks.names (fun _ => cards)
        (by rw [unapplied]; rfl) listed fair
      refine ⟨ends.trans (by simp [asks.not_isDone]), fun done => ?_⟩
      obtain ⟨moment, rest, rfl⟩ := List.exists_cons_of_ne_nil (ends.1 done)
      exact names moment List.mem_cons_self

/-- What a pick of a discard offers when it is shown is in the hand of that moment. -/
theorem exists_mem_pool_of_shown {drawCount : Value} {shown : Board} {offered : List Candidate}
    (made : (LatePick.discard context drawCount).candidates shown = .ok offered) :
    ∀ candidate ∈ offered, ∃ card ∈ ((afterDraw drawCount).pool context shown).cards,
      candidate.value = .card card := by
  dsimp only [LatePick.discard] at made
  rcases acts : context.actor shown with - | player
  · rw [acts] at made
    cases made
  · rw [acts] at made
    have filled : none ∉ player.hand := by
      rcases full : player.hand.full with failure | cards
      · dsimp only [Board.placeCandidates] at made
        rw [full] at made
        cases made
      · exact Places.filled_of_full full
    dsimp only at made
    rw [placeCandidates_eq _ _ _ filled] at made
    obtain rfl : _ = offered := Except.ok.inj made
    intro candidate member
    obtain ⟨card, isCard, rfl⟩ := List.mem_map.1 member
    have pool : (afterDraw drawCount).pool context shown = player.hand := by
      simp only [Discarding.pool, discarder, acts, Option.elim]
    exact ⟨card, pool ▸ isCard, rfl⟩

theorem namesOne_afterDraw (drawCount : Value) (title : String) :
    (afterDraw drawCount).NamesOne context board
      ((LatePick.discard context drawCount).outcome title) := by
  have started : ∃ walk, Walk.start ((LatePick.discard context drawCount).outcome title) =
      .ok walk ∧ walk.AsksDiscard context.playerIndex
        (.produced (LatePick.discard context drawCount).candidates) ∧
      walk.applied = [.record [("draw", .value drawCount)]] :=
    ⟨_, Walk.start_of_question rfl rfl rfl rfl,
      ⟨rfl, _, _, rfl, rfl, discardsPicked_return _⟩, rfl⟩
  obtain ⟨walk, started, asks, drawn⟩ := started
  refine ⟨walk, started, fun moments fair => ?_⟩
  obtain ⟨ends, names⟩ := asks.names
    (fun shown => ((afterDraw drawCount).pool context shown).cards)
    (by rw [drawn]; rfl) (fun _ _ => exists_mem_pool_of_shown) fair
  refine ⟨ends.trans (by simp [asks.not_isDone]), fun done => ?_⟩
  obtain ⟨moment, rest, rfl⟩ := List.exists_cons_of_ne_nil (ends.1 done)
  exact names moment List.mem_cons_self

theorem upshot_effect (discarding : Discarding) (count : Value)
    (ready : discarding.Ready context board) :
    Upshot board False (discarding.NamesOne context board) (discarding.effect count context) := by
  cases discarding with
  | own => exact (upshot_own count ready).weaken fun _ => namesOne_of_discardOf fun _ => rfl
  | besidePlayed =>
      exact (upshot_besidePlayed count ready).weaken fun _ => namesOne_of_discardOf fun _ => rfl
  | byRival => exact (upshot_byRival count ready).weaken fun _ => namesOne_of_discardOf fun _ => rfl
  | afterDraw drawCount => exact .telling (.pure (namesOne_afterDraw drawCount _))

/-- An effect that has a player discard succeeds and leads to a walk in which every fair
answer is the last one.  Whatever number of cards it was to have discarded, the discards
that the walk has applied in the end name one card, or none if none is eligible; so they
name as many as were asked for, or as there are, exactly if that is one card or there are
no more than one.  The cards are those of the hand of the player who is said to discard
them. -/
theorem discards_name_one_card (discarding : Discarding) (count : Value) (context : Context)
    (board : Board) (session : Session) (ready : discarding.Ready context board) :
    ∃ outcome later walk, discarding.effect count context board session = (.ok outcome, later) ∧
      Walk.start outcome = .ok walk ∧ ∀ moments, walk.Fair moments →
        let shown := discarding.shownOn board moments
        let eligible := (discarding.pool context shown).cards
        let index := discarding.index context board
        let applied := (walk.after moments).applied
        ((walk.after moments).isDone = true ↔ walk.isDone = true ∨ moments ≠ []) ∧
        ((walk.after moments).isDone = true →
          NamesDiscards index eligible (min 1 eligible.length) applied ∧
          ∀ number : Nat, count = .int number → 1 ≤ number →
            (NamesDiscards index eligible (min number eligible.length) applied ↔
              number = 1 ∨ eligible.length ≤ 1)) ∧
        (context.Seated shown → ∀ card ∈ eligible, ∃ seat player, index = some seat ∧
          shown.player? seat = some player ∧ some card ∈ player.hand) := by
  obtain ⟨outcome, later, ran, walk, started, names⟩ :=
    (upshot_effect discarding count ready).exists_ok id session
  refine ⟨outcome, later, walk, ran, started, fun moments fair => ?_⟩
  obtain ⟨ends, namesOne⟩ := names moments fair
  intro shown eligible index applied
  refine ⟨ends, fun done =>
    ⟨namesOne done, fun number _ positive => ⟨fun named => ?_, fun few => ?_⟩⟩,
    fun seated card member => ?_⟩
  · have same : min number eligible.length = min 1 eligible.length :=
      named.number_eq.trans (namesOne done).number_eq.symm
    omega
  · have same : min number eligible.length = min 1 eligible.length := by omega
    rw [same]
    exact namesOne done
  · have isIndex : index = discarding.index context shown := discarding.index_eq context board shown
    rw [isIndex]
    exact mem_hand_of_mem_pool seated member

def pickingFrom (hand : List CardId) (card : CardId) : Moment where
  choice := .card card
  board := spellTable hand []
  session := .fresh

/-- The card that is being played is not among those that may be discarded; one of the two
others is. -/
theorem discarding_beside_the_played :
    let context := { soloist with playedCard := some rain }
    ∃ outcome later walk,
      besidePlayed.effect (.int 1) context (spellTable [rain, snow, hail] []) .fresh =
        (.ok outcome, later) ∧
      Walk.start outcome = .ok walk ∧
      walk.Fair [pickingFrom [rain, snow, hail] hail] ∧
      NamesDiscards (some 0) [snow, hail] 1
        (walk.after [pickingFrom [rain, snow, hail] hail]).applied := by
  intro context
  obtain ⟨outcome, later, walk, ran, started, ends⟩ := discards_name_one_card besidePlayed (.int 1)
    context (spellTable [rain, snow, hail] []) .fresh
    ⟨by simp [context, soloist, Context.actor, spellTable], by decide⟩
  have asked : ∃ asking, Walk.start outcome = .ok asking ∧
      asking.Fair [pickingFrom [rain, snow, hail] hail] := by
    cases ran
    exact ⟨_, Walk.start_of_question rfl rfl rfl rfl, ⟨_, rfl, by decide⟩, trivial⟩
  obtain ⟨asking, isAsking, fair⟩ := asked
  obtain rfl : asking = walk := Except.ok.inj (isAsking.symm.trans started)
  obtain ⟨isDone, names, -⟩ := ends _ fair
  have done := isDone.2 (.inr (List.cons_ne_nil _ _))
  exact ⟨outcome, later, asking, ran, started, fair, (names done).1⟩

/-- A player who holds two cards and is to discard two of them discards one. -/
theorem discarding_two_of_two :
    ∃ outcome later walk,
      own.effect (.int 2) soloist (spellTable [rain, snow] []) .fresh = (.ok outcome, later) ∧
      Walk.start outcome = .ok walk ∧
      walk.Fair [pickingFrom [rain, snow] rain] ∧
      (walk.after [pickingFrom [rain, snow] rain]).isDone = true ∧
      (own.pool soloist (spellTable [rain, snow] [])).cards = [rain, snow] ∧
      ¬ NamesDiscards (some 0) [rain, snow] 2
        (walk.after [pickingFrom [rain, snow] rain]).applied := by
  have asked : ∃ outcome later walk,
      own.effect (.int 2) soloist (spellTable [rain, snow] []) .fresh = (.ok outcome, later) ∧
      Walk.start outcome = .ok walk ∧ walk.Fair [pickingFrom [rain, snow] rain] ∧
      (∃ source, walk.AsksDiscard (some 0) source) ∧ walk.applied = [] :=
    ⟨_, _, _, rfl, Walk.start_of_question rfl rfl rfl rfl, ⟨⟨_, rfl, by decide⟩, trivial⟩,
      ⟨_, rfl, _, _, rfl, rfl, discardsPicked_return _⟩, rfl⟩
  obtain ⟨outcome, later, walk, ran, started, fair, ⟨source, asks⟩, unapplied⟩ := asked
  have next : walk.after [pickingFrom [rain, snow] rain] =
      { applied := walk.applied ++ [Effect.discardOne (some 0) rain] } :=
    asks.answered (show (pickingFrom [rain, snow] rain).choice = .card rain from rfl)
  refine ⟨outcome, later, walk, ran, started, fair, by rw [next]; rfl, rfl, fun names => ?_⟩
  rw [next, unapplied] at names
  have one : NamesDiscards (some 0) [rain, snow] 1 ([] ++ [Effect.discardOne (some 0) rain]) :=
    .of_discardOne rfl List.mem_cons_self
  exact absurd (names.number_eq.trans one.number_eq.symm) (by decide)

end Discarding

end CreatureCards
