import CreatureCards.Proofs.Discard

/-!
# Spells that are played one after the other

One effect has the acting player pick spells from hand until a number of them was picked or
none is left.  A picked spell may leave the hand before the next answer or stay in it: no
pick offers it again.  So a walk through what the effect comes to plays different spells,
as many as were asked for or as there are, except that it plays one where none or fewer
were asked for.
-/

namespace CreatureCards

open Engine

namespace Context

/-- The spells in the acting player's hand. -/
def spells (context : Context) (board : Board) : List CardId :=
  (context.actor board).elim [] fun player =>
    player.hand.cards.filter fun id => (board.card id).isSpell

theorem handSpells_eq_spells {context : Context} {board : Board}
    (acts : context.actor board ≠ none) (chosen : List CardId) :
    Effect.handSpells context chosen board =
      .ok ((context.spells board).filter fun id => !chosen.contains id) := by
  obtain ⟨player, isPlayer⟩ := Option.ne_none_iff_exists'.1 acts
  have found : Effect.handSpells context [] board = .ok (context.spells board) := by
    rw [handSpells_nil_eq isPlayer, spells, isPlayer]
    rfl
  exact LateEffect.handSpells_eq_filter chosen found

end Context

/-- What was picked from a pool: different cards of it. -/
structure PickedFrom (pool picked : List CardId) : Prop where
  nodup : picked.Nodup
  subset : picked ⊆ pool

namespace PickedFrom

variable {pool picked : List CardId}

theorem nil : PickedFrom pool [] :=
  ⟨List.nodup_nil, List.nil_subset pool⟩

theorem append_singleton (pickedFrom : PickedFrom pool picked) {card : CardId}
    (member : card ∈ pool) (fresh : card ∉ picked) : PickedFrom pool (picked ++ [card]) where
  nodup := by
    refine List.nodup_append.2 ⟨pickedFrom.nodup, List.nodup_singleton card, ?_⟩
    rintro other isPicked _ isCard rfl
    exact fresh (List.mem_singleton.1 isCard ▸ isPicked)
  subset := by
    have single : [card] ⊆ pool := List.cons_subset.2 ⟨member, List.nil_subset pool⟩
    exact List.append_subset.2 ⟨pickedFrom.subset, single⟩

theorem toFinset_subset (pickedFrom : PickedFrom pool picked) : picked.toFinset ⊆ pool.toFinset :=
  fun _ member => List.mem_toFinset.2 (pickedFrom.subset (List.mem_toFinset.1 member))

theorem length_le (pickedFrom : PickedFrom pool picked) : picked.length ≤ pool.toFinset.card := by
  rw [← List.toFinset_card_of_nodup pickedFrom.nodup]
  exact Finset.card_le_card pickedFrom.toFinset_subset

/-- As long as not everything was picked, something is left. -/
theorem length_lt_iff (pickedFrom : PickedFrom pool picked) :
    picked.length < pool.toFinset.card ↔ ∃ card ∈ pool, card ∉ picked := by
  rw [← List.toFinset_card_of_nodup pickedFrom.nodup]
  constructor
  · intro fewer
    obtain ⟨card, member, fresh⟩ := Finset.exists_mem_notMem_of_card_lt_card fewer
    exact ⟨card, List.mem_toFinset.1 member, mt List.mem_toFinset.2 fresh⟩
  · rintro ⟨card, member, fresh⟩
    refine Finset.card_lt_card (Finset.ssubset_iff_subset_ne.2
      ⟨pickedFrom.toFinset_subset, fun same => ?_⟩)
    exact fresh (List.mem_toFinset.1 (same ▸ List.mem_toFinset.2 member))

end PickedFrom

/-- On the later board the acting player holds the same spells, except that chosen ones may
have left the hand. -/
structure Board.SpellsKept (context : Context) (board : Board) (chosen : List CardId)
    (later : Board) : Prop where
  acts : context.actor later ≠ none
  mem_iff : ∀ id, id ∉ chosen → (id ∈ context.spells later ↔ id ∈ context.spells board)

/-- Any of the chosen spells may have left the hand. -/
theorem Board.spellsKept_of_left {context : Context} {board later : Board} {player holder : Player}
    {chosen left : List CardId} (acts : context.actor board = some player)
    (actsLater : context.actor later = some holder) (sameCards : later.card = board.card)
    (hand : holder.hand = player.hand.filter fun place => !(left.map some).contains place)
    (isChosen : left ⊆ chosen) : board.SpellsKept context chosen later where
  acts := by rw [actsLater]; exact Option.some_ne_none holder
  mem_iff id fresh := by
    have stays : id ∉ left := fun isLeft => fresh (isChosen isLeft)
    simp [Context.spells, acts, actsLater, Places.mem_cards, sameCards, hand, stays]

/-- Wherever the pick is shown, it offers the spells that were not chosen. -/
def Pick.OffersRest (context : Context) (board : Board) (chosen : List CardId) (pick : Pick) :
    Prop :=
  ∀ later, board.SpellsKept context chosen later →
    ∃ offered, pick.source.candidates later = .ok offered ∧
      ∀ choice, choice ∈ offered.map Candidate.value ↔
        ∃ id ∈ context.spells board, id ∉ chosen ∧ choice = .card id

section Rest

variable {context : Context} {board later : Board} {chosen : List CardId}

theorem Board.SpellsKept.append (kept : board.SpellsKept context chosen later)
    (more : List CardId) : board.SpellsKept context (chosen ++ more) later where
  acts := kept.acts
  mem_iff id fresh := kept.mem_iff id fun isChosen => fresh (List.mem_append_left more isChosen)

theorem mem_rest_iff (kept : board.SpellsKept context chosen later) (id : CardId) :
    id ∈ ((context.spells later).filter fun id => !chosen.contains id) ↔
      id ∈ context.spells board ∧ id ∉ chosen := by
  rw [List.mem_filter]
  by_cases isChosen : id ∈ chosen
  · simp [isChosen]
  · simp [isChosen, kept.mem_iff id isChosen]

theorem offersRest_produced (style : PickStyle) (title : String) :
    (style.pick title (.produced (Effect.spellCandidates context chosen))).OffersRest context board
      chosen := by
  intro later kept
  refine ⟨later.cardCandidates none true
    ((context.spells later).filter fun id => !chosen.contains id), ?_, fun choice => ?_⟩
  · dsimp only [PickStyle.pick, CandidateSource.candidates]
    rw [Effect.spellCandidates, Context.handSpells_eq_spells kept.acts]
    rfl
  · rw [values_cardCandidates, List.mem_map]
    constructor
    · rintro ⟨id, member, rfl⟩
      obtain ⟨isSpell, fresh⟩ := (mem_rest_iff kept id).1 member
      exact ⟨id, isSpell, fresh, rfl⟩
    · rintro ⟨id, isSpell, fresh, rfl⟩
      exact ⟨id, (mem_rest_iff kept id).2 ⟨isSpell, fresh⟩, rfl⟩

theorem offersRest_listed (style : PickStyle) (title : String) :
    (style.pick title (.listed (board.cardCandidates none true (context.spells board)))).OffersRest
      context board [] := by
  intro later _
  refine ⟨_, rfl, fun choice => ?_⟩
  rw [values_cardCandidates, List.mem_map]
  simp only [List.not_mem_nil, not_false_eq_true, true_and, eq_comm]

end Rest

/-- What the pick of a spell comes to after others were chosen, where `limit` spells are to be
played: the spell is played, and a further one is asked for unless that was the last. -/
inductive PlayOf (context : Context) (board : Board) (limit : Nat) (chosen : List CardId)
    (spell : CardId) : Outcome → Prop
  | last (reached : (chosen ++ [spell]).length = min limit (context.spells board).toFinset.card) :
      PlayOf context board limit chosen spell (Effect.playedFromHand context spell)
  | more {several : Bool} {left step : Nat} {title : String}
      (budget : (chosen ++ [spell]).length + left + 1 = limit)
      (fewer : (chosen ++ [spell]).length < (context.spells board).toFinset.card) :
      PlayOf context board limit chosen spell
        ((LatePick.furtherSpell context several left (step + 1) chosen spell).outcome title)

section Play

variable {context : Context} {board : Board} {limit : Nat} {chosen : List CardId}

theorem upshot_playOf {later : Board} {spell : CardId}
    (kept : board.SpellsKept context (chosen ++ [spell]) later)
    (picked : PickedFrom (context.spells board) (chosen ++ [spell])) (several : Bool)
    {left : Nat} (step : Nat) (budget : chosen.length + left + 1 = limit) :
    Upshot later False (PlayOf context board limit chosen spell)
      (Effect.playSpell context several left step chosen spell) := by
  have longer : (chosen ++ [spell]).length = chosen.length + 1 := by simp
  have within := picked.length_le
  cases left with
  | zero => exact .pure (.last (by omega))
  | succ left =>
      -- Whether a further spell is there is told ahead of its pick, on the board of this answer.
      refine .reading (.making (fun failure broken => ?_) fun others isOthers => ?_)
      · rw [Context.handSpells_eq_spells kept.acts] at broken
        cases broken
      rw [Context.handSpells_eq_spells kept.acts] at isOthers
      obtain rfl : _ = others := Except.ok.inj isOthers
      refine .branch (fun empty => .telling (.pure (.last ?_))) fun present => ?_
      · have exhausted : ¬ ∃ id ∈ context.spells board, id ∉ chosen ++ [spell] := by
          rintro ⟨id, isSpell, fresh⟩
          have member := (mem_rest_iff kept id).2 ⟨isSpell, fresh⟩
          rw [List.isEmpty_iff.1 empty] at member
          cases member
        rw [← picked.length_lt_iff] at exhausted
        omega
      · obtain ⟨id, member⟩ := List.exists_mem_of_ne_nil _ fun nil =>
          present (List.isEmpty_iff.2 nil)
        have fewer := picked.length_lt_iff.2 ⟨id, (mem_rest_iff kept id).1 member⟩
        refine .orFail (fun failure broken => ?_) fun outcome merged => ?_
        · cases broken
        · cases merged
          exact .more (by omega) fewer

end Play

namespace Walk

/-- The walk has had the chosen spells played and nothing else, and it is over or waits for
the pick of a further one. -/
inductive Plays (context : Context) (board : Board) (limit : Nat) : List CardId → Walk → Prop
  | finished {chosen : List CardId} {applied : List Outcome}
      (played : applied = chosen.map (Effect.playedFromHand context))
      (picked : PickedFrom (context.spells board) chosen)
      (reached : chosen.length = min limit (context.spells board).toFinset.card) :
      Plays context board limit chosen { applied }
  | waits {chosen : List CardId} {applied : List Outcome} {pick : Pick} {several : Bool}
      {left step : Nat} (played : applied = chosen.map (Effect.playedFromHand context))
      (picked : PickedFrom (context.spells board) chosen)
      (offers : pick.OffersRest context board chosen)
      (budget : chosen.length + left + 1 = limit)
      (fewer : chosen.length < (context.spells board).toFinset.card) :
      Plays context board limit chosen
        { applied
          current := some ⟨.pick pick, onCard (Effect.playSpell context several left step chosen)⟩ }

namespace Plays

variable {context : Context} {board : Board} {limit : Nat} {chosen : List CardId} {walk : Walk}

theorem picked (plays : walk.Plays context board limit chosen) :
    PickedFrom (context.spells board) chosen := by
  cases plays <;> assumption

theorem applied (plays : walk.Plays context board limit chosen) :
    walk.applied = chosen.map (Effect.playedFromHand context) := by
  cases plays <;> assumption

theorem isDone_iff (plays : walk.Plays context board limit chosen) :
    walk.isDone = true ↔ chosen.length = min limit (context.spells board).toFinset.card := by
  cases plays with
  | finished played picked reached => exact iff_of_true rfl reached
  | waits played picked offers budget fewer => exact iff_of_false Bool.false_ne_true (by omega)

theorem length_le (plays : walk.Plays context board limit chosen) :
    chosen.length ≤ min limit (context.spells board).toFinset.card := by
  cases plays with
  | finished played picked reached => exact reached.le
  | waits played picked offers budget fewer => omega

/-- A walk that is not over offers the spells that were not chosen, and there is one. -/
theorem candidates (plays : walk.Plays context board limit chosen) (waiting : walk.isDone = false)
    {later : Board} (kept : board.SpellsKept context chosen later) :
    ∃ offered, walk.candidates later = .ok offered ∧ offered ≠ [] ∧
      ∀ choice, choice ∈ offered.map Candidate.value ↔
        ∃ id ∈ context.spells board, id ∉ chosen ∧ choice = .card id := by
  cases plays with
  | finished played picked reached => cases waiting
  | waits played picked offers budget fewer =>
      obtain ⟨offered, made, isOffered⟩ := offers later kept
      obtain ⟨id, isSpell, fresh⟩ := picked.length_lt_iff.1 fewer
      have member := (isOffered (.card id)).2 ⟨id, isSpell, fresh, rfl⟩
      refine ⟨offered, made, ?_, isOffered⟩
      rintro rfl
      cases member

/-- What a pick comes to is taken at once: the spell is applied, and the walk is over or waits
for the next one. -/
theorem exists_take {spell : CardId} {applied : List Outcome} {outcome : Outcome}
    (isPlay : PlayOf context board limit chosen spell outcome)
    (played : applied = chosen.map (Effect.playedFromHand context))
    (picked : PickedFrom (context.spells board) (chosen ++ [spell])) :
    ∃ next, ({ applied } : Walk).take outcome.orNothing = (next, none) ∧
      next.Plays context board limit (chosen ++ [spell]) := by
  have playedNow : applied ++ [Effect.playedFromHand context spell] =
      (chosen ++ [spell]).map (Effect.playedFromHand context) := by
    rw [played, List.map_append]
    rfl
  cases isPlay with
  | last reached =>
      exact ⟨_, take_of_nothing_left rfl rfl, .finished playedNow picked reached⟩
  | more budget fewer =>
      exact ⟨_, take_of_question rfl rfl rfl rfl,
        .waits playedNow picked (offersRest_produced .asCards _) budget fewer⟩

/-- The answer with a spell that was not chosen yet has it played. -/
theorem answered (plays : walk.Plays context board limit chosen) (waiting : walk.isDone = false)
    {moment : Moment} {spell : CardId} (isChoice : moment.choice = .card spell)
    (member : spell ∈ context.spells board) (fresh : spell ∉ chosen)
    (kept : board.SpellsKept context chosen moment.board) :
    (walk.answered moment).1.2.Plays context board limit (chosen ++ [spell]) := by
  cases plays with
  | finished played picked reached => cases waiting
  | @waits _ pick several left step played picked offers budget fewer =>
      have pickedNow := picked.append_singleton member fresh
      obtain ⟨outcome, after, ran, isPlay⟩ :=
        (upshot_playOf (kept.append [spell]) pickedNow several step budget).exists_ok id
          moment.session
      obtain ⟨next, taken, plays⟩ := exists_take isPlay played pickedNow
      have answers : onCard (Effect.playSpell context several left step chosen) moment.choice
          moment.board moment.session = (.ok outcome, after) := by
        rw [isChoice]
        exact ran
      rw [answered_of_taken rfl answers taken]
      exact plays

end Plays

end Walk

/-- The card that the answer picks. -/
def Moment.card? (moment : Moment) : Option CardId :=
  match moment.choice with
  | .card id => some id
  | _ => none

/-- In each of these moments the spells are those of the board, except that those that were
chosen or picked before may have left the hand. -/
def Board.SpellsKeptAlong (context : Context) (board : Board) : List CardId → List Moment → Prop
  | _, [] => True
  | chosen, moment :: moments => board.SpellsKept context chosen moment.board ∧
      board.SpellsKeptAlong context (chosen ++ moment.card?.toList) moments

namespace Walk.Plays

variable {context : Context} {board : Board} {limit : Nat}

/-- Every fair answer has one more spell played. -/
theorem after_of_fair {moments : List Moment} {chosen : List CardId} {walk : Walk}
    (plays : walk.Plays context board limit chosen) (fair : walk.Fair moments)
    (kept : board.SpellsKeptAlong context chosen moments) :
    ∃ more, more.length = moments.length ∧
      (walk.after moments).Plays context board limit (chosen ++ more) := by
  -- Each answer adds to what is chosen, so the induction holds for whatever was chosen before.
  induction moments generalizing chosen walk with
  | nil => exact ⟨[], rfl, by rwa [List.append_nil]⟩
  | cons moment moments ih =>
      have waiting : walk.isDone = false :=
        Bool.eq_false_iff.2 fun done => by cases eq_nil_of_fair done fair
      obtain ⟨⟨candidates, made, member⟩, fairRest⟩ := fair
      obtain ⟨keptNow, keptRest⟩ := kept
      obtain ⟨offered, isOffered, -, offers⟩ := plays.candidates waiting keptNow
      obtain rfl : offered = candidates := Except.ok.inj (isOffered.symm.trans made)
      obtain ⟨spell, isSpell, fresh, isChoice⟩ := (offers _).1 member
      have isCard : moment.card? = some spell := by rw [Moment.card?, isChoice]
      rw [isCard] at keptRest
      obtain ⟨more, sameLength, playsAfter⟩ :=
        ih (plays.answered waiting isChoice isSpell fresh keptNow) fairRest keptRest
      refine ⟨spell :: more, congrArg Nat.succ sameLength, ?_⟩
      rwa [List.append_assoc] at playsAfter

/-- Different spells from hand, no more than are to be played, are fair answers. -/
theorem fair_of_picked {moments : List Moment} {chosen more : List CardId} {walk : Walk}
    (plays : walk.Plays context board limit chosen)
    (answers : moments.map Moment.choice = more.map .card)
    (picked : PickedFrom (context.spells board) (chosen ++ more))
    (within : (chosen ++ more).length ≤ limit)
    (kept : board.SpellsKeptAlong context chosen moments) :
    walk.Fair moments ∧ (walk.after moments).Plays context board limit (chosen ++ more) := by
  induction moments generalizing chosen more walk with
  | nil =>
      obtain rfl : more = [] := List.map_eq_nil_iff.1 answers.symm
      exact ⟨trivial, by rwa [List.append_nil]⟩
  | cons moment moments ih =>
      obtain ⟨keptNow, keptRest⟩ := kept
      rcases more with - | ⟨spell, rest⟩
      · cases answers
      obtain ⟨isChoice, answersRest⟩ := List.cons.inj answers
      have isSpell : spell ∈ context.spells board := picked.subset (by simp)
      have fresh : spell ∉ chosen := fun isChosen =>
        (List.nodup_append.1 picked.nodup).2.2 spell isChosen spell List.mem_cons_self rfl
      have bound := picked.length_le
      have longer : (chosen ++ spell :: rest).length = chosen.length + rest.length + 1 := by
        simp [Nat.add_assoc]
      have waiting : walk.isDone = false := Bool.eq_false_iff.2 fun done => by
        have reached := plays.isDone_iff.1 done
        omega
      have isCard : moment.card? = some spell := by rw [Moment.card?, isChoice]
      obtain ⟨offered, made, -, offers⟩ := plays.candidates waiting keptNow
      have split : chosen ++ spell :: rest = chosen ++ [spell] ++ rest := by simp
      rw [isCard] at keptRest
      rw [split] at picked within
      obtain ⟨fairRest, playsAfter⟩ := ih (plays.answered waiting isChoice isSpell fresh keptNow)
        answersRest picked within keptRest
      rw [split]
      exact ⟨⟨⟨offered, made, (offers _).2 ⟨spell, isSpell, fresh, isChoice⟩⟩, fairRest⟩,
        playsAfter⟩

end Walk.Plays

/-- The outcome leads to a walk that has had no spell played, or that is over since there is
only one. -/
def Outcome.StartsPlaying (context : Context) (board : Board) (limit : Nat) (outcome : Outcome) :
    Prop :=
  ∃ walk chosen, Walk.start outcome = .ok walk ∧ walk.Plays context board limit chosen ∧
    (chosen = [] ∨ walk.isDone = true ∧ ∃ spell, context.spells board = [spell])

section Starts

variable {context : Context} {board : Board} {limit : Nat}

/-- The only spell is played at once. -/
theorem startsPlaying_of_only {spell : CardId} {outcome : Outcome}
    (only : context.spells board = [spell]) (isPlay : PlayOf context board limit [] spell outcome) :
    outcome.orNothing.StartsPlaying context board limit := by
  have picked : PickedFrom (context.spells board) ([] ++ [spell]) :=
    PickedFrom.nil.append_singleton (by simp [only]) List.not_mem_nil
  have whole : (context.spells board).toFinset.card = 1 := by simp [only]
  cases isPlay with
  | last reached =>
      refine ⟨{ applied := [Effect.playedFromHand context spell] }, _, ?_,
        .finished rfl picked reached, .inr ⟨rfl, spell, only⟩⟩
      have taken : ({} : Walk).take (Effect.playedFromHand context spell).orNothing.orNothing =
          ({ applied := [Effect.playedFromHand context spell] }, none) :=
        Walk.take_of_nothing_left rfl rfl
      rw [Walk.start, taken]
  | more budget fewer => simp [whole] at fewer

/-- However small the number of spells that is asked for, one is played if there is one. -/
theorem upshot_startsPlaying (count : Int) (acts : context.actor board ≠ none) :
    Upshot board False (Outcome.StartsPlaying context board (max count 1).toNat)
      (Effect.playSpellsFromHand (.int count) context) := by
  have found : Effect.handSpells context [] board = .ok (context.spells board) := by
    rw [Context.handSpells_eq_spells acts]
    simp
  refine .reading (.making (fun failure broken => ?_) fun spells isSpells => ?_)
  · rw [found] at broken
    cases broken
  obtain rfl : context.spells board = spells := Except.ok.inj (found.symm.trans isSpells)
  have budget : ([] : List CardId).length + (count.toNat - 1) + 1 = (max count 1).toNat := by
    simp only [List.length_nil]
    omega
  refine .branch (fun empty => .telling (.pure ?_)) fun present => ?_
  · have whole : (context.spells board).toFinset.card = 0 := by
      rw [List.isEmpty_iff.1 empty]
      rfl
    refine ⟨{}, [], ?_, .finished rfl .nil (by rw [whole, Nat.min_zero]; rfl), .inl rfl⟩
    have taken : ({} : Walk).take Outcome.nothing.orNothing = ({}, none) :=
      Walk.take_of_nothing_left rfl rfl
    rw [Walk.start, taken]
  · have filled : context.spells board ≠ [] := fun nil => present (List.isEmpty_iff.2 nil)
    refine .making (fun failure broken => ?_) fun rounds isRounds => ?_
    · cases broken
    obtain rfl : count.toNat = rounds := Except.ok.inj isRounds
    refine .pickOne (fun empty => ?_) (fun only isOnly => ?_) fun _ => ?_
    · exact absurd (List.map_eq_nil_iff.1 empty) filled
    · obtain ⟨spell, isAlone, rfl⟩ := List.map_eq_singleton_iff.1 isOnly
      have picked : PickedFrom (context.spells board) ([] ++ [spell]) :=
        PickedFrom.nil.append_singleton (by simp [isAlone]) List.not_mem_nil
      have kept : board.SpellsKept context ([] ++ [spell]) board := ⟨acts, fun _ _ => Iff.rfl⟩
      exact (upshot_playOf kept picked _ 0 budget).weaken fun _ => startsPlaying_of_only isAlone
    · have fewer : ([] : List CardId).length < (context.spells board).toFinset.card := by
        rw [List.length_nil, Finset.card_pos]
        exact List.toFinset_nonempty_iff _ |>.2 filled
      exact ⟨_, [], Walk.start_of_question rfl rfl rfl rfl,
        .waits rfl .nil (offersRest_listed .asCards _) budget fewer, .inl rfl⟩

/-- Where there are several spells, the walk starts with none of them played. -/
theorem exists_start_of_several (count : Int) (acts : context.actor board ≠ none)
    (several : 1 < (context.spells board).length) (session : Session) :
    ∃ outcome later walk,
      Effect.playSpellsFromHand (.int count) context board session = (.ok outcome, later) ∧
      Walk.start outcome = .ok walk ∧ walk.Plays context board (max count 1).toNat [] := by
  obtain ⟨outcome, later, ran, walk, chosen, started, plays, stage⟩ :=
    (upshot_startsPlaying count acts).exists_ok id session
  rcases stage with rfl | ⟨-, spell, only⟩
  · exact ⟨outcome, later, walk, ran, started, plays⟩
  · rw [only] at several
    exact absurd several (Nat.lt_irrefl 1)

end Starts

/-- Wherever there is an acting player, the effect succeeds and leads to a walk in which every
fair answer has one more spell played, whether or not the spells that were played before
have left the hand.  Those that were played are different spells of the hand, and the
walk is over exactly when their number is reached.  Until then it offers the spells that
were not played, and there is one.  The number is the least of what was asked for and what
there is, except that one spell is played if there is any, even if none or fewer were
asked for. -/
theorem different_spells_are_played (count : Int) (context : Context) (board : Board)
    (session : Session) (acts : context.actor board ≠ none) :
    let spells := context.spells board
    let number := min (max count 1).toNat spells.toFinset.card
    (∃ outcome later walk,
      Effect.playSpellsFromHand (.int count) context board session = (.ok outcome, later) ∧
      Walk.start outcome = .ok walk ∧
      ∀ moments, walk.Fair moments → board.SpellsKeptAlong context [] moments →
        ∃ played, (walk.after moments).applied = played.map (Effect.playedFromHand context) ∧
          played.Nodup ∧ played ⊆ spells ∧
          moments.length ≤ played.length ∧ played.length ≤ number ∧
          ((walk.after moments).isDone = true ↔ played.length = number) ∧
          ((walk.after moments).isDone = false → ∀ shown, board.SpellsKept context played shown →
            ∃ offered, (walk.after moments).candidates shown = .ok offered ∧ offered ≠ [] ∧
              ∀ choice, choice ∈ offered.map Candidate.value ↔
                ∃ id ∈ spells, id ∉ played ∧ choice = .card id)) ∧
    (number = min (max count 0).toNat spells.toFinset.card ↔ 1 ≤ count ∨ spells = []) := by
  intro spells number
  constructor
  · obtain ⟨outcome, later, ran, walk, chosen, started, plays, stage⟩ :=
      (upshot_startsPlaying count acts).exists_ok id session
    refine ⟨outcome, later, walk, ran, started, fun moments fair kept => ?_⟩
    have reached : ∃ played, moments.length ≤ played.length ∧
        (walk.after moments).Plays context board (max count 1).toNat played := by
      rcases stage with rfl | ⟨done, -⟩
      · obtain ⟨played, sameLength, playsAfter⟩ := plays.after_of_fair fair kept
        exact ⟨played, sameLength.ge, playsAfter⟩
      · obtain rfl : moments = [] := Walk.eq_nil_of_fair done fair
        exact ⟨chosen, Nat.zero_le _, plays⟩
    obtain ⟨played, enough, playsAfter⟩ := reached
    refine ⟨played, playsAfter.applied, playsAfter.picked.nodup, playsAfter.picked.subset, enough,
      playsAfter.length_le, playsAfter.isDone_iff, fun waiting _ => playsAfter.candidates waiting⟩
  · have none_iff : spells.toFinset.card = 0 ↔ spells = [] := by
      rw [Finset.card_eq_zero, List.toFinset_eq_empty_iff]
    rw [← none_iff]
    omega

/-- Three spells are played one after the other; the first has left the hand when the second is
picked, and the second is still there when the third is. -/
theorem playing_three_of_three :
    let board := spellTable [rain, snow, hail] []
    let moments := [Discarding.pickingFrom [rain, snow, hail] rain,
      Discarding.pickingFrom [snow, hail] snow, Discarding.pickingFrom [snow, hail] hail]
    soloist.actor board ≠ none ∧
    ∃ outcome later walk played,
      Effect.playSpellsFromHand (.int 3) soloist board .fresh = (.ok outcome, later) ∧
      Walk.start outcome = .ok walk ∧ walk.Fair moments ∧
      board.SpellsKeptAlong soloist [] moments ∧ (walk.after moments).isDone = true ∧
      (walk.after moments).applied = played.map (Effect.playedFromHand soloist) ∧
      played.Nodup ∧ played ⊆ soloist.spells board ∧ played.length = 3 := by
  intro board moments
  have acts : soloist.actor board ≠ none := Option.some_ne_none _
  obtain ⟨⟨outcome, later, walk, ran, started, plays⟩, -⟩ :=
    different_spells_are_played 3 soloist board .fresh acts
  obtain ⟨asking, after, start, ranToo, startedToo, playsFirst⟩ :=
    exists_start_of_several 3 acts (by decide) .fresh
  cases ran.symm.trans ranToo
  cases started.symm.trans startedToo
  have left : board.SpellsKept soloist [rain] (spellTable [snow, hail] []) :=
    Board.spellsKept_of_left rfl rfl rfl (by decide) (List.Subset.refl [rain])
  have kept : board.SpellsKeptAlong soloist [] moments :=
    ⟨⟨acts, fun _ _ => Iff.rfl⟩, left, left.append [snow], trivial⟩
  have picked : PickedFrom (soloist.spells board) [rain, snow, hail] := ⟨by decide, by decide⟩
  have answers : moments.map Moment.choice = [rain, snow, hail].map .card := rfl
  obtain ⟨fair, -⟩ := playsFirst.fair_of_picked answers picked (by decide) kept
  obtain ⟨played, applied, nodup, subset, enough, within, isDone, -⟩ := plays moments fair kept
  have number : min (max (3 : Int) 1).toNat (soloist.spells board).toFinset.card = 3 := by decide
  rw [number] at within isDone
  have three : played.length = 3 := le_antisymm within enough
  exact ⟨acts, outcome, later, walk, played, ran, started, fair, kept, isDone.2 three, applied,
    nodup, subset, three⟩

/-- Where no spell is to be played, one of two is. -/
theorem playing_none_of_two :
    let board := spellTable [rain, snow] []
    let moments := [Discarding.pickingFrom [rain, snow] rain]
    ∃ outcome later walk,
      Effect.playSpellsFromHand (.int 0) soloist board .fresh = (.ok outcome, later) ∧
      Walk.start outcome = .ok walk ∧ walk.Fair moments ∧
      board.SpellsKeptAlong soloist [] moments ∧ (walk.after moments).isDone = true ∧
      (walk.after moments).applied = [rain].map (Effect.playedFromHand soloist) ∧
      [rain].length ≠ min (max (0 : Int) 0).toNat (soloist.spells board).toFinset.card := by
  intro board moments
  have acts : soloist.actor board ≠ none := Option.some_ne_none _
  have kept : board.SpellsKeptAlong soloist [] moments :=
    ⟨⟨acts, fun _ _ => Iff.rfl⟩, trivial⟩
  obtain ⟨outcome, later, walk, ran, started, plays⟩ :=
    exists_start_of_several 0 acts (by decide) .fresh
  have picked : PickedFrom (soloist.spells board) [rain] := ⟨by decide, by decide⟩
  have answers : moments.map Moment.choice = [rain].map .card := rfl
  obtain ⟨fair, playsAfter⟩ := plays.fair_of_picked answers picked (by decide) kept
  exact ⟨outcome, later, walk, ran, started, fair, kept, playsAfter.isDone_iff.2 (by decide),
    playsAfter.applied, by decide⟩

end CreatureCards
