import CreatureCards.Proofs.CorrespondingResolution
import CreatureCards.Proofs.CorrespondingWalk
import CreatureCards.Proofs.FoundAgain
import CreatureCards.Proofs.OnlyRequests
import CreatureCards.Proofs.UnusableDefinition
import CreatureCards.Proofs.WalksEnd

/-!
# Changing seats

Which of the two players sits first makes no difference.  When the players change
seats and every index in the context is changed along, a definition asks the same of
the same players and comes to the same, told in the same words and with the same
random numbers.

Seats show through in two places only.  A descriptor that was written out by hand, in the
result of an option or in what a card answers, is passed on as it was written.  And a
targeted creature that stands on no field is returned to whoever sits first.
-/

namespace CreatureCards

/-- The two players change seats.  Places and indices at which nobody sits stay empty. -/
def Seating.swap : Seating where
  place place := if place < 2 then 1 - place else place
  index index := 1 - index
  injective := sub_right_injective
  opposite defender := by
    change (1 - defender + 1) % 2 = 1 - (defender + 1) % 2
    omega

@[simp]
theorem Seating.swap_index (index : Int) : swap.index index = 1 - index :=
  rfl

namespace Board

def swapped (board : Board) : Board :=
  { board with players := board.players.reverse }

/-- Two players, and no instance of a card stands on the fields of both. -/
def IsDuel (board : Board) : Prop :=
  ∃ first second, board.players = [first, second] ∧
    ∀ one ∈ first.fieldCards, ∀ other ∈ second.fieldCards,
    (board.card one).instanceId ≠ (board.card other).instanceId

theorem exists_of_isSome_findOnField {board : Board} {player : Player} {sought : String}
    (isFound : (board.findOnField player sought).isSome = true) :
    ∃ id ∈ player.fieldCards, (board.card id).instanceId = sought := by
  obtain ⟨id, found⟩ := Option.isSome_iff_exists.1 isFound
  exact ⟨id, mem_of_findOnField found⟩

section Duels

variable {board : Board} {first second : Player}

theorem known_swap (isDuel : board.players = [first, second]) (index : Int) :
    { board with players := [second, first] }.player? (Seating.swap.index index) =
      board.player? index := by
  have nobody {players : List Player} {place : Int} (size : players.length = 2)
      (beyond : 2 ≤ place) :
      players[place.toNat]? = none := List.getElem?_eq_none (by omega)
  unfold player?
  rw [isDuel, Seating.swap_index]
  obtain below | rfl | rfl | above : index < 0 ∨ index = 0 ∨ index = 1 ∨ 2 ≤ index := by omega
  · rw [if_pos below, ite_eq_left_iff]
    exact fun _ => nobody rfl (by omega)
  · rfl
  · rfl
  · rw [if_pos (by omega), if_neg (by omega), nobody rfl above]

/-- The first field that holds a creature is the only one, so it may be looked for from
either seat. -/
theorem owner_swap (isDuel : board.players = [first, second])
    (apart : ∀ one ∈ first.fieldCards, ∀ other ∈ second.fieldCards,
      (board.card one).instanceId ≠ (board.card other).instanceId) (creature : CardId) :
    ({ board with players := [second, first] }.ownerIndex? true creature).map Int.ofNat =
      (board.ownerIndex? true creature).map fun (place : Nat) => Seating.swap.index place := by
  let holds (player : Player) : Bool :=
    (board.findOnField player (board.card creature).instanceId).isSome
  have onOne : holds first = false ∨ holds second = false := by
    by_contra both
    simp only [not_or, Bool.not_eq_false] at both
    obtain ⟨one, onFirst, isSought⟩ := exists_of_isSome_findOnField both.1
    obtain ⟨other, onSecond, isSoughtToo⟩ := exists_of_isSome_findOnField both.2
    exact apart one onFirst other onSecond (isSought.trans isSoughtToo.symm)
  have here : board.ownerIndex? true creature = [first, second].findIdx? holds := by
    rw [← isDuel]
    rfl
  have there : { board with players := [second, first] }.ownerIndex? true creature =
      [second, first].findIdx? holds := rfl
  rw [here, there]
  simp only [List.findIdx?_cons, List.findIdx?_nil]
  cases one : holds first <;> cases other : holds second
  · rfl
  · rfl
  · rfl
  · simp [one, other] at onOne

theorem IsDuel.seats (duel : board.IsDuel) : Seating.swap.Seats board board.players.reverse := by
  obtain ⟨first, second, isDuel, apart⟩ := duel
  have reversed : board.players.reverse = [second, first] := by rw [isDuel]; rfl
  rw [reversed]
  refine ⟨fun place => ?_, known_swap isDuel, owner_swap isDuel apart⟩
  rw [isDuel]
  match place with
  | 0 | 1 => rfl
  | place + 2 => rfl

end Duels

end Board

/-- A game, and the same game after the players changed seats, on the boards of a world.
Which descriptors are written out by hand there and which creatures have gone astray is
left to it. -/
def Correspondence.swapped (world : Board → Prop) (inGame : Bool)
    (written : String × Outcome → Prop) (astray : CardId → Prop) : Correspondence where
  seating := .swap
  moments board players := world board ∧ board.IsDuel ∧ players = board.players.reverse
  sessions session other := other = session
  acts context := context.inGame = inGame ∧ context.playerIndex.isSome = true
  written := written
  astray := astray
  seats := by
    rintro board _ ⟨-, duel, rfl⟩
    exact duel.seats
  announced := by
    rintro session _ rfl _
    rfl
  warned := by
    rintro session _ rfl _
    rfl
  redrawn := by
    rintro session _ rfl _
    rfl
  occupied := by
    rintro session _ rfl _ _
    rfl
  random := by
    rintro session _ rfl
    rfl
  taken := by
    rintro session _ rfl
    rfl
  passed acting _ _ _ := acting
  known acting := .inl acting.2

namespace Value

variable (definition : Value) (world : Board → Prop)

/-- The descriptor is written out by hand in what may come to be passed on: as the result
of an option, or as the answer of a card. -/
def WritesOut (descriptor : String × Outcome) : Prop :=
  ∃ board, world board ∧
    ((∃ asked, definition.Pursues board asked ∧ asked.Authors descriptor) ∨
      ∃ id script, (board.card id).reaction = some (.answer script) ∧ script.Authors descriptor)

/-- The creature may stand on no field when the targeted creature is returned to hand. -/
def ReturnsAstray (inGame : Bool) (creature : CardId) : Prop :=
  (∃ board asked, world board ∧ definition.Pursues board asked ∧ asked.returnsTarget) ∧
    ∃ board, world board ∧ board.ownerIndex? inGame creature = none

/-- Resolving the definition corresponds to resolving it after the players changed seats,
on the boards of a world. -/
def swapping (inGame : Bool) : Correspondence :=
  .swapped world inGame (definition.WritesOut world) (definition.ReturnsAstray world inGame)

variable {definition world} {inGame : Bool}

theorem admits_of_pursues {board : Board} (held : world board) {asked : Invocation Value}
    (pursues : definition.Pursues board asked) :
    (definition.swapping world inGame).Admits asked where
  written := .inr fun _ authors => ⟨board, held, .inl ⟨asked, pursues, authors⟩⟩
  strays returns := by
    rintro context ⟨rfl, -⟩ later players ⟨alsoHeld, -, -⟩ creature unowned
    exact .inr ⟨⟨board, asked, held, pursues, returns⟩, later, alsoHeld, unowned⟩

theorem reaches_swapping {board : Board} (held : world board) :
    (definition.swapping world inGame).Reaches board where
  resolves _ _ reacts _ invokes := admits_of_pursues held (.reaction reacts invokes)
  answers id script reacts :=
    .inr fun _ authors => ⟨board, held, .inr ⟨id, script, reacts, authors⟩⟩

end Value

/-- The engine is blind to the seats.  In every world of two players none of whose
creatures stands on both fields, resolving a definition comes to the same before and
after the players changed seats, with every index in the context moved along: the same
descriptors and prompts in the same order, with the same candidates, the same messages,
reports and random numbers, and each player named by the new seat.  So do all walks
through the outcome when they are answered in the same way.  Exempt are descriptors that
were written out by hand, and the return of a targeted creature from no field. -/
theorem resolutions_are_blind_to_the_seats (definition : Value) (settings : Settings)
    {context : Context}
    (seated : context.playerIndex.isSome = true) {world : Board → Prop} {board : Board}
    (held : world board) (duel : board.IsDuel) (session : Session) :
    (definition.swapping world context.inGame).Throughout
      (resolve definition settings context board session)
      (resolve definition settings (context.reseated .swap) board.swapped session) := by
  have allows : (definition.swapping world context.inGame).Allows definition :=
    fun asked invokes => Value.admits_of_pursues held (.own invokes)
  have resolves :=
    corresponds_resolve (fun board _ moment => Value.reaches_swapping moment.1) allows settings
  exact (resolves context ⟨rfl, seated⟩ board board.players.reverse ⟨held, duel, rfl⟩ session
    session rfl).throughout

section Inversion

variable {c : Correspondence} {key : String}

theorem Outcome.Corresponds.fields {fields others : Descriptors}
    (corresponds : Outcome.Corresponds c (.record fields) (.record others)) :
    List.Forall₂ (c.Field (Outcome.Corresponds c)) fields others := by
  cases corresponds with
  | keyed each within => exact each.imp fun _ _ field => field.imp within

theorem Outcome.index_eq_int {index : Option Int} {number : Int}
    (same : Outcome.index index = .int number) : index = some number := by
  cases index with
  | none => simp [Outcome.index, Outcome.int, Value.ofInt?] at same
  | some found =>
      simp only [Outcome.index, Outcome.int, Value.ofInt?, Option.elim_some, Outcome.value.injEq,
        Value.int.injEq] at same
      rw [same]

namespace Correspondence.Field

/-- A payload that is no index corresponds, unless it was written out by hand or returns a
creature that has gone astray. -/
theorem payload {payload other : Outcome}
    (field : c.Field (Outcome.Corresponds c) (key, payload) (key, other))
    (unwritten : ¬ c.written (key, payload)) (isOther : ∀ index, payload ≠ .index index) :
    Outcome.Corresponds c payload other ∨ ∃ creature, c.astray creature := by
  cases field with
  | plain _ isFit => exact .inl isFit
  | index _ number => exact absurd rfl (isOther number)
  | written _ isWritten => exact absurd isWritten unwritten
  | astray isAstray => exact .inr ⟨_, isAstray⟩

/-- Unless it was written out by hand, an index has moved. -/
theorem moved {number other : Int}
    (field : c.Field (Outcome.Corresponds c) (key, .int number) (key, .int other))
    (isKey : key ∈ playerKeys) (unwritten : ¬ c.written (key, .int number)) :
    c.seating.index number = other := by
  generalize here : (key, Outcome.int number) = first at field
  generalize there : (key, Outcome.int other) = second at field
  cases field with
  | plain isOther _ =>
      simp only [Prod.mk.injEq] at here
      obtain ⟨rfl, rfl⟩ := here
      exact absurd rfl (isOther isKey number)
  | index _ index =>
      simp only [Prod.mk.injEq] at here there
      rw [Outcome.index_eq_int here.2.symm] at there
      exact Option.some.inj (Outcome.index_eq_int there.2.symm)
  | written _ isWritten =>
      rw [here] at unwritten
      exact absurd isWritten unwritten
  | astray =>
      simp only [Prod.mk.injEq] at here
      obtain ⟨rfl, -⟩ := here
      simp at isKey

end Correspondence.Field

end Inversion

section Fixed

theorem isDuel_calmBoard : calmBoard.IsDuel :=
  ⟨{}, { field := [some touchy, some calm, none] }, rfl, fun _ onField => by cases onField⟩

/-- A creature that the rival picks from the other field is returned to the same hand. -/
theorem a_return_is_blind_to_the_seats :
    let definition := definitionOf "selectEnemyToReturn"
    let world := fun board => board = calmBoard
    let session := (default : Moment).session
    duel.playerIndex.isSome = true ∧ calmBoard.IsDuel ∧
      (∀ descriptor, ¬ definition.WritesOut world descriptor) ∧
      (∀ creature, ¬ definition.ReturnsAstray world true creature) ∧
      (definition.swapping world true).Throughout (resolve definition {} duel calmBoard session)
        (resolve definition {} (duel.reseated .swap) calmBoard.swapped session) := by
  intro definition world session
  have only {asked : Invocation Value} (pursues : definition.Pursues calmBoard asked) :
      asked = .direct .selectEnemyToReturn [] :=
    Value.eq_of_pursues rfl rfl (fun _ _ => by simp [calmBoard]) pursues
  refine ⟨rfl, isDuel_calmBoard, ?_, ?_, ?_⟩
  · rintro descriptor ⟨board, rfl, ⟨asked, pursues, authors⟩ | ⟨id, script, reacts, -⟩⟩
    · rw [only pursues] at authors
      exact authors
    · cases reacts
  · rintro creature ⟨⟨board, asked, rfl, pursues, returns⟩, -⟩
    rw [only pursues] at returns
    cases returns
  · exact @resolutions_are_blind_to_the_seats definition {} duel rfl world calmBoard
      rfl isDuel_calmBoard session

/-- Where nothing is exempt, the index of a player inside a descriptor moves along with
the player. -/
theorem not_corresponds_of_unmoved {c : Correspondence} {key : String} {first : String × Outcome}
    {number : Int} (unwritten : ∀ descriptor, ¬ c.written descriptor)
    (found : ∀ creature, ¬ c.astray creature) (moves : c.seating.index number ≠ number) :
    ¬ Outcome.Corresponds c (.descriptor key (.record [first, ("player_index", .int number)]))
      (.descriptor key (.record [first, ("player_index", .int number)])) := by
  intro corresponds
  cases corresponds.fields with
  | cons outer _ =>
      have isRecord (index : Option Int) :
          Outcome.record [first, ("player_index", .int number)] ≠ .index index := nofun
      rcases outer.payload (unwritten _) isRecord with payload | ⟨creature, isAstray⟩
      · cases payload.fields with
        | cons _ later =>
            cases later with
            | cons index _ => exact moves (index.moved (by simp) (unwritten _))
      · exact found creature isAstray

/-- An option whose result is written out, for the player who sits first. -/
def writtenOption : Value :=
  invocationOf "chooseOption" (.object [("options", .list [.object
    [("effect", .object [("add_to_hand", .object [("card", .text "x"), ("player_index", .int 0)])]),
      ("label", .text "x")]])])

theorem resolve_writtenOption {context : Context} (settled : context.resolver = .taken {})
    (board : Board) (session : Session) : (resolve writtenOption {} context board session).1 =
      .ok
        (.descriptor "add_to_hand" (.record [("card", .text "x"), ("player_index", .int 0)])) := by
  let result :=
    Value.object [("add_to_hand", .object [("card", .text "x"), ("player_index", .int 0)])]
  have read : Reading.ofValue writtenOption =
      .invocation (.chooseOption none [({ label := "x", effect := result }, result)]) := by
    rfl
  have adopts : context.adopt {} = pure context := by
    unfold Context.adopt
    rw [settled]
  rw [resolve, resolveWith_of_invocation read, adopts]
  rfl

/-- Aimed at a creature that stands on no field. -/
def aimingAstray : Context :=
  { duel with target := some (.card hunter) }

theorem resolve_returnTargetedToHand :
    (resolve (definitionOf "returnTargetedToHand") {} aimingAstray calmBoard
      (default : Moment).session).1 =
        .ok (Effect.returnToHand [hunter] (some 0)) ∧
      (resolve (definitionOf "returnTargetedToHand") {} (aimingAstray.reseated .swap)
        calmBoard.swapped
        (default : Moment).session).1 = .ok (Effect.returnToHand [hunter] (some 0)) := by
  have read : Reading.ofValue (definitionOf "returnTargetedToHand") =
      .invocation (.direct .returnTargetedToHand []) := rfl
  rw [resolve, resolveWith_of_invocation read, resolveWith_of_invocation read]
  exact ⟨rfl, rfl⟩

/-- A result that is written out for the player who sits first goes to whoever sits
there, and so does a targeted creature that stands on no field. -/
theorem seats_show_through_when_written_or_astray :
    let exactly := Correspondence.swapped (fun board => board = calmBoard) true (fun _ => False)
      fun _ => False
    let session := (default : Moment).session
    calmBoard.IsDuel ∧ duel.playerIndex.isSome = true ∧ aimingAstray.playerIndex.isSome = true ∧
      ¬ exactly.Throughout (resolve writtenOption {} duel calmBoard session)
        (resolve writtenOption {} (duel.reseated .swap) calmBoard.swapped session) ∧
      ¬ exactly.Throughout
        (resolve (definitionOf "returnTargetedToHand") {} aimingAstray calmBoard session)
        (resolve (definitionOf "returnTargetedToHand") {} (aimingAstray.reseated .swap)
          calmBoard.swapped
          session) := by
  intro exactly session
  have unmoved (key : String) (first : String × Outcome) :=
    @not_corresponds_of_unmoved exactly key first 0 (fun _ => id) (fun _ => id) (by decide)
  refine ⟨isDuel_calmBoard, rfl, rfl, fun throughout => ?_, fun throughout => ?_⟩
  · have results := throughout.resolved.results
    rw [resolve_writtenOption rfl, resolve_writtenOption rfl] at results
    cases results with
    | ok corresponds => exact unmoved _ _ corresponds
  · have results := throughout.resolved.results
    rw [resolve_returnTargetedToHand.1, resolve_returnTargetedToHand.2] at results
    cases results with
    | ok corresponds => exact unmoved _ _ corresponds

end Fixed

end CreatureCards
