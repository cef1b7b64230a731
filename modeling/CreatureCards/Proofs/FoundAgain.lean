import CreatureCards.Proofs.Upshot
import CreatureCards.TrapEffect
import CreatureCards.TribeEffect

/-!
# Captured creatures found again

A creature that was captured by a trigger is looked for on the field by its instance,
with the rival first and with the acting player second.  Whether the first search has
found something is told by comparing what it came to with the captured object, so a
captured object that still stands with the rival counts as not found, and another object
of the same instance on the acting player's field takes its place.

Every effect on an attacker or on a trapped creature acts on what was found in this way.
As long as no instance stands in two places, that is the object on the field, and a
trapped creature returns to the player whose field holds it.
-/

namespace CreatureCards

namespace Board

section Finding

variable {board : Board} {player : Player} {sought : String} {found : CardId}

/-- What is found on a field stands there, for the instance that was looked for. -/
theorem mem_of_findOnField (isFound : board.findOnField player sought = some found) :
    found ∈ player.fieldCards ∧ (board.card found).instanceId = sought := by
  have isSought := List.find?_some isFound
  exact ⟨List.mem_of_find?_eq_some isFound, eq_of_beq isSought⟩

theorem exists_findOnField {copy : CardId} (stands : copy ∈ player.fieldCards)
    (isSought : (board.card copy).instanceId = sought) :
    ∃ found, board.findOnField player sought = some found :=
  Option.isSome_iff_exists.1 (List.find?_isSome.2 ⟨copy, stands, beq_iff_eq.2 isSought⟩)

end Finding

/-- The player whom the state of the game knows under the index, if the context can consult
it. -/
def seated (board : Board) (context : Context) (index : Option Int) : Option Player :=
  if context.inGame then index.bind board.player? else none

theorem exists_place_of_seated {board : Board} {context : Context} {index : Option Int}
    {player : Player} (isSeated : board.seated context index = some player) :
    ∃ seat : Nat, board.players[seat]? = some player := by
  unfold seated at isSeated
  split at isSeated
  · obtain ⟨place, -, isPlayer⟩ := Option.bind_eq_some_iff.1 isSeated
    unfold player? at isPlayer
    split at isPlayer
    · cases isPlayer
    · exact ⟨place.toNat, isPlayer⟩
  · cases isSeated

/-- The first object on the field of the player with this index that stands for the instance
of the captured one. -/
def copyAt (board : Board) (context : Context) (index : Option Int) (captured : CardId) :
    Option CardId :=
  (board.seated context index).bind fun player =>
    board.findOnField player (board.card captured).instanceId

/-- The object that should stand for the captured one: the first of its instance on the
rival's field, else on the acting player's, else the captured object itself. -/
def current (board : Board) (context : Context) (captured : CardId) : CardId :=
  ((board.copyAt context context.opponentIndex captured).or
    (board.copyAt context context.playerIndex captured)).getD captured

/-- The captured object is found on the rival's field, and passed over for another object of
its instance on the acting player's. -/
def PassesOver (board : Board) (context : Context) (captured : CardId) : Prop :=
  board.copyAt context context.opponentIndex captured = some captured ∧
    ∃ other, board.copyAt context context.playerIndex captured = some other ∧ other ≠ captured

/-- Two searches, the second of which goes ahead if the first has come to the sought object
itself, found or not. -/
theorem second_search_eq {captured : CardId} (first second : Option CardId) {mayGoOn : Bool}
    (nothing : mayGoOn = false → second = none) :
    (if first.getD captured = captured && mayGoOn then second.getD captured
      else first.getD captured) =
      (if first = some captured then second else first.or second).getD captured := by
  have goingOn : (if mayGoOn then second.getD captured else captured) = second.getD captured := by
    cases mayGoOn with
    | true => rfl
    | false => rw [nothing rfl]; rfl
  rcases first with - | found
  · simpa using goingOn
  · by_cases same : found = captured
    · subst same
      simpa using goingOn
    · simp [same]

section Refreshing

variable (board : Board) (context : Context) (captured : CardId)

/-- The acting player's field decides whenever the captured object was found on the rival's. -/
theorem refreshed_eq :
    board.refreshed context captured =
      (if board.copyAt context context.opponentIndex captured = some captured then
        board.copyAt context context.playerIndex captured
      else (board.copyAt context context.opponentIndex captured).or
        (board.copyAt context context.playerIndex captured)).getD captured := by
  have unseated : context.playerIndex.isSome = false →
      board.copyAt context context.playerIndex captured = none := by
    intro unknown
    have isNone : context.playerIndex = none := by simpa using unknown
    rw [isNone, copyAt, seated]
    split <;> rfl
  exact second_search_eq _ _ unseated

theorem refreshed_eq_current_iff :
    board.refreshed context captured = board.current context captured ↔
      ¬ board.PassesOver context captured := by
  rw [refreshed_eq, current, PassesOver]
  by_cases same : board.copyAt context context.opponentIndex captured = some captured
  · rw [if_pos same, same, Option.some_or, Option.getD_some]
    rcases board.copyAt context context.playerIndex captured with - | other
    · simp
    · simp
  · rw [if_neg same]
    exact iff_of_true rfl fun both => same both.1

end Refreshing

end Board

/-- Effects on the creature in a role. -/
inductive RoleEffect where
  | damage (amount sourceLabel : Value)
  | kill
  | transform (newCardId : Value)
  | strip
  | grant (keyword : Value)
  | buff (attack health : Value)

namespace RoleEffect

def effect (role : Value) : RoleEffect → Effect
  | damage amount sourceLabel => Effect.damageCreature role amount sourceLabel
  | kill => Effect.killCreature role
  | transform newCardId => Effect.transformCard role newCardId
  | strip => Effect.removeAbilities role
  | grant keyword => Effect.grantKeyword role keyword
  | buff attack health => Effect.buffStats role attack health

/-- What is asked for when the effect reaches the creature. -/
def request (creature : CardId) : RoleEffect → Outcome
  | damage amount sourceLabel => .damageCreature creature amount sourceLabel
  | kill => .descriptor "kill_creature" (.card creature)
  | transform newCardId => .descriptor "transform_card" (.record
      [("card", .card creature), ("new_card_data", .value newCardId)])
  | strip => .descriptor "remove_abilities" (.card creature)
  | grant keyword => .descriptor "grant_keyword" (.keywordPayload creature keyword)
  | buff attack health => .buffCreature creature attack health

end RoleEffect

/-- Effects on a creature that a trigger has captured: on the attacker, and on the creature
that a trap refers to. -/
inductive CapturedEffect where
  | killAttacker
  | damageAttacker (damage : Value)
  | poisonAttacker
  | freezeAttacker
  | webAttacker
  | onAttackingRole (act : RoleEffect)
  | stripTrapped
  | returnTriggered
  | returnTargeted
  | negateAndKill

namespace CapturedEffect

def effect : CapturedEffect → Effect
  | killAttacker => Effect.killAttacker
  | damageAttacker damage => Effect.dealDamageToAttacker damage
  | poisonAttacker => Effect.applyNeurotoxicToAttacker
  | freezeAttacker => Effect.freezeAttacker
  | webAttacker => Effect.webAttacker
  | onAttackingRole act => act.effect (.text "attacker")
  | stripTrapped => Effect.removeTriggeredCreatureAbilities
  | returnTriggered => Effect.returnTriggeredToHand
  | returnTargeted => Effect.returnTargetedToHand
  | negateAndKill => Effect.negateAndKillAttacker

/-- The creature that was captured: the attacker, and for a trap the first there is of the
card it is aimed at, the attacker and the acting creature. -/
def captured (context : Context) : CapturedEffect → Option CardId
  | stripTrapped | returnTriggered | returnTargeted | negateAndKill =>
    (context.target.bind Target.subject).or (context.attacker.or context.creature)
  | _ => context.attacker

/-- The player to whose hand a creature returns. -/
def recipient (board : Board) (context : Context) (creature : CardId) (stray : Int) : Int :=
  (board.ownerIndex? context.inGame creature).elim stray Int.ofNat

/-- What is asked for when the effect reaches the creature. -/
def request (board : Board) (context : Context) (creature : CardId) : CapturedEffect → Outcome
  | killAttacker => .descriptor "kill_targets" (.cards [creature])
  | damageAttacker damage => .damageCreature creature damage (.text "damage")
  | poisonAttacker => .descriptor "apply_neurotoxic" (.card creature)
  | freezeAttacker => .addKeyword creature (.text "Frozen")
  | webAttacker =>
    if (board.card creature).isWebbed then .nothing else .addKeyword creature (.text "Webbed")
  | onAttackingRole act => act.request creature
  | stripTrapped => .descriptor "remove_abilities" (.card creature)
  | returnTriggered => Effect.returnToHand [creature]
      (some (recipient board context creature (context.playerIndex.getD 0)))
  | returnTargeted => Effect.returnToHand [creature] (some (recipient board context creature 0))
  | negateAndKill => .record [("negate_attack", .bool true), ("kill_targets", .cards [creature])]

/-- What is asked for when no creature was captured. -/
def withoutCreature : CapturedEffect → Outcome
  | negateAndKill => .descriptor "negate_attack" (.bool true)
  | _ => .nothing

/-- A request about the object that the captured creature is found again as, if one was
captured. -/
def requested (board : Board) (context : Context) (captured : Option CardId)
    (request : CardId → Outcome) (otherwise : Outcome) : Outcome :=
  (captured.map fun captured => request (board.refreshed context captured)).getD otherwise

section Runs

variable {board : Board} {context : Context} {request : CardId → Outcome}

theorem upshot_onAttacker {missing : String} {act : Board → CardId → Engine Outcome}
    (acts : ∀ creature, Upshot board False (· = request creature) (act board creature)) :
    Upshot board False (· = requested board context context.attacker request .nothing)
      (Effect.onAttacker missing act context) := by
  refine .reading ?_
  unfold Board.freshAttacker requested
  rcases context.attacker with - | attacker
  · exact .telling (.pure rfl)
  · exact acts (board.refreshed context attacker)

theorem upshot_onRole {missing : String} {act : Board → CardId → Engine Outcome}
    (acts : ∀ creature, Upshot board False (· = request creature) (act board creature)) :
    Upshot board False (· = requested board context context.attacker request .nothing)
      (Effect.onRole (.text "attacker") missing act context) := by
  change Upshot board False _ (Effect.onAttacker missing act context)
  exact upshot_onAttacker acts

theorem upshot_onTrapped {missing : String} {act : Context → Board → CardId → Engine Outcome}
    (acts : ∀ creature, Upshot board False (· = request creature) (act context board creature)) :
    Upshot board False (· = requested board context context.trapCreature request .nothing)
      (Effect.onTrapped missing act context) := by
  refine .reading ?_
  unfold Board.freshTrapCreature requested
  rcases context.trapCreature with - | captured
  · exact .telling (.pure rfl)
  · exact acts (board.refreshed context captured)

theorem upshot_stripTrapped :
    Upshot board False
      (· = requested board context context.trapCreature
        (stripTrapped.request board context) .nothing)
      (Effect.removeTriggeredCreatureAbilities context) :=
  upshot_onTrapped fun _ => .telling (.pure rfl)

theorem upshot_returnTrapped (stray : Context → Int) :
    Upshot board False
      (· = requested board context context.trapCreature
        (fun creature => Effect.returnToHand [creature]
          (some (recipient board context creature (stray context)))) .nothing)
      (Effect.returnTrapped stray context) :=
  upshot_onTrapped fun _ => .telling (.pure rfl)

theorem upshot_inRole (act : RoleEffect) :
    Upshot board False (· = requested board context context.attacker act.request .nothing)
      (act.effect (.text "attacker") context) := by
  have isOther : ¬ (Value.text "attacker").isText "all-friendly" = true := by decide
  cases act with
  | grant keyword =>
      rw [RoleEffect.effect, Effect.grantKeyword, if_neg isOther]
      exact upshot_onRole fun creature => .telling (.pure rfl)
  | buff attack health =>
      rw [RoleEffect.effect, Effect.buffStats, if_neg isOther]
      exact upshot_onRole fun creature => .reading (.telling (.pure rfl))
  | _ => exact upshot_onRole fun creature => .telling (.pure rfl)

theorem upshot_webAttacker :
    Upshot board False
      (· = requested board context context.attacker (webAttacker.request board context) .nothing)
      (Effect.webAttacker context) := by
  refine .reading ?_
  unfold Board.freshAttacker requested
  rcases context.attacker with - | attacker
  · exact .pure rfl
  · refine .reading (.branch (fun isWebbed => ?_) fun isFree => ?_)
    · exact .pure (if_pos isWebbed).symm
    · exact .telling (.pure (if_neg isFree).symm)

theorem upshot_negateAndKill :
    Upshot board False
      (· = requested board context context.trapCreature (negateAndKill.request board context)
        negateAndKill.withoutCreature)
      (Effect.negateAndKillAttacker context) := by
  refine .reading ?_
  unfold Board.freshTrapCreature requested
  rcases context.trapCreature with - | captured
  · exact .telling (.pure rfl)
  · exact .telling (.pure rfl)

end Runs

/-- An effect on a captured creature asks for the object that it is found again as. -/
theorem upshot_effect (board : Board) (context : Context) (effect : CapturedEffect) :
    Upshot board False
      (· = requested board context (effect.captured context) (effect.request board context)
        effect.withoutCreature)
      (effect.effect context) := by
  have trapped : (context.target.bind Target.subject).or (context.attacker.or context.creature) =
      context.trapCreature := by
    simp only [Context.trapCreature, Option.orElse_eq_orElse, Option.orElse_eq_or]
  cases effect with
  | webAttacker => exact upshot_webAttacker
  | onAttackingRole act => exact upshot_inRole act
  | negateAndKill =>
      rw [captured, trapped]
      exact upshot_negateAndKill
  | returnTriggered =>
      rw [captured, trapped]
      exact upshot_returnTrapped fun context => context.playerIndex.getD 0
  | returnTargeted =>
      rw [captured, trapped]
      exact upshot_returnTrapped fun _ => 0
  | stripTrapped =>
      rw [captured, trapped]
      exact upshot_stripTrapped
  | _ => exact upshot_onAttacker fun creature => .telling (.pure rfl)

/-- Every effect on a captured creature asks for the object that the creature is found again
as.  That is the first object of its instance on the rival's field, else the first on the
acting player's, else the captured object, except that the acting player's field goes
before the captured object itself on the rival's. -/
theorem captured_creatures_are_found_again (board : Board) (context : Context) :
    (∀ captured,
      board.refreshed context captured =
        (if board.copyAt context context.opponentIndex captured = some captured then
          board.copyAt context context.playerIndex captured
        else (board.copyAt context context.opponentIndex captured).or
          (board.copyAt context context.playerIndex captured)).getD captured ∧
      (board.refreshed context captured = board.current context captured ↔
        ¬ board.PassesOver context captured)) ∧
    ∀ (effect : CapturedEffect) (session : Session), ∃ after,
      effect.effect context board session =
        (.ok (requested board context (effect.captured context) (effect.request board context)
          effect.withoutCreature), after) := by
  refine ⟨fun captured => ⟨board.refreshed_eq context captured,
    board.refreshed_eq_current_iff context captured⟩, fun effect session => ?_⟩
  obtain ⟨outcome, after, ran, rfl⟩ := (upshot_effect board context effect).exists_ok id session
  exact ⟨after, ran⟩

end CapturedEffect

def eel : CardId := ⟨"eel"⟩

/-- Another object of the same instance. -/
def eelAgain : CardId := ⟨"eel again"⟩

/-- Two fields, and a card that two objects stand for. -/
def eelTable (field rivalField : Places) : Board where
  card id :=
    { cardId := id.key
      instanceId := if id = eelAgain then eel.key else id.key
      name := some id.key }
  players := [{ field }, { field := rivalField }]

/-- The creature is both the attacker and what the ability is aimed at. -/
def facing (creature : CardId) : Context where
  player := some 0
  opponent := some 1
  playerIndex := some 0
  opponentIndex := some 1
  target := some (.card creature)
  attacker := some creature

namespace CapturedEffect

/-- An attacker that still stands on the rival's field is spared, and another object of its
instance is killed on the acting player's field. -/
theorem an_attacker_is_passed_over :
    (eelTable [some eelAgain] [some eel]).current (facing eel) eel = eel ∧
      (eelTable [some eelAgain] [some eel]).refreshed (facing eel) eel = eelAgain ∧
      ∃ after, killAttacker.effect (facing eel) (eelTable [some eelAgain] [some eel])
          { random := .scripted [] 0 } =
        (.ok (.descriptor "kill_targets" (.cards [eelAgain])), after) :=
  ⟨by decide, by decide, _, rfl⟩

end CapturedEffect

/-- No two objects on fields stand for one instance. -/
def Board.InstancesApart (board : Board) : Prop :=
  ∀ (seat other : Nat) (player rival : Player) (card copy : CardId),
    board.players[seat]? = some player → board.players[other]? = some rival →
    card ∈ player.fieldCards → copy ∈ rival.fieldCards →
    (board.card card).instanceId = (board.card copy).instanceId → seat = other ∧ card = copy

namespace Board.InstancesApart

variable {board : Board} {context : Context} {captured copy : CardId} {player : Player}

/-- A search on either field finds the object of the instance that stands on one of them. -/
theorem eq_of_copyAt {index other : Option Int} {found : CardId} (apart : board.InstancesApart)
    (isFound : board.copyAt context index captured = some found)
    (isSeated : board.seated context other = some player) (stands : copy ∈ player.fieldCards)
    (isCopy : (board.card copy).instanceId = (board.card captured).instanceId) : found = copy := by
  obtain ⟨holder, isHolder, isThere⟩ := Option.bind_eq_some_iff.1 isFound
  obtain ⟨member, isSame⟩ := mem_of_findOnField isThere
  obtain ⟨seat, atSeat⟩ := exists_place_of_seated isHolder
  obtain ⟨place, atPlace⟩ := exists_place_of_seated isSeated
  exact (apart seat place holder player found copy atSeat atPlace member stands
    (isSame.trans isCopy.symm)).2

/-- A captured creature that stands on either field is found again as the object there. -/
theorem refreshed_eq_copy {index : Option Int} (apart : board.InstancesApart)
    (isEither : index = context.opponentIndex ∨ index = context.playerIndex)
    (isSeated : board.seated context index = some player) (stands : copy ∈ player.fieldCards)
    (isCopy : (board.card copy).instanceId = (board.card captured).instanceId) :
    board.refreshed context captured = copy := by
  have onlyCopy (other : Option Int) (found : CardId)
      (isFound : board.copyAt context other captured = some found) : found = copy :=
    apart.eq_of_copyAt isFound isSeated stands isCopy
  obtain ⟨found, isFound⟩ : ∃ found, board.copyAt context index captured = some found := by
    obtain ⟨found, isThere⟩ := exists_findOnField stands isCopy
    exact ⟨found, by rw [copyAt, isSeated]; exact isThere⟩
  obtain rfl : found = copy := onlyCopy index found isFound
  rw [refreshed_eq]
  -- The second search decides where the first has found the captured object itself, so what
  -- both have come to has to be known.
  rcases onRival : board.copyAt context context.opponentIndex captured with - | rival
  · obtain rfl | rfl := isEither
    · rw [onRival] at isFound
      cases isFound
    · simp [isFound]
  · obtain rfl : rival = found := onlyCopy _ rival onRival
    rcases onOwn : board.copyAt context context.playerIndex captured with - | own
    · split <;> simp_all
    · obtain rfl : own = rival := onlyCopy _ own onOwn
      simp

/-- The player whose field holds a creature is found under the index of that player. -/
theorem recipient_eq {seat : Nat} {creature : CardId} (apart : board.InstancesApart)
    (inGame : context.inGame = true) (isSeated : board.players[seat]? = some player)
    (stands : creature ∈ player.fieldCards) (stray : Int) :
    CapturedEffect.recipient board context creature stray = seat := by
  have isFirst : board.ownerIndex? context.inGame creature = some seat := by
    obtain ⟨bound, rfl⟩ := List.getElem?_eq_some_iff.1 isSeated
    rw [ownerIndex?, if_pos inGame, List.findIdx?_eq_some_iff_getElem]
    refine ⟨bound, ?_, fun earlier before isThere => ?_⟩
    · obtain ⟨found, isFound⟩ := exists_findOnField stands rfl
      rw [isFound]
      rfl
    · obtain ⟨found, isFound⟩ := Option.isSome_iff_exists.1 isThere
      obtain ⟨member, isSame⟩ := mem_of_findOnField isFound
      have sameSeat := (apart earlier seat _ _ found creature
        (List.getElem?_eq_getElem (Nat.lt_trans before bound)) isSeated member stands isSame).1
      omega
  rw [CapturedEffect.recipient, isFirst]
  rfl

end Board.InstancesApart

/-- A trapped creature that stands on a field returns to the player whose field it is, under
that player's index.  On the two fields that are searched, the creature that returns is
the object that stands there, whichever object of its instance was captured. -/
theorem trapped_creatures_return_to_their_owner {board : Board} {context : Context}
    {captured : CardId} {effect : Effect} (apart : board.InstancesApart)
    (inGame : context.inGame = true) (trapped : context.trapCreature = some captured)
    (returns : effect ∈ [Effect.returnTriggeredToHand, Effect.returnTargetedToHand])
    (session : Session) :
    ∃ creature owner after,
      effect context board session = (.ok (Effect.returnToHand [creature] (some owner)), after) ∧
      (∀ (seat : Nat) player, board.players[seat]? = some player →
        creature ∈ player.fieldCards → owner = seat) ∧
      ∀ index ∈ [context.opponentIndex, context.playerIndex], ∀ player copy,
        board.seated context index = some player → copy ∈ player.fieldCards →
        (board.card copy).instanceId = (board.card captured).instanceId → creature = copy := by
  have isReturn : ∃ stray, effect = Effect.returnTrapped stray := by
    obtain rfl | rfl : effect = _ ∨ effect = _ := by simpa using returns
    · exact ⟨_, rfl⟩
    · exact ⟨_, rfl⟩
  obtain ⟨stray, rfl⟩ := isReturn
  have upshot : Upshot board False _ (Effect.returnTrapped stray context) :=
    CapturedEffect.upshot_returnTrapped stray
  obtain ⟨outcome, after, ran, isRequest⟩ := upshot.exists_ok id session
  rw [trapped] at isRequest
  subst isRequest
  refine ⟨_, _, after, ran, fun seat player isSeated stands => ?_, ?_⟩
  · exact apart.recipient_eq inGame isSeated stands (stray context)
  · intro index isEither player copy isSeated stands isCopy
    exact apart.refreshed_eq_copy (by simpa using isEither) isSeated stands isCopy

theorem instancesApart_of_one_eel : (eelTable [none] [some eelAgain]).InstancesApart := by
  have isOnly : ∀ (seat : Nat) (player : Player) (card : CardId),
      (eelTable [none] [some eelAgain]).players[seat]? = some player →
      card ∈ player.fieldCards → seat = 1 ∧ card = eelAgain := by
    rintro (- | - | seat) player card isPlayer stands
    · cases isPlayer
      cases stands
    · cases isPlayer
      exact ⟨rfl, List.mem_singleton.1 stands⟩
    · cases isPlayer
  intro seat other player rival card copy isPlayer isRival stands standsToo _
  obtain ⟨rfl, rfl⟩ := isOnly seat player card isPlayer stands
  obtain ⟨rfl, rfl⟩ := isOnly other rival copy isRival standsToo
  exact ⟨rfl, rfl⟩

/-- A trap has captured an object that is no longer there; the one on the rival's field
returns to the rival's hand. -/
theorem a_replaced_eel_returns_to_its_owner :
    (eelTable [none] [some eelAgain]).InstancesApart ∧ (facing eel).inGame = true ∧
      (facing eel).trapCreature = some eel ∧
      Effect.returnTargetedToHand ∈
        [Effect.returnTriggeredToHand, Effect.returnTargetedToHand] ∧
      ∃ after, Effect.returnTargetedToHand (facing eel) (eelTable [none] [some eelAgain])
          { random := .scripted [] 0 } =
        (.ok (Effect.returnToHand [eelAgain] (some 1)), after) := by
  have inGame : (facing eel).inGame = true := rfl
  have trapped : (facing eel).trapCreature = some eel := rfl
  have returns : Effect.returnTargetedToHand ∈
      [Effect.returnTriggeredToHand, Effect.returnTargetedToHand] := by simp
  obtain ⟨creature, owner, after, ran, isOwner, isCopy⟩ :=
    trapped_creatures_return_to_their_owner instancesApart_of_one_eel inGame trapped returns
      { random := .scripted [] 0 }
  have stands : eelAgain ∈ Player.fieldCards { field := [some eelAgain] } :=
    List.mem_singleton_self _
  obtain rfl : creature = eelAgain :=
    isCopy (some 1) List.mem_cons_self _ eelAgain rfl stands rfl
  obtain rfl : owner = 1 := isOwner 1 _ rfl stands
  exact ⟨instancesApart_of_one_eel, inGame, trapped, returns, after, ran⟩

end CreatureCards
