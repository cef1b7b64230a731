import CreatureCards.Proofs.Adoption
import CreatureCards.Proofs.NamedArguments

/-!
# Scaled draws

Five effects draw a card for each creature that counts, up to a cap from the settings that
govern the context.  Where no creature counts they say so and do nothing.  They look for
creatures before the cap is applied, so a cap below one is not noticed: instead of doing
nothing they ask for no card, or for fewer than none.
-/

namespace CreatureCards

open Engine

/-- An effect that draws a card for each of certain creatures. -/
inductive ScaledDraw where
  | webbed
  | stalking
  | pride
  | shell
  | molt

namespace ScaledDraw

variable (draw : ScaledDraw)

def kind : ScaledDraw → EffectKind
  | webbed => .drawPerWebbed
  | stalking => .drawPerStalking
  | pride => .drawPerPride
  | shell => .drawPerShell
  | molt => .drawPerMolt

/-- Which creatures count.  A web counts on creatures whose keywords are suppressed, the
other keywords do not. -/
def counts : ScaledDraw → Card → Bool
  | webbed, card => card.bears Keyword.webbed.name
  | stalking, card => card.stalking
  | pride, card => card.abilitiesActive && card.bears Keyword.pride.name
  | shell, card => card.abilitiesActive && card.bears Keyword.shell.name
  | molt, card => card.abilitiesActive && card.bears Keyword.molt.name

/-- Whose creatures are looked at. -/
def owner : ScaledDraw → Context → Board → Option Player
  | webbed => Context.rival
  | _ => Context.actor

def count (board : Board) (context : Context) : Nat :=
  (draw.owner context board).elim 0 fun player => board.countCreatures player.field draw.counts

def noun : ScaledDraw → String
  | webbed => "Webbed"
  | stalking => "stalking"
  | pride => "Pride"
  | shell => "Shell"
  | molt => "Molt"

/-- What the effect comes to where so many creatures count, under this cap. -/
def outcome (count : Nat) (cap : Int) : Outcome :=
  if count = 0 then .nothing else .descriptor "draw" (.int (min (count : Int) cap))

theorem orNothing_outcome (count : Nat) (cap : Int) :
    (outcome count cap).orNothing = outcome count cap := by
  unfold outcome
  split <;> rfl

/-- What the player is told where no creature counts. -/
def missing : ScaledDraw → String
  | webbed => "No Webbed creatures - no cards drawn."
  | draw => s!"No {draw.noun} creatures - no cards drawn."

/-- What the player is told about a draw. -/
def told : ScaledDraw → Int → String
  | webbed, drawn => s!"Drawing {drawn} card(s) for Webbed enemies."
  | draw, drawn => s!"Drawing {drawn} card(s) for {draw.noun} creatures."

def message (count : Nat) (cap : Int) : String :=
  if count = 0 then draw.missing else draw.told (min (count : Int) cap)

/-- The draw is between one and the cap and no larger than the number of creatures that
count, if there is one. -/
def Bounded (count : Nat) (cap : Int) (outcome : Outcome) : Prop :=
  outcome = .nothing ∨
    ∃ drawn : Int, outcome = .descriptor "draw" (.int drawn) ∧ 1 ≤ drawn ∧ drawn ≤ cap ∧
      drawn ≤ count

/-- The bounds hold exactly if no creature counts or the cap allows for a card. -/
theorem bounded_outcome_iff (count : Nat) (cap : Int) :
    Bounded count cap (outcome count cap) ↔ count = 0 ∨ 1 ≤ cap := by
  by_cases none : count = 0
  · subst none
    exact iff_of_true (.inl rfl) (.inl rfl)
  rw [outcome, if_neg none, Bounded]
  constructor
  · rintro (isNothing | ⟨drawn, same, positive, atMost, -⟩)
    · cases isNothing
    · right
      omega
  · rintro (isNone | allowed)
    · exact absurd isNone none
    · exact .inr ⟨_, rfl, by omega, by omega, by omega⟩

/-- The creatures that count, as the effect collects them. -/
def pool : ScaledDraw → Board → Context → List CardId
  | webbed => Board.webbedEnemies
  | stalking => Board.friendlyWith Card.stalking
  | pride => Board.friendlyWith Card.hasPride
  | shell => Board.friendlyWith Card.hasShell
  | molt => Board.friendlyWith Card.hasMolt

theorem length_pool (board : Board) (context : Context) :
    (draw.pool board context).length = draw.count board context := by
  have among (player? : Option Player) (rule : Card → Bool) :
      ((player?.elim [] board.creatures).filter fun id => rule (board.card id)).length =
        player?.elim 0 fun player => board.countCreatures player.field rule := by
    cases player? <;> rfl
  cases draw <;> exact among _ _

theorem rule_eq (react : Reactor) (argument : Nat → Value) :
    draw.kind.rule react argument =
      Effect.onPool draw.pool draw.missing fun context creatures => do
        let drawn ← Effect.cappedDraw context creatures.length
        announce (draw.told drawn)
        return .descriptor "draw" (.int drawn) := by
  cases draw <;> rfl

/-- The effect by itself, under the settings that the context carries or the usual ones. -/
theorem run_rule (react : Reactor) (argument : Nat → Value) (context : Context) (board : Board)
    (session : Session) {cap : Int}
    (capped : ((context.carried session).getD {}).maxScaledDraw = cap) :
    draw.kind.rule react argument context board session =
      (.ok (outcome (draw.count board context) cap),
        session.announce (draw.message (draw.count board context) cap)) := by
  have unfolded : draw.kind.rule react argument context board session =
      (if (draw.pool board context).isEmpty then do
        announce draw.missing
        return .nothing
      else do
        let drawn ← Effect.cappedDraw context (draw.pool board context).length
        announce (draw.told drawn)
        return .descriptor "draw" (.int drawn) : Engine Outcome) board session := by
    rw [rule_eq]
    rfl
  rw [unfolded, ← length_pool, ← capped]
  cases draw.pool board context <;> rfl

theorem exists_direct_of_bind {params : Value} {asked : Invocation Value}
    (bound : Invocation.bind draw.kind params = .ok asked) :
    ∃ arguments, asked = .direct draw.kind arguments := by
  have takes : draw.kind.takesArguments = true := by cases draw <;> rfl
  rw [EffectKind.bind_of_takesArguments takes] at bound
  obtain ⟨arguments, -, made⟩ := bind_eq_ok.1 bound
  refine ⟨arguments, ?_⟩
  cases draw <;> exact (Except.ok.inj made).symm

end ScaledDraw

/-- What the five effects come to, for every cap: run by themselves under the settings that
the context carries or the usual ones, and resolved under those that it carries or the
resolver's own.  If no creature counts they do nothing, and otherwise they draw a card for
each, up to the cap; either way the player is told and no random number is drawn.  That is
nothing or a draw between one and the cap exactly if no creature counts or the cap allows
for a card. -/
theorem scaled_draws_stop_at_the_cap (draw : ScaledDraw) (react : Reactor) (settings : Settings)
    (context : Context) (board : Board) (session : Session) :
    let count := draw.count board context
    (∀ argument, let cap := ((context.carried session).getD {}).maxScaledDraw
      draw.kind.rule react argument context board session =
        (.ok (ScaledDraw.outcome count cap), session.announce (draw.message count cap))) ∧
    (∀ {definition params : Value} {asked : Invocation Value}, definition.Asks draw.kind params →
      Invocation.bind draw.kind params = .ok asked →
      let cap := ((context.carried session).getD settings).maxScaledDraw
      ∃ after, resolveWith react definition settings context board session =
          (.ok (ScaledDraw.outcome count cap), after) ∧
        after.log = session.log ++ [draw.message count cap] ∧ after.random = session.random) ∧
    ∀ cap, ScaledDraw.Bounded count cap (ScaledDraw.outcome count cap) ↔ count = 0 ∨ 1 ≤ cap := by
  intro count
  refine ⟨fun argument => draw.run_rule react argument context board session rfl, ?_,
    ScaledDraw.bounded_outcome_iff count⟩
  intro definition params asked asks bound cap
  obtain ⟨arguments, rfl⟩ := draw.exists_direct_of_bind bound
  obtain ⟨after, adopted, carried, same⟩ := context.exists_adopted settings board session
  have read : Reading.ofValue definition = .invocation (.direct draw.kind arguments) := by
    rw [asks.reading, bound]
    rfl
  have ran := draw.run_rule react (fun place => arguments.getD place .null)
    { context with resolver := context.resolver.takenBy settings } board after
    (congrArg (fun found => (found.getD {}).maxScaledDraw) carried)
  have unmoved :
      draw.count board { context with resolver := context.resolver.takenBy settings } = count := by
    cases draw <;> rfl
  rw [unmoved] at ran
  rw [resolveWith_of_invocation read, bind_of_ok adopted]
  refine ⟨after.announce (draw.message count cap), (bind_of_ok ran).trans ?_, ?_, same.random.symm⟩
  · rw [ScaledDraw.orNothing_outcome]
    rfl
  · rw [Session.announce, same.log]

/-- The rival has a creature in a web. -/
def webbedBoard : Board where
  card id := { cardId := id.key, instanceId := id.key, keywords := ["Webbed"] }
  players := [{}, { field := [some ⟨"fly"⟩, none, none] }]

theorem count_webbedBoard (context : Context) (rival : context.opponent = some 1) :
    ScaledDraw.webbed.count webbedBoard context = 1 := by
  simp only [ScaledDraw.count, ScaledDraw.owner, Context.rival, rival]
  decide +kernel

/-- Under the usual settings it draws a card. -/
theorem a_creature_in_a_web_draws_a_card :
    let context : Context := { player := some 0, opponent := some 1 }
    let definition : Value := .object [("type", .text "drawPerWebbed")]
    let session : Session := { random := .scripted [] 0 }
    (definition.Asks .drawPerWebbed .null ∧
      Invocation.bind .drawPerWebbed .null = .ok (.direct .drawPerWebbed [])) ∧
    ∃ after, resolve definition {} context webbedBoard session =
      (.ok (.descriptor "draw" (.int 1)), after) := by
  intro context definition session
  have asks : definition.Asks .drawPerWebbed .null := ⟨rfl, rfl, rfl⟩
  have bound : Invocation.bind .drawPerWebbed .null = .ok (.direct .drawPerWebbed []) := rfl
  obtain ⟨-, resolved, -⟩ :=
    scaled_draws_stop_at_the_cap .webbed (reactWithin reactionPatience) {} context
    webbedBoard session
  obtain ⟨after, ran, -⟩ := resolved asks bound
  rw [count_webbedBoard context rfl] at ran
  exact ⟨⟨asks, bound⟩, after, ran⟩

/-- A creature in a web counts, but a cap of zero makes of it a draw of no card. -/
theorem a_cap_of_zero_draws_no_card :
    let context : Context := { player := some 0, opponent := some 1 }
    let definition : Value := .object [("type", .text "drawPerWebbed")]
    let settings : Settings := { maxScaledDraw := 0 }
    let session : Session := { random := .scripted [] 0 }
    ScaledDraw.webbed.count webbedBoard context = 1 ∧
    ∃ after, resolve definition settings context webbedBoard session =
        (.ok (.descriptor "draw" (.int 0)), after) ∧
      after.log = ["Drawing 0 card(s) for Webbed enemies."] ∧
        ¬ ScaledDraw.Bounded 1 settings.maxScaledDraw (.descriptor "draw" (.int 0)) := by
  intro context definition settings session
  have read : Reading.ofValue definition = .invocation (.direct .drawPerWebbed []) := rfl
  refine ⟨count_webbedBoard context rfl, session.announce "Drawing 0 card(s) for Webbed enemies.",
    ?_, rfl, ?_⟩
  · rw [resolve, resolveWith_of_invocation read]
    rfl
  · rintro (isNothing | ⟨drawn, -, positive, atMost, -⟩)
    · cases isNothing
    · have atMost : drawn ≤ 0 := atMost
      omega

end CreatureCards
