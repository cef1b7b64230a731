import CreatureCards.Proofs.Elementary
import CreatureCards.ResolverSeat

/-!
# Taking over resolvers

A context that a resolver begins to work on takes it over, unless it carries one
already.  Nothing but a seat changes by that.
-/

namespace CreatureCards

/-- The settings that are found on a seat in this session. -/
def ResolverSeat.held (seat : ResolverSeat) (session : Session) : Option Settings :=
  match seat with
  | taken settings => some settings
  | vacant => none
  | shared place => session.seated place

theorem Context.carried_eq (context : Context) (session : Session) :
    context.carried session = context.resolver.held session :=
  rfl

namespace Context

variable {context : Context}

/-- A context on a shared seat leaves what was taken over there before. -/
theorem adopt_of_shared {place : Nat} (seat : context.resolver = .shared place)
    (settings : Settings) (board : Board) (session : Session) :
    context.adopt settings board session = (.ok context, match session.seated place with
      | some _ => session
      | none => session.occupy place settings) := by
  unfold adopt
  rw [seat]
  change (match session.seated place with
    | some _ => Pure.pure context
    | none => do
      modify fun session => session.occupy place settings
      return context : Engine Context) board session = _
  cases session.seated place with
  | some _ => rfl
  | none => rfl

/-- A context that carries a resolver stays as it is. -/
theorem adopt_of_carried {settings carried : Settings} {session : Session}
    (carries : context.carried session = some carried) (board : Board) :
    context.adopt settings board session = (.ok context, session) := by
  rw [carried_eq] at carries
  cases seat : context.resolver with
  | taken own =>
      unfold adopt
      rw [seat]
      rfl
  | vacant =>
      rw [seat] at carries
      cases carries
  | shared place =>
      rw [seat] at carries
      have seated : session.seated place = some carried := carries
      rw [adopt_of_shared seat, seated]

end Context

/-- The context carries these settings, or none yet. -/
def Context.BelongsTo (context : Context) (settings : Settings) (session : Session) : Prop :=
  context.carried session = none ∨ context.carried session = some settings

theorem Context.BelongsTo.getD_carried {context : Context} {settings : Settings} {session : Session}
    (belongs : context.BelongsTo settings session) :
    (context.carried session).getD settings = settings := by
  obtain none | same := belongs
  · rw [none, Option.getD_none]
  · rw [same, Option.getD_some]

/-- The seat of a context once a resolver with these settings began to work on it. -/
def ResolverSeat.takenBy (seat : ResolverSeat) (settings : Settings) : ResolverSeat :=
  match seat with
  | vacant => .taken settings
  | occupied => occupied

/-- Once a resolver began to work on a context, the context carries that resolver
unless it carried another one, and nothing else is different. -/
theorem Context.exists_adopted (context : Context) (settings : Settings) (board : Board)
    (session : Session) :
    ∃ after,
      context.adopt settings board session =
        (.ok { context with resolver := context.resolver.takenBy settings }, after) ∧
      ({ context with resolver := context.resolver.takenBy settings } : Context).carried after =
        some ((context.carried session).getD settings) ∧
      session.SameRecords after := by
  cases carries : context.carried session with
  | some carried =>
      have same : context.resolver.takenBy settings = context.resolver := by
        rw [Context.carried_eq] at carries
        cases seat : context.resolver with
        | vacant =>
            rw [seat] at carries
            cases carries
        | taken own => rfl
        | shared place => rfl
      rw [same]
      exact ⟨session, Context.adopt_of_carried carries board, carries, .refl session⟩
  | none =>
      rw [Context.carried_eq] at carries
      cases seat : context.resolver with
      | taken own =>
          rw [seat] at carries
          cases carries
      | vacant =>
          refine ⟨session, ?_, rfl, .refl session⟩
          unfold Context.adopt
          rw [seat]
          rfl
      | shared place =>
          rw [seat] at carries
          have unseated : session.seated place = none := carries
          refine ⟨session.occupy place settings, ?_, List.lookup_cons_self, ⟨rfl, rfl, rfl⟩⟩
          rw [Context.adopt_of_shared seat, unseated, ResolverSeat.takenBy, ← seat]
          nofun

end CreatureCards
