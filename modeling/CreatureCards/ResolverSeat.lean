import CreatureCards.Outcome

/-!
# Resolvers of contexts

A context carries the resolver that its nested definitions are resolved with.
A context without one takes over the first resolver that works on it; contexts
that share a seat take over together, through the session.
-/

namespace CreatureCards

namespace Session

/-- The settings that contexts on the seat have taken over. -/
def seated (session : Session) (seat : Nat) : Option Settings :=
  session.seats.lookup seat

/-- The session after contexts on the seat took over the settings. -/
def occupy (session : Session) (seat : Nat) (settings : Settings) : Session :=
  { session with seats := (seat, settings) :: session.seats }

end Session

namespace Context

/-- The settings of the resolver that the context carries in this session. -/
def carried (context : Context) (session : Session) : Option Settings :=
  match context.resolver with
  | .taken settings => some settings
  | .vacant => none
  | .shared seat => session.seated seat

/-- The context with its own copy of the resolver it carries now. -/
def settled (context : Context) (session : Session) : Context :=
  { context with resolver := (context.carried session).elim .vacant .taken }

/-- The settings an effect works under: those of the context's resolver, or the
usual ones. -/
def settings (context : Context) : Engine Settings := do
  return (context.carried (← get)).getD {}

/-- A copy of the context that later changes to a shared seat do not reach. -/
def derived (context : Context) : Engine Context := do
  return context.settled (← get)

/-- The context after a resolver with these settings began to work on it. -/
def adopt (context : Context) (settings : Settings) : Engine Context := do
  match context.resolver with
  | .taken _ => return context
  | .vacant => return { context with resolver := .taken settings }
  | .shared seat =>
    match (← get).seated seat with
    | some _ => return context
    | none =>
      modify fun session => session.occupy seat settings
      return context

end Context

/-- An effect definition ready to be resolved under given settings. -/
abbrev Resolution := Settings → Effect

/-- Resolves a definition with the resolver that the context carries; without
one, with the usual settings. -/
def Resolution.withOwnResolver (definition : Resolution) : Effect := fun context => do
  let settings ← context.settings
  definition settings (← context.adopt settings)

end CreatureCards
