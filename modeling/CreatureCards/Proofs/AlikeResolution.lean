import CreatureCards.Proofs.AlikeInvocation
import CreatureCards.Proofs.UsableDefinition

/-!
# Resolutions in accord

Two resolvers resolve every definition in accord, in contexts that differ in their
resolvers only: the induction is on the depth of the definition, since what is
nested is resolved in continuations as well.  So cards react alike, however long the
chain of reactions that is followed.
-/

namespace CreatureCards

open Engine

variable {pairing : Pairing} {react other : Reactor}

namespace Script

mutual

/-- What a script stands for is alike to itself, whatever is answered. -/
theorem alike : ∀ script : Script, Outcome.Alike pairing script.outcome script.outcome
  | .value data => by
      rw [outcome]
      exact .value data
  | .card id => by
      rw [outcome]
      exact .card id
  | .list items => by
      rw [outcome]
      exact .list (alike_items items)
  | .record fields => by
      rw [outcome]
      exact .record (alike_fields fields)
  | .question form title choices follow => by
      rw [outcome]
      refine .question fun choice => ?_
      have answers := alike_items follow
      unfold chosen
      split
      · rename_i place _
        have found := getElem?_of_forall₂ answers place
        generalize (outcomes follow)[place]? = answer at found ⊢
        cases found with
        | none => exact .throw fun _ => id
        | some isAlike => exact .pure isAlike
      · exact .throw fun _ => id

theorem alike_items :
    ∀ items : List Script, Outcome.AllAlike pairing (outcomes items) (outcomes items)
  | [] => by
      rw [outcomes]
      exact .nil
  | item :: rest => by
      rw [outcomes]
      exact .cons (alike item) (alike_items rest)

theorem alike_fields : ∀ fields : List (String × Script),
    Descriptors.Alike pairing (outcomeFields fields) (outcomeFields fields)
  | [] => by
      rw [outcomeFields]
      exact .nil
  | (key, field) :: rest => by
      rw [outcomeFields]
      exact .cons ⟨rfl, alike field⟩ (alike_fields rest)

end

end Script

theorem Settings.Matches.governing {α : Type} {parts : Bool}
    {own otherOwn carried otherCarried : Settings} (matching : own.Matches parts otherOwn)
    (suited : carried.Matches parts otherCarried) (asked : Invocation α) :
    (asked.governing own carried).Matches parts (asked.governing otherOwn otherCarried) := by
  unfold Invocation.governing
  split
  · exact suited
  · exact matching

namespace Accords

variable {settings otherSettings : Settings}
  (matching : settings.Matches pairing.parts otherSettings)

include matching

theorem refuseUnknown (type : Value) : Accords pairing (Outcome.Alike pairing)
    (CreatureCards.refuseUnknown settings type)
      (CreatureCards.refuseUnknown otherSettings type) := by
  have refuses : (Failure.unknownEffect type.plainForm).RefusesDefinition := trivial
  have reports : (Warning.unknownEffect type).ReportsDefinition := trivial
  exact refuse .nothing matching refuses reports

theorem refuseMalformed (cause : Malformation) : Accords pairing (Outcome.Alike pairing)
    (CreatureCards.refuseMalformed settings cause)
      (CreatureCards.refuseMalformed otherSettings cause) := by
  have refuses : (Failure.invalidDefinition [cause.text]).RefusesDefinition := trivial
  have reports : (Warning.malformed cause).ReportsDefinition := trivial
  exact refuse .nothing matching refuses reports

end Accords

/-- Resolvers whose settings match resolve a definition in accord, among cards that
react alike. -/
theorem accords_resolveWith (reacts : react.Accords pairing other) (definition : Value)
    {settings otherSettings : Settings} (matching : settings.Matches pairing.parts otherSettings) :
    Effect.Accords pairing (resolveWith react definition settings)
      (resolveWith other definition otherSettings) := by
  intro context counterpart contexts
  cases read : Reading.ofValue definition with
  | nothing =>
      rw [resolveWith_of_nothing read, resolveWith_of_nothing read]
      exact (Accords.adopt contexts _ _).bind fun _ _ _ => .pure .nothing
  | sequence definitions =>
      rw [resolveWith_of_sequence read, resolveWith_of_sequence read]
      refine (Accords.adopt contexts _ _).bind fun adopted otherAdopted areAdopted => ?_
      refine (Accords.mapM (List.forall₂_same.2 fun nested member => ?_)).bind fun _ _ alike =>
        .merge alike
      exact accords_resolveWith reacts nested matching adopted otherAdopted areAdopted
  | invocation asked =>
      rw [resolveWith_of_invocation read, resolveWith_of_invocation read]
      refine (Accords.adopt contexts _ _).bind fun adopted otherAdopted areAdopted => .orNothing ?_
      refine Invocation.accords_effect reacts asked
        (fun nested member => ?_) adopted otherAdopted areAdopted
      exact accords_resolveWith reacts nested (matching.governing pairing.suited asked)
  | unknown type =>
      rw [resolveWith_of_unknown read, resolveWith_of_unknown read]
      exact (Accords.adopt contexts _ _).bind fun _ _ _ => .refuseUnknown matching type
  | malformed cause =>
      rw [resolveWith_of_malformed read, resolveWith_of_malformed read]
      exact (Accords.adopt contexts _ _).bind fun _ _ _ => .refuseMalformed matching cause
  | unreadable failure =>
      rw [resolveWith_of_unreadable read, resolveWith_of_unreadable read]
      exact (Accords.adopt contexts _ _).bind fun _ _ _ =>
        .throw fun _ => Reading.not_refuses_of_unreadable read
termination_by definition.depth
decreasing_by
  all_goals
    apply depth_lt_of_mem_definitions
    rw [‹Reading.ofValue definition = _›]
    assumption

theorem silent_echo (context : Context) : (echo context).silent = true := by
  cases target : context.target with
  | none => simp [echo, target, Outcome.null]
  | some aimed => cases aimed <;> simp [echo, target, Target.outcome, Outcome.silent]

/-- Cards react alike in contexts that differ in their resolvers only. -/
theorem accords_reactWithin (patience : Nat) :
    Reactor.Accords pairing (reactWithin patience) (reactWithin patience) := by
  induction patience with
  | zero =>
      intro card context counterpart contexts
      refine .reading fun board => ?_
      exact .ite (fun _ => .throw fun _ => id) fun _ => .pure (.value .null)
  | succ patience ih =>
      intro card context counterpart contexts
      refine .reading fun board => ?_
      split
      · exact .pure (.value .null)
      · exact .throw fun _ => id
      · rename_i definition _
        exact Resolution.accords_withOwnResolver (accords_resolveWith ih definition pairing.suited)
          _ _ contexts
      · obtain ⟨seat, rfl⟩ := contexts.exists_seat
        exact .straight (.pure (silent_echo context))
      · exact .pure (Script.alike _)

section Adoption

variable {definition : Value} {settings : Settings} {context : Context} {session : Session}
  {board : Board}

/-- Whatever a resolver does with a definition, it does with the context that it
adopted. -/
theorem resolveWith_of_adopted {adopted : Context} {after : Session}
    (first : context.adopt settings board session = (.ok adopted, after))
    (again : adopted.adopt settings board after = (.ok adopted, after)) :
    resolveWith react definition settings context board session =
      resolveWith react definition settings adopted board after := by
  rw [resolveWith, resolveWith, bind_of_ok first, bind_of_ok again]

end Adoption

end CreatureCards
