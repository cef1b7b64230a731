import CreatureCards.EffectKind
import CreatureCards.Failure

/-!
# Rule sets

A rule set says which effect types have a rule.  A game only accepts a rule set
that leaves no effect type without one.
-/

namespace CreatureCards

/-- A choice of rules that covers every effect type. -/
structure RuleSet where
  kinds : List EffectKind
  complete : ∀ kind ∈ EffectKind.all, kind ∈ kinds

namespace RuleSet

def missing (kinds : List EffectKind) : List EffectKind :=
  EffectKind.all.filter fun kind => kind ∉ kinds

/-- Accepts rules for these effect types if none is missing. -/
def ofKinds (kinds : List EffectKind) : Except Failure RuleSet :=
  if complete : ∀ kind ∈ EffectKind.all, kind ∈ kinds then .ok ⟨kinds, complete⟩
  else .error (.invalidDefinition ((missing kinds).map fun kind =>
    "No binding for effect type " ++ quoted kind.name))

def standard : RuleSet := ⟨EffectKind.all, fun _ member => member⟩

def size (rules : RuleSet) : Nat :=
  rules.kinds.length

end RuleSet

end CreatureCards
