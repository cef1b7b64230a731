import CreatureCards.InvocationDepth
import CreatureCards.Warning

/-!
# Readings of definitions

Before anything happens, a definition is read: it asks for nothing, for several
definitions in order, or for an effect type with parameters that fit.  Anything
else is reported, with the type that is not known or the reason why the
definition cannot be used.  A definition that is read never nests one that is as
deep as itself.
-/

namespace CreatureCards

/-- What a definition amounts to. -/
inductive Reading where
  /-- An absent or empty definition. -/
  | nothing
  /-- A list of definitions. -/
  | sequence (definitions : List Value)
  /-- An effect type with parameters that fit. -/
  | invocation (asked : Invocation Value)
  /-- An effect type that does not exist. -/
  | unknown (type : Value)
  /-- A definition that cannot be used. -/
  | malformed (cause : Malformation)
  /-- A definition whose parameters have no parts where parts are looked for. -/
  | unreadable (failure : Failure)

def Reading.ofBinding (kind : EffectKind) : Except Failure (Invocation Value) → Reading
  | .ok asked => .invocation asked
  | .error failure =>
    match failure with
    | .invalidDefinition errors => .malformed (.breaksRule kind.name ("; ".intercalate errors))
    | .wrongKind | .badValue | .missingField | .invalidShape => .malformed (.unfit kind.name)
    | _ => .unreadable failure

/-- Reads a definition. -/
def Reading.ofValue (definition : Value) : Reading :=
  if !definition.isTruthy then .nothing
  else match definition with
    | .list items => .sequence items
    | .object _ =>
      let type := definition.get "type"
      match EffectKind.ofValue? type with
      | some kind => .ofBinding kind (Invocation.bind kind (definition.get "params"))
      | none => .unknown type
    | other => .malformed (.notDefinition other.kindName)

def Reading.definitions : Reading → List Value
  | .sequence definitions => definitions
  | .invocation asked => asked.definitions
  | _ => []

/-- What a binding nests is no deeper than the parameters. -/
theorem depth_le_of_mem_ofBinding {kind : EffectKind} {params definition : Value}
    (member : definition ∈ (Reading.ofBinding kind (Invocation.bind kind params)).definitions) :
    definition.depth ≤ params.depth := by
  cases bound : Invocation.bind kind params with
  | ok asked =>
    rw [bound] at member
    exact Invocation.depth_le_of_bind bound member
  | error failure =>
    rw [bound] at member
    cases failure <;> cases member

/-- A definition is deeper than those it nests. -/
theorem depth_lt_of_mem_definitions {definition nested : Value}
    (member : nested ∈ (Reading.ofValue definition).definitions) :
    nested.depth < definition.depth := by
  unfold Reading.ofValue at member
  split at member
  · cases member
  · split at member
    · exact Value.depth_lt_of_mem member
    · rename_i fields _
      simp only at member
      split at member
      · exact Nat.lt_of_le_of_lt (depth_le_of_mem_ofBinding member)
          (Value.depth_get_object_lt fields _)
      · cases member
    · cases member

end CreatureCards
