import CreatureCards.Outcome

/-!
# Outcomes of scripts

What a result written out by hand stands for.  The choices of a scripted
question are numbered, and each leads to its own scripted result, whatever the
board looks like by then.
-/

namespace CreatureCards

namespace Script

def candidates (choices : List String) : List Candidate :=
  choices.zipIdx.map fun (label, place) => { label := some label, value := .number place }

def entries (choices : List String) : List MenuEntry :=
  choices.zipIdx.map fun (label, place) => { id := toString place, label }

def inquiry (form : ScriptedForm) (title : String) (choices : List String) : Inquiry :=
  match form with
  | .listed => .pick { title, source := .listed (candidates choices) }
  | .produced => .pick { title, source := .produced fun _ => .ok (candidates choices) }
  | .options => .menu { title, entries := entries choices }

/-- The place of a choice among the choices of a scripted question. -/
def place? : Choice → Option Nat
  | .number place => some place
  | .option place => some place
  | _ => none

def chosen (follow : List Outcome) (choice : Choice) : Engine Outcome :=
  match place? choice with
  | some place => (follow[place]?).elim (throw .missingEntry) pure
  | none => throw .wrongKind

mutual

def outcome : Script → Outcome
  | value data => .value data
  | card id => .card id
  | list items => .list (outcomes items)
  | record fields => .record (outcomeFields fields)
  | question form title choices follow =>
    .question (inquiry form title choices) (chosen (outcomes follow))

def outcomes : List Script → List Outcome
  | [] => []
  | item :: rest => outcome item :: outcomes rest

def outcomeFields : List (String × Script) → Descriptors
  | [] => []
  | (key, field) :: rest => (key, outcome field) :: outcomeFields rest

end

end Script

end CreatureCards
