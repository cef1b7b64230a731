import CreatureCards.KeyedList
import CreatureCards.Outcome

/-!
# Merging outcomes

Several effects of one definition come to one outcome.  Descriptors are put
into one record as long as no key collides; a result that collides is kept
whole beside them.  Of several questions the first is asked, and its
continuation is wrapped so that the next one follows whatever the continuation
answers with.  When the continuation asks a question of its own, that one goes
first and the waiting results queue behind it.
-/

namespace CreatureCards

/-- Keys under which a record asks a question. -/
def questionKeys : List String := ["select_target", "select_option"]

/-- The key under which a record keeps results that wait for its question. -/
def pendingKey : String := "pending_selections"

/-- The key under which a record keeps results that collided. -/
def compositeKey : String := "composite"

/-- Keys of the part of a record that a player has to deal with. -/
def chainKeys : List String := questionKeys ++ [pendingKey]

namespace Descriptors

def asks (fields : Descriptors) : Bool :=
  questionKeys.any fun key => KeyedList.has fields key

/-- What can be applied at once. -/
def immediate (fields : Descriptors) : Descriptors :=
  fields.filter fun field => !chainKeys.contains field.1

/-- What a player has to deal with. -/
def prompting (fields : Descriptors) : Descriptors :=
  fields.filter fun field => chainKeys.contains field.1

end Descriptors

namespace Outcome

/-- What stepping through an outcome meets. -/
def elements : Outcome → Except Failure (List Outcome)
  | list items => .ok items
  | record fields => .ok (fields.map fun field => text field.1)
  | value data => (data.elements?.map (·.map value)).elim (.error .wrongKind) .ok
  | _ => .error .wrongKind

/-- Reading the outcome as text, some part of it is the key. -/
def mentions (key : String) : Outcome → Except Failure Bool
  | record fields => .ok (KeyedList.has fields key)
  | list items => .ok (items.any fun
    | value (.text content) => content == key
    | _ => false)
  | value (.text content) => .ok (Value.occursIn key.toList content.toList)
  | _ => .error .wrongKind

def asks (outcome : Outcome) : Except Failure Bool := do
  if !outcome.isTruthy then return false
  if ← outcome.mentions "select_target" then return true
  outcome.mentions "select_option"

def fields : Outcome → Except Failure Descriptors
  | record fields => .ok fields
  | _ => .error .missingPart

def isKeyOf (merged : Descriptors) : Outcome → Except Failure Bool
  | value (.text key) => .ok (KeyedList.has merged key)
  | value (.list _) | value (.object _) => .error .wrongKind
  | list _ | record _ | player _ | ref _ | question _ _ => .error .wrongKind
  | _ => .ok false

def anyKeyOf (merged : Descriptors) : List Outcome → Except Failure Bool
  | [] => .ok false
  | key :: rest => do
    if ← isKeyOf merged key then return true
    anyKeyOf merged rest

/-- A text of two characters read as a key with its payload. -/
def pair : Outcome → Except Failure (String × Outcome)
  | value (.text content) =>
    match content.toList with
    | [key, payload] => .ok (String.singleton key, text (String.singleton payload))
    | _ => .error .badValue
  | _ => .error .wrongKind

/-- The record with everything that the outcome adds to it. -/
def addTo (merged : Descriptors) : Outcome → Except Failure Descriptors
  | record fields => .ok (KeyedList.putAll merged fields)
  | other => do
    let pairs ← (← other.elements).mapM pair
    return KeyedList.putAll merged pairs

/-- A record in the making, and the results that collided with it. -/
structure Merging where
  merged : Descriptors := []
  overflow : List Outcome := []

/-- Merges one more result: nothing changes for an absent one, and a result with
a key that is already there is kept whole. -/
def Merging.add (merging : Merging) (result : Outcome) : Except Failure Merging := do
  if !result.isTruthy then return merging
  if ← anyKeyOf merging.merged (← result.elements) then
    return { merging with overflow := merging.overflow ++ [result] }
  return { merging with merged := ← addTo merging.merged result }

/-- The record with the results that collided behind those it has kept. -/
def Merging.finish (merging : Merging) : Except Failure Descriptors := do
  if merging.overflow.isEmpty then return merging.merged
  let kept ← match merging.merged.lookup compositeKey with
    | some payload => payload.elements
    | none => .ok []
  return KeyedList.put compositeKey (list (kept ++ merging.overflow)) merging.merged

def combine (results : List Outcome) : Except Failure Descriptors := do
  (← results.foldlM Merging.add {}).finish

/-- The results that wait for a question, and further ones behind them. -/
def queued (fields : Descriptors) (behind : List Outcome) : Except Failure Outcome := do
  let waiting ← match fields.lookup pendingKey with
    | some payload => payload.elements
    | none => .ok []
  return list (waiting ++ behind)

/-- Attaches waiting results to what a continuation answered with. -/
def advance (result : Outcome) (pending : List Outcome) : Except Failure Outcome := do
  match pending with
  | [] => return result
  | upcoming :: remaining =>
    if ← result.asks then
      let fields ← addTo [] result
      return record (KeyedList.put pendingKey (← queued fields pending) fields)
    let fields ← upcoming.fields
    let prompt := Descriptors.prompting fields
    let advanced ← combine [result, record (Descriptors.immediate fields)]
    let advanced := KeyedList.putAll advanced prompt
    if remaining.isEmpty then return record advanced
    return record (KeyedList.put pendingKey (← queued prompt remaining) advanced)

def link (prompt : Descriptors) (rest : List Outcome) : Except Failure Descriptors := do
  let key := if KeyedList.has prompt "select_target" then "select_target" else "select_option"
  match prompt.lookup key with
  | some (question inquiry answer) =>
    let linked : Choice → Engine Outcome := fun choice => do
      let result : Outcome ← answer choice
      Engine.orFail (advance result.orNothing rest)
    return KeyedList.put key (question inquiry linked) prompt
  | _ => throw .missingPart

/-- The results of a list of definitions as one outcome. -/
def merge (results : List Outcome) : Except Failure Outcome := do
  match results.filter isTruthy with
  | [] => return nothing
  | [only] => return only
  | present =>
    let marked ← present.mapM fun result => return (← result.asks, result)
    let asking := (marked.filter Prod.fst).map Prod.snd
    let silent := (marked.filter fun entry => !entry.1).map Prod.snd
    match asking with
    | [] => return record (← combine silent)
    | first :: rest =>
      let fields ← first.fields
      let merged ← combine (silent ++ [record (Descriptors.immediate fields)])
      let prompt := Descriptors.prompting fields
      let prompt ← if rest.isEmpty then .ok prompt else link prompt rest
      return record (KeyedList.putAll merged prompt)

/-- The results of a composite effect: none, the only one, or all side by side. -/
def collect (results : List Outcome) : Outcome :=
  match results.filter isTruthy with
  | [] => nothing
  | [only] => only
  | present => descriptor compositeKey (list present)

end Outcome

end CreatureCards
