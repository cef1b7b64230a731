import CreatureCards.Validation

/-!
# Validation of cards and catalogs

A card is valid if the definitions under its triggers are; unknown triggers and
empty definitions only raise warnings.  A catalog is valid if its cards are, if
each of them has an id, and if no id is used twice.
-/

namespace CreatureCards

namespace Validation

def definitionErrors (definition : Value) (path : String) : Except Failure (List String) := do
  return (← checkDefinition definition path).errors

def checkTrigger (card trigger : String) (definition : Value) : Checked := do
  let path := s!"{card}.{trigger}"
  let known := if (EffectTrigger.all.map EffectTrigger.name).contains trigger then Findings.none
    else .notice path ("unknown trigger " ++ quoted trigger)
  if !definition.isTruthy then return known ++ .notice path "empty definition"
  return known ++ (← checkDefinition definition path)

def checkCard (card : Value) : Checked :=
  match card with
  | .object _ => do
    let id := ((card.get? "id").getD (.text "<unknown>")).plainForm
    match (card.get "effects").orElse (.object []) with
    | .object effects =>
      return .concat (← effects.mapM fun (trigger, definition) =>
        checkTrigger id trigger definition)
    | _ => return .fault id "effects must be an object keyed by trigger"
  | _ => throw .missingPart

/-- Checks the id of a card against the ids before it, and adds it to them. -/
def checkId (seen : List Value) (card : Value) : Except Failure (Findings × List Value) := do
  if !card.isObject then throw .missingPart
  let id := card.get "id"
  if !id.isTruthy then return ({ errors := ["card without id"] }, seen)
  if id.isContainer then throw .wrongKind
  if seen.any id.sameMember then
    return ({ errors := ["duplicate card id " ++ id.quotedForm] }, seen)
  return (.none, id :: seen)

/-- Checks cards in order, after cards with the ids that were seen. -/
def checkCards (seen : List Value) : List Value → Checked
  | [] => return .none
  | card :: rest => do
    let (own, seen) ← checkId seen card
    let effects ← checkCard card
    return own ++ effects ++ (← checkCards seen rest)

def checkCatalog (catalog : Value) : Checked :=
  match catalog.elements? with
  | some cards => checkCards [] cards
  | none => throw .wrongKind

/-- The findings, unless there are errors among them. -/
def requireValid (findings : Findings) : Checked :=
  if findings.isValid then return findings else throw (.invalidDefinition findings.errors)

end Validation

end CreatureCards
