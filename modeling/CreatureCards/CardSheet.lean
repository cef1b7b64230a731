import CreatureCards.Card
import CreatureCards.Failure
import CreatureCards.JsonText
import CreatureCards.ValueArithmetic

/-!
# Card sheets

A card as it is authored in a catalog.  Only its id has to be given; the values
of the other fields are taken over whatever they are, and lists and objects are
copied.
-/

namespace CreatureCards

/-- The authored values of a fresh card. -/
structure CardSheet where
  cardId : Value
  name : Value
  printedType : Value
  keywords : List Value
  tribe : Value
  attack : Value
  health : Value
  token : Value
  shellLevel : Value
  effects : Fields

namespace CardSheet

/-- An entry of a list that stands for an object: a key and its value. -/
def pair (entry : Value) : Except Failure (Value × Value) :=
  match entry.elements? with
  | some [key, value] => if key.isContainer then .error .wrongKind else .ok (key, value)
  | some _ => .error .badValue
  | none => .error .wrongKind

/-- The pairs with a value under a key.  A pair whose key is the same one takes
the value and keeps its own spelling of the key. -/
def putPair (key value : Value) : List (Value × Value) → List (Value × Value)
  | [] => [(key, value)]
  | (earlier, held) :: rest =>
    if earlier.sameMember key then (earlier, value) :: rest
    else (earlier, held) :: putPair key value rest

/-- The name of a field under a plain key: a text names itself, and any other
key is named by how it is written. -/
def fieldName : Value → String
  | .text name => name
  | key => key.toJson

/-- Keys have a common order if all are texts or all are numbers.  A key alone
needs none. -/
def haveOrder (keys : List Value) : Bool :=
  keys.length ≤ 1 || keys.all (·.text?.isSome) || keys.all Value.isNumber

/-- The object that pairs stand for.  Its fields are listed by key, so keys
without a common order are refused. -/
def ofPairs (pairs : List (Value × Value)) : Except Failure Fields :=
  let distinct := pairs.foldl (fun held (key, value) => putPair key value held) []
  if haveOrder (distinct.map Prod.fst) then
    .ok (distinct.map fun (key, value) => (fieldName key, value))
  else .error .wrongKind

/-- A copy of an object, which may be given as a list of pairs. -/
def copyObject (value : Value) : Except Failure Fields :=
  match value with
  | .object fields => .ok fields
  | other => do
    let entries ← other.elements?.elim (.error .wrongKind) .ok
    ofPairs (← entries.mapM pair)

def read (authored : Value) : Except Failure CardSheet :=
  match authored with
  | .object fields => do
    let some cardId := fields.lookup "id" | throw .missingField
    let field (key : String) (fallback : Value) : Value := (fields.lookup key).getD fallback
    let keywords ← (field "keywords" (.list [])).elements?.elim (.error .wrongKind) .ok
    let effects ← copyObject (field "effects" (.object []))
    return {
      cardId, keywords, effects
      name := field "name" cardId
      printedType := field "type" (.text CardType.prey.name)
      tribe := field "tribe" .null
      attack := field "atk" (.int 0)
      health := field "hp" (.int 0)
      token := field "isToken" (.bool false)
      shellLevel := field "shellLevel" (.int 0) }
  | _ => throw .wrongKind

end CardSheet

end CreatureCards
