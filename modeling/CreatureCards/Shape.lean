import CreatureCards.LetterCase
import CreatureCards.Numeral

/-!
# Reading declared shapes

Parameters with a structure of their own are read against a declared shape.
Reading is lenient where the meaning is plain: a whole number may be written as
a flag, as a float without a fraction or as a numeral, and a flag as a zero or
one or as one of a few words.  Fields without a declaration are ignored.
-/

namespace CreatureCards

namespace Shape

/-- Reads an authored value as something declared. -/
abbrev Reader (α : Type) := Value → Except Failure α

def any : Reader Value := .ok

def fields : Reader Fields
  | .object fields => .ok fields
  | _ => .error .invalidShape

def text : Reader String
  | .text content => .ok content
  | _ => .error .invalidShape

/-- Magnitude from which floats no longer count as whole numbers. -/
def wholeLimit : Int := 0x8000000000000000

def whole : Reader Int
  | .int number => .ok number
  | .bool flag => .ok (if flag then 1 else 0)
  | .float number =>
    match Binary.ofBits? number.toBits with
    | some fraction =>
      if fraction.isWhole && -wholeLimit < fraction.truncated &&
          fraction.truncated < wholeLimit then .ok fraction.truncated
      else .error .invalidShape
    | none => .error .invalidShape
  | .text content => (Numeral.parameter? content).elim (.error .invalidShape) .ok
  | _ => .error .invalidShape

def affirmatives : List String := ["1", "true", "t", "yes", "y", "on"]

def negatives : List String := ["0", "false", "f", "no", "n", "off"]

def flag : Reader Bool
  | .bool value => .ok value
  | .int 0 => .ok false
  | .int 1 => .ok true
  | .float number =>
    if number == 0.0 then .ok false
    else if number == 1.0 then .ok true
    else .error .invalidShape
  | .text content =>
    if affirmatives.contains (lowerCase content) then .ok true
    else if negatives.contains (lowerCase content) then .ok false
    else .error .invalidShape
  | _ => .error .invalidShape

def orNull {α : Type} (read : Reader α) : Reader (Option α)
  | .null => .ok none
  | value => (read value).map some

def list {α : Type} (read : Reader α) : Reader (List α)
  | .list items => items.mapM read
  | _ => .error .invalidShape

/-- The first of the keys that the object has, with its field. -/
def find? (fields : Fields) (keys : List String) : Option (String × Value) :=
  keys.findSome? fun key => (fields.lookup key).map fun field => (key, field)

/-- A field that must be given under one of the keys. -/
def required {α : Type} (fields : Fields) (keys : List String) (read : Reader α) :
    Except Failure α :=
  match find? fields keys with
  | some (_, field) => read field
  | none => .error .invalidShape

/-- A field that may be given under one of the keys. -/
def optional {α : Type} (fields : Fields) (keys : List String) (fallback : α)
    (read : Reader α) : Except Failure α :=
  match find? fields keys with
  | some (_, field) => read field
  | none => .ok fallback

/-- The fields that no declaration reads. -/
def undeclared (fields : Fields) (declared : List (List String)) : Fields :=
  let used := declared.filterMap fun keys => (find? fields keys).map Prod.fst
  fields.filter fun field => !used.contains field.1

end Shape

end CreatureCards
