import CreatureCards.QuotedText
import CreatureCards.ShortestDecimal
import CreatureCards.Value

/-!
# Authored values in messages

Player-facing messages and warnings show authored values as text.  A text
stands for itself in the plain form and between quotes in the quoted form; in
both forms the parts of lists and objects are quoted.
-/

namespace CreatureCards

namespace Value

/-- Form of a value that holds no others and is not a text. -/
def scalarText : Value → String
  | bool true => "True"
  | bool false => "False"
  | int number => toString number
  | float number => floatText number
  | _ => "None"

mutual

def quotedForm : Value → String
  | text content => quoted content
  | list items => "[" ++ quotedItems items ++ "]"
  | object fields => "\x7b" ++ quotedFields fields ++ "\x7d"
  | other => other.scalarText

def quotedItems : List Value → String
  | [] => ""
  | [item] => item.quotedForm
  | item :: rest => item.quotedForm ++ ", " ++ quotedItems rest

def quotedFields : List (String × Value) → String
  | [] => ""
  | [(key, field)] => quoted key ++ ": " ++ field.quotedForm
  | (key, field) :: rest =>
    quoted key ++ ": " ++ field.quotedForm ++ ", " ++ quotedFields rest

end

/-- The plain form of a value: a text stands for itself. -/
def plainForm : Value → String
  | text content => content
  | other => other.quotedForm

instance : ToString Value := ⟨plainForm⟩

/-- How a message names the kind of a value that is no definition. -/
def kindName : Value → String
  | null => "NoneType"
  | bool _ => "bool"
  | int _ => "int"
  | float _ => "float"
  | text _ => "str"
  | list _ => "list"
  | object _ => "dict"

end Value

end CreatureCards
