/-!
# Authored values

Card data is authored as nested values: an effect definition, its parameters
and whatever a parameter holds.  Whole numbers have any size and are told apart
from floating-point numbers, and an object keeps its fields in order.

The depth of a value bounds everything that walks definitions: a field, an
entry of a list and anything below them is strictly less deep than the value
that holds it.
-/

namespace CreatureCards

/-- A value as it stands in card data. -/
inductive Value where
  | null
  | bool (flag : Bool)
  | int (number : Int)
  | float (number : Float)
  | text (content : String)
  | list (items : List Value)
  | object (fields : List (String × Value))
  deriving Inhabited

/-- The fields of an authored object, in order. -/
abbrev Fields := List (String × Value)

namespace Value

/-- Values that count as present: not null, false, zero, or empty. -/
def isTruthy : Value → Bool
  | null => false
  | bool flag => flag
  | int number => number != 0
  | float number => number != 0.0
  | text content => content != ""
  | list items => !items.isEmpty
  | object fields => !fields.isEmpty

/-- The value itself if it is present, the replacement otherwise. -/
def orElse (value replacement : Value) : Value :=
  if value.isTruthy then value else replacement

def get? : Value → String → Option Value
  | object fields, key => fields.lookup key
  | _, _ => none

/-- The field of an object, null if it is absent. -/
def get (value : Value) (key : String) : Value :=
  (value.get? key).getD null

def has (value : Value) (key : String) : Bool :=
  (value.get? key).isSome

def ofInt? (number : Option Int) : Value :=
  number.elim null int

def ofText? (content : Option String) : Value :=
  content.elim null text

def text? : Value → Option String
  | text content => some content
  | _ => none

/-- The value is exactly this text. -/
def isText (value : Value) (content : String) : Bool :=
  value.text? == some content

def isContainer : Value → Bool
  | list _ | object _ => true
  | _ => false

def isObject : Value → Bool
  | object _ => true
  | _ => false

/-- The letters of a text occur in one piece in another one. -/
def occursIn (part : List Char) : List Char → Bool
  | [] => part.isEmpty
  | letter :: rest => part.isPrefixOf (letter :: rest) || occursIn part rest

def characters (content : String) : List Value :=
  content.toList.map fun letter => text (String.singleton letter)

/-- What stepping through the value meets: entries of a list, characters of a
text, field names of an object.  The other values cannot be stepped through. -/
def elements? : Value → Option (List Value)
  | list items => some items
  | text content => some (characters content)
  | object fields => some (fields.map fun field => text field.1)
  | _ => none

mutual

/-- How deeply lists and objects are nested in a value. -/
def depth : Value → Nat
  | list items => depthItems items + 1
  | object fields => depthFields fields + 1
  | _ => 0

def depthItems : List Value → Nat
  | [] => 0
  | item :: rest => max item.depth (depthItems rest)

def depthFields : List (String × Value) → Nat
  | [] => 0
  | (_, field) :: rest => max field.depth (depthFields rest)

end

@[simp]
theorem depth_list (items : List Value) : (list items).depth = depthItems items + 1 := by
  simp [depth]

@[simp]
theorem depth_object (fields : Fields) : (object fields).depth = depthFields fields + 1 := by
  simp [depth]

@[simp]
theorem depth_text (content : String) : (text content).depth = 0 := by
  simp [depth]

@[simp]
theorem depth_null : null.depth = 0 := by
  simp [depth]

theorem depth_le_depthItems {item : Value} {items : List Value} (member : item ∈ items) :
    item.depth ≤ depthItems items := by
  induction items with
  | nil => cases member
  | cons head rest ih =>
    rw [depthItems]
    cases member with
    | head => exact Nat.le_max_left _ _
    | tail _ deeper => exact Nat.le_trans (ih deeper) (Nat.le_max_right _ _)

theorem depth_le_depthFields {key : String} {field : Value} {fields : Fields}
    (found : fields.lookup key = some field) : field.depth ≤ depthFields fields := by
  induction fields with
  | nil => simp at found
  | cons head rest ih =>
    obtain ⟨name, value⟩ := head
    rw [depthFields]
    rw [List.lookup_cons] at found
    split at found
    · cases found
      exact Nat.le_max_left _ _
    · exact Nat.le_trans (ih found) (Nat.le_max_right _ _)

theorem depth_lt_of_mem {item : Value} {items : List Value} (member : item ∈ items) :
    item.depth < (list items).depth := by
  rw [depth_list]
  exact Nat.lt_succ_of_le (depth_le_depthItems member)

theorem depth_lt_of_get? {value field : Value} {key : String}
    (found : value.get? key = some field) : field.depth < value.depth := by
  cases value with
  | object fields =>
    rw [depth_object]
    exact Nat.lt_succ_of_le (depth_le_depthFields found)
  | _ => simp [get?] at found

/-- A field, or the null that stands for an absent one, is no deeper than its
object. -/
theorem depth_get_le (value : Value) (key : String) : (value.get key).depth ≤ value.depth := by
  rw [get]
  cases found : value.get? key with
  | none => simp
  | some field => exact Nat.le_of_lt (depth_lt_of_get? found)

/-- A field of an object, or the null that stands for an absent one, is less
deep than the object. -/
theorem depth_get_object_lt (fields : Fields) (key : String) :
    ((object fields).get key).depth < (object fields).depth := by
  rw [get]
  cases found : (object fields).get? key with
  | none => simp
  | some field => exact depth_lt_of_get? found

/-- Whatever has a present field is deeper than each of its fields. -/
theorem depth_get_lt {value : Value} {key : String} (present : (value.get key).isTruthy)
    (other : String) : (value.get other).depth < value.depth := by
  cases value with
  | object fields => exact depth_get_object_lt fields other
  | _ => simp [get, get?, isTruthy] at present

/-- Whatever stepping through a value meets is less deep, texts apart. -/
theorem depth_elements? {value item : Value} {items : List Value}
    (stepped : value.elements? = some items) (member : item ∈ items) :
    item.depth < value.depth ∨ item.depth = 0 := by
  cases value with
  | list entries =>
    cases stepped
    exact Or.inl (depth_lt_of_mem member)
  | text content =>
    cases stepped
    obtain ⟨letter, -, rfl⟩ := List.mem_map.1 member
    exact Or.inr (depth_text _)
  | object fields =>
    cases stepped
    obtain ⟨field, -, rfl⟩ := List.mem_map.1 member
    exact Or.inr (depth_text _)
  | _ => cases stepped

end Value

end CreatureCards
