import CreatureCards.Failure
import CreatureCards.ShortestDecimal
import CreatureCards.Value

/-!
# Arithmetic on authored values

Amounts and counts are authored freely, so arithmetic on them meets any value.
A flag counts as zero or one; whole and floating-point numbers are compared
exactly; a text or a list times a whole number is that many copies of it.
Everything else is a failure of the wrong kind.

There are bounds.  Results are told to players, so a whole number with more
digits than a message can show is out of range.  A whole number beyond all
floating-point numbers cannot be multiplied with one, and neither copies nor
their number can go beyond what can be counted and kept.
-/

namespace CreatureCards

namespace Value

/-- The whole number that a value counts as. -/
def whole? : Value → Option Int
  | int number => some number
  | bool flag => some (if flag then 1 else 0)
  | _ => none

def isNumber : Value → Bool
  | int _ | bool _ | float _ => true
  | _ => false

def isOne (value : Value) : Bool :=
  match value with
  | float number => number == 1.0
  | other => other.whole? == some 1

def exceedsOne (value : Value) : Bool :=
  match value with
  | float number => 1.0 < number
  | other => other.whole?.any (1 < ·)

/-- The value is a number no greater than the bound. -/
def atMost (value : Value) (bound : Int) : Except Failure Bool :=
  match value with
  | float number =>
    match Binary.ofBits? number.toBits with
    | some fraction => .ok (fraction.atMost bound)
    | none => .ok (number < 0)
  | other =>
    match other.whole? with
    | some number => .ok (number ≤ bound)
    | none => .error .wrongKind

/-- The greatest number of digits that a whole number has in a message. -/
def longestNumeral : Nat := 4300

/-- A computed number, if it is not too long to be shown. -/
def shown (number : Int) : Except Failure Int :=
  if number.natAbs < Nat.pow 10 longestNumeral then .ok number else .error .badValue

def nearest (number : Int) : Except Failure Float :=
  let approximate := Float.ofInt number
  if (Binary.ofBits? approximate.toBits).isSome then .ok approximate else .error .tooLarge

/-- Numbers of copies and lengths of texts stay below this bound. -/
def countLimit : Int := 0x8000000000000000

/-- The greatest number of characters or entries that copies have room for. -/
def room : Nat := Nat.pow 2 27

/-- Some number of copies of a text or a list; none for a negative number. -/
def copies (count : Int) : Value → Except Failure Value
  | text content =>
    let size := content.length * count.toNat
    if count < -countLimit || countLimit ≤ count || countLimit ≤ size then .error .tooLarge
    else if room < size then .error .noRoom
    else if size = 0 then .ok (text "")
    else .ok (text (String.join (List.replicate count.toNat content)))
  | list items =>
    let size := items.length * count.toNat
    if count < -countLimit || countLimit ≤ count then .error .tooLarge
    else if room < size then .error .noRoom
    else if size = 0 then .ok (list [])
    else .ok (list (List.replicate count.toNat items).flatten)
  | _ => .error .wrongKind

/-- A whole number times a value that is none. -/
def scaled (count : Int) : Value → Except Failure Value
  | float number => do return float ((← nearest count) * number)
  | other => copies count other

def times (left right : Value) : Except Failure Value :=
  match left.whole?, right.whole? with
  | some first, some second => (shown (first * second)).map int
  | some count, none => scaled count right
  | none, some count => scaled count left
  | none, none =>
    match left, right with
    | float first, float second => .ok (float (first * second))
    | _, _ => .error .wrongKind

/-- The two values are the same as set members: numbers by value, the undefined
number among them, texts by content, null and nothing else. -/
def sameMember (left right : Value) : Bool :=
  match left, right with
  | null, null => true
  | text first, text second => first == second
  | float first, float second => first == second || (first.isNaN && second.isNaN)
  | float first, other => other.whole?.any fun number => isWhole first number
  | other, float second => other.whole?.any fun number => isWhole second number
  | first, second => first.whole?.isSome && first.whole? == second.whole?
where
  /-- The floating-point number is this whole number. -/
  isWhole (number : Float) (whole : Int) : Bool :=
    (Binary.ofBits? number.toBits).any fun fraction =>
      fraction.isWhole && fraction.truncated == whole

end Value

end CreatureCards
