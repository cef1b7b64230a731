import CreatureCards.ValueArithmetic

/-!
# Numerals

Whole numbers written as text.  Both readers trim blanks, take a sign and digits
with single underscores between them, and refuse numerals that are too long.
The reader of counts knows the decimal digits of every script.  The reader of
declared whole-number parameters knows the Western ones only.  It accepts zeros
behind a point, and it drops zeros in front together with the underscores among
them; what they stood in front of may have a sign of its own if there was none
before the zeros.
-/

namespace CreatureCards

namespace Numeral

/-- Blanks around a numeral. -/
def isBlank (letter : Char) : Bool :=
  let code := letter.toNat
  (9 ≤ code && code ≤ 13) || code == 32 || code == 133 || code == 160 || code == 5760 ||
    (8192 ≤ code && code ≤ 8202) || code == 8232 || code == 8233 || code == 8239 ||
    code == 8287 || code == 12288

def trimmed (text : List Char) : List Char :=
  ((text.dropWhile isBlank).reverse.dropWhile isBlank).reverse

/-- Code points of the digit zero of each script. -/
def zeroDigits : List Nat :=
  [48, 1632, 1776, 1984, 2406, 2534, 2662, 2790, 2918, 3046, 3174, 3302, 3430, 3558, 3664,
    3792, 3872, 4160, 4240, 6112, 6160, 6470, 6608, 6784, 6800, 6992, 7088, 7232, 7248,
    42528, 43216, 43264, 43472, 43504, 43600, 44016, 65296, 66720, 68912, 69734, 69872,
    69942, 70096, 70384, 70736, 70864, 71248, 71360, 71472, 71904, 72016, 72784, 73040,
    73120, 92768, 92864, 93008, 120782, 120792, 120802, 120812, 120822, 123200, 123632,
    125264, 130032]

/-- The value of a decimal digit of any script. -/
def anyDigit? (letter : Char) : Option Nat :=
  (zeroDigits.find? fun first => first ≤ letter.toNat && letter.toNat < first + 10).map
    (letter.toNat - ·)

/-- Reads digits of any script, behind others that have a value, with single
underscores between them. -/
def digitsFrom (value : Nat) : List Char → Option Nat
  | [] => some value
  | '_' :: letter :: rest =>
    match anyDigit? letter with
    | some digit => digitsFrom (10 * value + digit) rest
    | none => none
  | letter :: rest =>
    match anyDigit? letter with
    | some digit => digitsFrom (10 * value + digit) rest
    | none => none

/-- Reads one digit or more. -/
def digits : List Char → Option Nat
  | [] => none
  | letter :: rest => (anyDigit? letter).bind fun digit => digitsFrom digit rest

def signed : List Char → Option Int
  | '-' :: rest => (digits rest).map fun value => -(value : Int)
  | '+' :: rest => (digits rest).map Int.ofNat
  | text => (digits text).map Int.ofNat

/-- A count written as text; zeros in front add to its length. -/
def count? (text : String) : Option Int :=
  let letters := trimmed text.toList
  if Value.longestNumeral < letters.countP fun letter => (anyDigit? letter).isSome then none
  else signed letters

/-- What follows zeros and underscores, the latest of which is known: a digit or
a sign, or a point that keeps the character before it.  If nothing follows, the
latest of them stands for the number. -/
def behindZeros (latest : Char) : List Char → Option (List Char)
  | [] => some [latest]
  | letter :: rest =>
    if letter = '0' || letter = '_' then behindZeros letter rest
    else if letter.isDigit || letter = '-' then some (letter :: rest)
    else if letter = '.' then some (latest :: letter :: rest)
    else none

/-- Drops the zeros in front of a number. -/
def withoutLeadingZeros : List Char → Option (List Char)
  | [] => none
  | letter :: rest =>
    if letter = '0' then behindZeros letter rest
    else if letter.isDigit then some (letter :: rest)
    else none

/-- Drops a point and the zeros behind it. -/
def withoutZeroFraction (text : List Char) : List Char :=
  let whole := text.takeWhile (· != '.')
  let fraction := text.drop (whole.length + 1)
  if !fraction.isEmpty && fraction.all (· == '0') then whole else text

/-- Two underscores stand side by side. -/
def hasDoubleUnderscore : List Char → Bool
  | '_' :: '_' :: _ => true
  | _ :: rest => hasDoubleUnderscore rest
  | [] => false

def withoutUnderscores (text : List Char) : Option (List Char) :=
  if text.head? = some '_' || text.getLast? = some '_' || hasDoubleUnderscore text then none
  else some (text.filter (· != '_'))

/-- Reads Western digits without a needless zero in front. -/
def plain (text : List Char) : Option Nat :=
  if text.isEmpty || !text.all Char.isDigit then none
  else if text.head? = some '0' && text.length ≠ 1 then none
  else some (text.foldl (fun value letter => 10 * value + (letter.toNat - 48)) 0)

/-- Reads plain digits behind an optional minus; a minus adds to the length. -/
def plainSigned (text : List Char) : Option Int :=
  if Value.longestNumeral < text.length then none
  else match text with
    | '-' :: rest => (plain rest).map fun value => -(value : Int)
    | _ => (plain text).map Int.ofNat

/-- Drops from a number without sign whatever is not needed. -/
def cleaned (text : List Char) : Option (List Char) :=
  (withoutLeadingZeros text).bind fun text => withoutUnderscores (withoutZeroFraction text)

/-- A whole-number parameter written as text. -/
def parameter? (text : String) : Option Int :=
  match trimmed text.toList with
  | '-' :: rest => (cleaned rest).bind fun text => plainSigned ('-' :: text)
  | '+' :: rest => (cleaned rest).bind plainSigned
  | letters => (cleaned letters).bind plainSigned

end Numeral

/-- The number of times something is repeated: fractions are cut toward zero
and numerals are read.  An infinite number is too large, and an undefined one
is no number of times. -/
def Value.toCount : Value → Except Failure Int
  | .int number => .ok number
  | .bool flag => .ok (if flag then 1 else 0)
  | .float number =>
    match Binary.ofBits? number.toBits with
    | some fraction => .ok fraction.truncated
    | none => .error (if number.isNaN then .badValue else .tooLarge)
  | .text content => (Numeral.count? content).elim (.error .badValue) .ok
  | _ => .error .wrongKind

end CreatureCards
