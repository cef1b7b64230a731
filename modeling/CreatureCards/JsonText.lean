import CreatureCards.ShortestDecimal
import CreatureCards.Value

/-!
# Card data as JSON text

Card data is stored as JSON.  A number with a point or an exponent is a
floating-point number, and any other number is a whole number of any size; the
fields of an object keep their order.  Reading uses up at least one character
for each step, so the length of the text bounds it.
-/

namespace CreatureCards

namespace JsonText

/-- What may stand between values. -/
def isSpace (letter : Char) : Bool :=
  letter == ' ' || letter == '\t' || letter == '\n' || letter == '\r'

def skipSpace (text : List Char) : List Char :=
  text.dropWhile isSpace

/-- The rest of a text that begins with these letters. -/
def after? (letters text : List Char) : Option (List Char) :=
  if letters.isPrefixOf text then some (text.drop letters.length) else none

def hexDigit? (letter : Char) : Option Nat :=
  if letter.isDigit then some (letter.toNat - '0'.toNat)
  else if 'a' ≤ letter && letter ≤ 'f' then some (letter.toNat - 'a'.toNat + 10)
  else if 'A' ≤ letter && letter ≤ 'F' then some (letter.toNat - 'A'.toNat + 10)
  else none

/-- Four hexadecimal digits and the rest. -/
def readUnit : List Char → Option (Nat × List Char)
  | a :: b :: c :: d :: rest => do
    let digits ← [a, b, c, d].mapM hexDigit?
    return (digits.foldl (fun number digit => 16 * number + digit) 0, rest)
  | _ => none

/-- The first of two units that stand for one character. -/
def isHighUnit (unit : Nat) : Bool :=
  0xD800 ≤ unit && unit < 0xDC00

def readEscape : List Char → Option (Char × List Char)
  | 'n' :: rest => some ('\n', rest)
  | 't' :: rest => some ('\t', rest)
  | 'r' :: rest => some ('\r', rest)
  | 'b' :: rest => some (Char.ofNat 8, rest)
  | 'f' :: rest => some (Char.ofNat 12, rest)
  | 'u' :: rest => do
    let (unit, rest) ← readUnit rest
    if !isHighUnit unit then return (Char.ofNat unit, rest)
    let (low, rest) ← readUnit (← after? ['\\', 'u'] rest)
    return (Char.ofNat (0x10000 + (unit - 0xD800) * 0x400 + (low - 0xDC00)), rest)
  | letter :: rest => some (letter, rest)
  | [] => none

def readLetters : (fuel : Nat) → List Char → Option (List Char × List Char)
  | 0, _ => none
  | _, [] => none
  | _ + 1, '"' :: rest => some ([], rest)
  | fuel + 1, '\\' :: rest => do
    let (letter, rest) ← readEscape rest
    let (letters, rest) ← readLetters fuel rest
    return (letter :: letters, rest)
  | fuel + 1, letter :: rest => do
    let (letters, rest) ← readLetters fuel rest
    return (letter :: letters, rest)

def natural (digits : List Char) : Nat :=
  digits.foldl (fun number digit => 10 * number + (digit.toNat - '0'.toNat)) 0

/-- A whole number with an optional sign. -/
def signed : List Char → Int
  | '-' :: digits => -natural digits
  | '+' :: digits => natural digits
  | digits => natural digits

/-- A number without sign that has a point or an exponent. -/
def scientific (letters : List Char) : Float :=
  let whole := letters.takeWhile Char.isDigit
  let (fraction, rest) := match letters.dropWhile Char.isDigit with
    | '.' :: rest => (rest.takeWhile Char.isDigit, rest.dropWhile Char.isDigit)
    | rest => ([], rest)
  let exponent := signed (rest.drop 1) - fraction.length
  Float.ofScientific (natural (whole ++ fraction)) (exponent < 0) exponent.natAbs

/-- Letters of which numbers consist. -/
def isNumeral (letter : Char) : Bool :=
  letter.isDigit || ['-', '+', '.', 'e', 'E'].contains letter

def number (letters : List Char) : Value :=
  if letters.any fun letter => ['.', 'e', 'E'].contains letter then
    match letters with
    | '-' :: rest => .float (-scientific rest)
    | _ => .float (scientific letters)
  else .int (signed letters)

def readNumber (text : List Char) : Option (Value × List Char) :=
  let letters := text.takeWhile isNumeral
  if letters.isEmpty then none else some (number letters, text.dropWhile isNumeral)

/-- Words that stand for values. -/
def words : List (String × Value) :=
  [("null", .null), ("true", .bool true), ("false", .bool false), ("NaN", .float (0.0 / 0.0)),
    ("Infinity", .float (1.0 / 0.0)), ("-Infinity", .float (-1.0 / 0.0))]

def readWord (text : List Char) : Option (Value × List Char) :=
  words.findSome? fun (word, value) => (after? word.toList text).map fun rest => (value, rest)

mutual

def readValue : (fuel : Nat) → List Char → Option (Value × List Char)
  | 0, _ => none
  | fuel + 1, text =>
    match skipSpace text with
    | '"' :: rest => do
      let (letters, rest) ← readLetters fuel rest
      return (.text (String.ofList letters), rest)
    | '[' :: rest => do
      let (items, rest) ← readItems fuel (skipSpace rest)
      return (.list items, rest)
    | '\x7b' :: rest => do
      let (fields, rest) ← readFields fuel (skipSpace rest)
      return (.object fields, rest)
    | rest => readWord rest <|> readNumber rest

def readItems : (fuel : Nat) → List Char → Option (List Value × List Char)
  | 0, _ => none
  | _ + 1, ']' :: rest => some ([], rest)
  | fuel + 1, ',' :: rest => readItems fuel (skipSpace rest)
  | fuel + 1, text => do
    let (item, rest) ← readValue fuel text
    let (items, rest) ← readItems fuel (skipSpace rest)
    return (item :: items, rest)

def readFields : (fuel : Nat) → List Char → Option (Fields × List Char)
  | 0, _ => none
  | _ + 1, '\x7d' :: rest => some ([], rest)
  | fuel + 1, ',' :: rest => readFields fuel (skipSpace rest)
  | fuel + 1, '"' :: rest => do
    let (key, rest) ← readLetters fuel rest
    let (field, rest) ← readValue fuel (← after? [':'] (skipSpace rest))
    let (fields, rest) ← readFields fuel (skipSpace rest)
    return ((String.ofList key, field) :: fields, rest)
  | _, _ => none

end

/-- A letter as it stands between quotes. -/
def escape (letter : Char) : List Char :=
  if letter == '"' then ['\\', '"']
  else if letter == '\\' then ['\\', '\\']
  else if letter.toNat < 0x20 then
    let code := Nat.toDigits 16 letter.toNat
    '\\' :: 'u' :: List.replicate (4 - code.length) '0' ++ code
  else [letter]

def quotedLetters (content : String) : String :=
  "\"" ++ String.ofList (content.toList.flatMap escape) ++ "\""

def floatLetters (number : Float) : String :=
  if number.isNaN then "NaN"
  else if number.isInf then (if number > 0.0 then "Infinity" else "-Infinity")
  else floatText number

mutual

def write : Value → String
  | .null => "null"
  | .bool flag => if flag then "true" else "false"
  | .int number => toString number
  | .float number => floatLetters number
  | .text content => quotedLetters content
  | .list items => "[" ++ ",".intercalate (writeItems items) ++ "]"
  | .object fields => "\x7b" ++ ",".intercalate (writeFields fields) ++ "\x7d"

def writeItems : List Value → List String
  | [] => []
  | item :: rest => write item :: writeItems rest

def writeFields : List (String × Value) → List String
  | [] => []
  | (key, field) :: rest => (quotedLetters key ++ ":" ++ write field) :: writeFields rest

end

end JsonText

def Value.ofJson? (text : String) : Option Value := do
  let (value, rest) ← JsonText.readValue (text.length + 1) text.toList
  if (JsonText.skipSpace rest).isEmpty then return value else none

def Value.toJson (value : Value) : String :=
  JsonText.write value

end CreatureCards
