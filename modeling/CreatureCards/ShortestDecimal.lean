/-!
# Shortest decimals

A binary fraction is written with the fewest decimal digits that read back as
the same fraction; of two such decimals with equally many digits the nearer one
is taken, and an exact tie goes to the even digit.  The search is done in exact
arithmetic on natural numbers: for one digit, two digits, and so on, the two
neighbours of the value on the decimal grid are held against the interval of
numbers that round to the value.  How digits and exponent are laid out is a
separate decision, kept in one record.
-/

namespace CreatureCards

/-- A finite binary fraction `mantissa * 2 ^ exponent` with its sign. -/
structure Binary where
  negative : Bool
  mantissa : Nat
  exponent : Int
  /-- The neighbour below is half as far away as the one above. -/
  narrowBelow : Bool

namespace Binary

/-- The fraction that a pattern of 64 bits stands for, if it is finite. -/
def ofBits? (bits : UInt64) : Option Binary :=
  let code : Nat := bits.toNat
  let negative := code >>> 63 == 1
  let scale : Nat := (code >>> 52) % 2048
  let rest : Nat := code % 0x10000000000000
  if scale = 2047 then none
  else if scale = 0 then some ⟨negative, rest, -1074, false⟩
  else some ⟨negative, 0x10000000000000 + rest, (scale : Int) - 1075, rest == 0 && scale != 1⟩

/-- Numerator of a quarter of the distance between neighbours. -/
def quarter (value : Binary) : Nat :=
  Nat.pow 2 (value.exponent - 2).toNat

/-- The common denominator of the value and of the ends of its interval. -/
def denominator (value : Binary) : Nat :=
  Nat.pow 2 (2 - value.exponent).toNat

def numerator (value : Binary) : Nat :=
  4 * value.mantissa * value.quarter

def lower (value : Binary) : Nat :=
  (4 * value.mantissa - if value.narrowBelow then 1 else 2) * value.quarter

def upper (value : Binary) : Nat :=
  (4 * value.mantissa + 2) * value.quarter

/-- The value compared with a whole number: `m * 2 ^ e ≤ bound`. -/
def atMost (value : Binary) (bound : Int) : Bool :=
  let signed : Int := if value.negative then -value.mantissa else value.mantissa
  signed * Nat.pow 2 value.exponent.toNat ≤ bound * Nat.pow 2 (-value.exponent).toNat

/-- The whole part, cut toward zero. -/
def truncated (value : Binary) : Int :=
  let whole := (value.mantissa <<< value.exponent.toNat) >>> (-value.exponent).toNat
  if value.negative then -(whole : Int) else whole

/-- The fraction has no digits behind the point. -/
def isWhole (value : Binary) : Bool :=
  (value.mantissa <<< value.exponent.toNat) % Nat.pow 2 (-value.exponent).toNat == 0

end Binary

/-- The decimal `digits * 10 ^ exponent`. -/
structure Decimal where
  digits : Nat
  exponent : Int

namespace Decimal

def width (number : Nat) : Nat :=
  (Nat.toDigits 10 number).length

def leadingZeros (numerator denominator : Nat) : Nat → Nat
  | 0 => 0
  | fuel + 1 =>
    if denominator ≤ numerator then 0
    else leadingZeros (10 * numerator) denominator fuel + 1

/-- The exponent `k` with `10 ^ (k - 1) ≤ numerator / denominator < 10 ^ k`. -/
def magnitude (numerator denominator : Nat) : Int :=
  if denominator ≤ numerator then width (numerator / denominator)
  else 1 - (leadingZeros numerator denominator 400 : Int)

/-- The decimal lies in the interval of numbers that round to the value; the
ends belong to it when the mantissa is even. -/
def roundsTo (decimal : Decimal) (value : Binary) : Bool :=
  let scaled := decimal.digits * Nat.pow 10 decimal.exponent.toNat * value.denominator
  let grid := Nat.pow 10 (-decimal.exponent).toNat
  let low := value.lower * grid
  let high := value.upper * grid
  if value.mantissa % 2 = 0 then low ≤ scaled && scaled ≤ high
  else low < scaled && scaled < high

/-- Twice the distance of the value from the decimal below it on the grid,
against one step of the grid. -/
def nearer (below : Decimal) (value : Binary) : Ordering :=
  let step := Nat.pow 10 below.exponent.toNat * value.denominator
  let offset := value.numerator * Nat.pow 10 (-below.exponent).toNat - below.digits * step
  compare (2 * offset) step

/-- The decimal with `count` digits that reads back as the value, if there is
one. -/
def withDigits? (value : Binary) (count : Nat) : Option Decimal :=
  let exponent := magnitude value.numerator value.denominator - count
  let floor := value.numerator * Nat.pow 10 (-exponent).toNat /
    (value.denominator * Nat.pow 10 exponent.toNat)
  let below : Decimal := ⟨floor, exponent⟩
  let above : Decimal := ⟨floor + 1, exponent⟩
  match below.roundsTo value, above.roundsTo value with
  | true, false => some below
  | false, true => some above
  | false, false => none
  | true, true =>
    match nearer below value with
    | .lt => some below
    | .gt => some above
    | .eq => if floor % 2 = 0 then some below else some above

def shortest (value : Binary) : Decimal :=
  if value.mantissa = 0 then ⟨0, 0⟩
  else ((List.range 17).findSome? fun count => withDigits? value (count + 1)).getD
    ⟨value.mantissa, value.exponent⟩

/-- Digits of the decimal without closing zeros. -/
def significant (decimal : Decimal) : List Char :=
  let digits := (Nat.toDigits 10 decimal.digits).reverse.dropWhile (· == '0')
  if digits.isEmpty then ['0'] else digits.reverse

/-- Place of the first digit: the decimal is `d.ddd * 10 ^ leading`. -/
def leading (decimal : Decimal) : Int :=
  if decimal.digits = 0 then 0 else width decimal.digits - 1 + decimal.exponent

end Decimal

/-- Which leading places are written without an exponent. -/
structure DecimalLayout where
  lowest : Int
  highest : Int
  /-- The least number of digits of a written exponent. -/
  exponentWidth : Nat

namespace DecimalLayout

/-- Digits with a point behind the first `whole` of them; a whole number keeps
one zero behind the point. -/
def positional (digits : List Char) (whole : Int) : List Char :=
  if whole ≤ 0 then
    '0' :: '.' :: List.replicate (-whole).toNat '0' ++ digits
  else
    let front := digits.take whole.toNat
    let back := digits.drop whole.toNat
    front ++ List.replicate (whole.toNat - digits.length) '0' ++ '.' ::
      (if back.isEmpty then ['0'] else back)

/-- Digits with a point behind the first one and a signed exponent. -/
def scientific (layout : DecimalLayout) (digits : List Char) (leading : Int) : List Char :=
  let exponent := Nat.toDigits 10 leading.natAbs
  digits.take 1 ++ (if digits.length = 1 then [] else '.' :: digits.drop 1) ++
    ['e', if leading < 0 then '-' else '+'] ++
    List.replicate (layout.exponentWidth - exponent.length) '0' ++ exponent

/-- A decimal as written under the layout. -/
def write (layout : DecimalLayout) (decimal : Decimal) : List Char :=
  let digits := decimal.significant
  let leading := decimal.leading
  if layout.lowest ≤ leading && leading ≤ layout.highest then positional digits (leading + 1)
  else layout.scientific digits leading

end DecimalLayout

/-- Authored fractions are written without an exponent from four places behind
the point up to sixteen before it; exponents have two digits at least. -/
def authoredLayout : DecimalLayout := ⟨-4, 15, 2⟩

def floatText (number : Float) : String :=
  match Binary.ofBits? number.toBits with
  | some value =>
    let digits := authoredLayout.write (Decimal.shortest value)
    String.ofList (if value.negative then '-' :: digits else digits)
  | none =>
    if number.isNaN then "nan" else if number < 0 then "-inf" else "inf"

end CreatureCards
