import CreatureCards.Failure

/-!
# Random numbers

A game draws its random numbers either from a scripted cycle or from a
Mersenne Twister of 624 words of 32 bits that is seeded with the words of a
whole number.  A number below a bound takes as many leading bits of one output
as the bound has and is drawn again while it is too large.
-/

namespace CreatureCards

/-- State of the generator: its words and how many of them are used up. -/
structure Twister where
  words : Array UInt32
  used : Nat

namespace Twister

def size : Nat := 624

def ofWord (seed : UInt32) : Array UInt32 :=
  (List.range (size - 1)).foldl
    (fun words index =>
      let last := words.getD index 0
      words.push ((last ^^^ (last >>> 30)) * 1812433253 + UInt32.ofNat (index + 1)))
    #[seed]

/-- Words being mixed, the place of the next one, and the place in the key. -/
structure Mixing where
  words : Array UInt32
  place : Nat
  keyPlace : Nat

/-- Goes on to the next word; after the last one the state is closed to a ring. -/
def Mixing.advance (mixing : Mixing) : Mixing :=
  if mixing.place + 1 < size then { mixing with place := mixing.place + 1 }
  else { mixing with words := mixing.words.setIfInBounds 0 (mixing.words.getD (size - 1) 0),
                     place := 1 }

/-- The word before the current one, scrambled. -/
def Mixing.scrambled (mixing : Mixing) : UInt32 :=
  let last := mixing.words.getD (mixing.place - 1) 0
  last ^^^ (last >>> 30)

/-- Mixes one word of the key into the state. -/
def Mixing.mixKey (key : Array UInt32) (mixing : Mixing) : Mixing :=
  let word := (mixing.words.getD mixing.place 0 ^^^ (mixing.scrambled * 1664525)) +
    key.getD mixing.keyPlace 0 + UInt32.ofNat mixing.keyPlace
  let mixed := { mixing with
    words := mixing.words.setIfInBounds mixing.place word
    keyPlace := if mixing.keyPlace + 1 < key.size then mixing.keyPlace + 1 else 0 }
  mixed.advance

/-- Mixes the state once more, without the key. -/
def Mixing.mixPlace (mixing : Mixing) : Mixing :=
  let word := (mixing.words.getD mixing.place 0 ^^^ (mixing.scrambled * 1566083941)) -
    UInt32.ofNat mixing.place
  let mixed := { mixing with words := mixing.words.setIfInBounds mixing.place word }
  mixed.advance

def ofWords (key : Array UInt32) : Twister :=
  let start : Mixing := ⟨ofWord 19650218, 1, 0⟩
  let keyed := (List.range (max size key.size)).foldl (fun mixing _ => mixing.mixKey key) start
  let placed := (List.range (size - 1)).foldl (fun mixing _ => mixing.mixPlace) keyed
  ⟨placed.words.setIfInBounds 0 2147483648, size⟩

/-- The words of a number, low ones first; at least one. -/
def wordsOf (number : Nat) : Array UInt32 :=
  let count := max 1 ((number.log2 + 32) / 32)
  (Array.range count).map fun place => UInt32.ofNat (number >>> (32 * place))

/-- The generator seeded with a number; its sign does not matter. -/
def ofSeed (seed : Int) : Twister :=
  ofWords (wordsOf seed.natAbs)

def regenerated (words : Array UInt32) (place : Nat) : UInt32 :=
  let joined := (words.getD place 0 &&& 2147483648) |||
    (words.getD ((place + 1) % size) 0 &&& 2147483647)
  let twist : UInt32 := if joined &&& 1 = 1 then 2567483615 else 0
  words.getD ((place + 397) % size) 0 ^^^ (joined >>> 1) ^^^ twist

/-- The next state, with all of its words unused. -/
def regenerate (words : Array UInt32) : Array UInt32 :=
  (List.range size).foldl
    (fun next place => next.setIfInBounds place (regenerated next place)) words

/-- Spreads the bits of a word of the state over an output. -/
def temper (word : UInt32) : UInt32 :=
  let first := word ^^^ (word >>> 11)
  let second := first ^^^ ((first <<< 7) &&& 2636928640)
  let third := second ^^^ ((second <<< 15) &&& 4022730752)
  third ^^^ (third >>> 18)

def next (state : Twister) : UInt32 × Twister :=
  let ready : Twister := if state.used < size then state else ⟨regenerate state.words, 0⟩
  (temper (ready.words.getD ready.used 0), { ready with used := ready.used + 1 })

/-- Draws until a number is below the bound, a number of times at most; the
last draw is reduced. -/
def drawBelow (bound : Nat) : Nat → Twister → Nat × Twister
  | 0, state => (0, state)
  | tries + 1, state =>
    let (output, after) := state.next
    let drawn := output.toNat >>> (32 - (bound.log2 + 1))
    if drawn < bound then (drawn, after)
    else if tries = 0 then (drawn % bound, after)
    else drawBelow bound tries after

end Twister

/-- Where a game takes its random numbers from. -/
inductive RandomSource where
  /-- A cycle of numbers, and how many were drawn. -/
  | scripted (numbers : List Int) (drawn : Nat)
  | twister (state : Twister)

namespace RandomSource

/-- A number of tries that no fair source is seen to use up. -/
def patience : Nat := 4096

/-- A number from zero up to the bound, the bound excluded, and the source
after the draw.  A cycle answers with remainders, which have the sign of the
bound; the twister knows positive bounds alone. -/
def draw (source : RandomSource) (bound : Int) : Except Failure (Int × RandomSource) :=
  match source with
  | scripted numbers drawn =>
    match numbers[drawn % numbers.length]? with
    | some number =>
      if bound = 0 then .error .zeroDivisor
      else .ok (number.fmod bound, scripted numbers (drawn + 1))
    | none => .error .zeroDivisor
  | twister state =>
    if bound ≤ 0 then .error .badValue
    else
      let (number, after) := state.drawBelow bound.toNat patience
      .ok (number, twister after)

end RandomSource

end CreatureCards
