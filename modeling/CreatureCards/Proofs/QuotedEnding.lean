import CreatureCards.ValueText
import Mathlib

/-!
# Texts that end in a quotation

Many messages about card data end in a quoted text.  Inside a quotation the mark in use
stands behind a backslash, so behind a blank there is none, and a text is read off from
behind in one way only: what stands before the quotation at its end is determined.
Other values than texts do not end in a quotation mark in a message.
-/

namespace CreatureCards

namespace QuotedText

def isMark (letter : Char) : Bool :=
  letter == '\'' || letter == '"'

/-- The letters of a text, quotation marks left out. -/
def Unmarked (letters : List Char) : Prop :=
  ∀ letter ∈ letters, isMark letter = false

theorem isMark_quoteFor (text : List Char) : isMark (quoteFor text) = true := by
  unfold quoteFor
  split <;> rfl

theorem ne_of_unmarked {quote letter : Char} (mark : isMark quote = true)
    (bare : isMark letter = false) : letter ≠ quote := by
  rintro rfl
  rw [mark] at bare
  cases bare

theorem isMark_hexDigit : ∀ digit < 16, isMark (hexDigit digit) = false := by
  decide

theorem unmarked_hexDigits (code width : Nat) : Unmarked (hexDigits code width) := by
  induction width generalizing code with
  | zero => exact fun letter member => nomatch member
  | succ width ih =>
      intro letter member
      rw [hexDigits] at member
      cases List.mem_append.1 member with
      | inl earlier => exact ih (code / 16) letter earlier
      | inr last =>
          obtain rfl := List.mem_singleton.1 last
          exact isMark_hexDigit _ (Nat.mod_lt _ (by decide))

/-- Wherever the quotation mark in use stands, a backslash stands before it. -/
def Sheltered (quote : Char) (letters : List Char) : Prop :=
  letters.IsChain (fun before letter => letter = quote → before = '\\') ∧
    ∀ first ∈ letters.head?, first ≠ quote

theorem Sheltered.append {quote : Char} {letters others : List Char}
    (sheltered : Sheltered quote letters) (shelteredOthers : Sheltered quote others) :
    Sheltered quote (letters ++ others) := by
  refine ⟨List.isChain_append.2 ⟨sheltered.1, shelteredOthers.1, ?_⟩, ?_⟩
  · intro last _ first isFirst same
    exact absurd same (shelteredOthers.2 first isFirst)
  · intro first isFirst
    cases letters with
    | nil => exact shelteredOthers.2 first isFirst
    | cons head rest => exact sheltered.2 first isFirst

theorem Sheltered.of_unmarked {quote : Char} {letters : List Char} (mark : isMark quote = true)
    (unmarked : Unmarked letters) : Sheltered quote letters := by
  induction letters with
  | nil => exact ⟨.nil, fun first isFirst => nomatch isFirst⟩
  | cons head rest ih =>
      obtain ⟨chain, fresh⟩ :=
        ih fun letter member => unmarked letter (List.mem_cons_of_mem _ member)
      refine ⟨List.isChain_cons.2 ⟨?_, chain⟩, ?_⟩
      · exact fun first isFirst same => absurd same (fresh first isFirst)
      · rintro _ ⟨⟩
        exact ne_of_unmarked mark (unmarked head List.mem_cons_self)

/-- Behind a backslash anything may stand. -/
theorem Sheltered.escaped {quote letter : Char} {rest : List Char} (mark : isMark quote = true)
    (unmarked : Unmarked rest) : Sheltered quote ('\\' :: letter :: rest) := by
  obtain ⟨chain, fresh⟩ := Sheltered.of_unmarked mark unmarked
  refine ⟨List.isChain_cons_cons.2 ⟨fun _ => rfl, List.isChain_cons.2 ⟨?_, chain⟩⟩, ?_⟩
  · exact fun first isFirst same => absurd same (fresh first isFirst)
  · rintro _ ⟨⟩
    exact ne_of_unmarked mark rfl

theorem sheltered_escape {quote : Char} (mark : isMark quote = true) (letter : Char) :
    Sheltered quote (escape quote letter) := by
  have none : Unmarked [] := fun letter member => nomatch member
  unfold escape
  split
  · exact .escaped mark none
  rename_i other
  split
  · exact .escaped mark none
  split
  · exact .escaped mark none
  split
  · exact .escaped mark none
  split
  · refine ⟨.singleton _, ?_⟩
    rintro _ ⟨⟩ rfl
    simp at other
  split
  · exact .escaped mark (unmarked_hexDigits _ _)
  split
  · exact .escaped mark (unmarked_hexDigits _ _)
  · exact .escaped mark (unmarked_hexDigits _ _)

theorem sheltered_escapes {quote : Char} (mark : isMark quote = true) (text : List Char) :
    Sheltered quote (text.flatMap (escape quote)) := by
  induction text with
  | nil => exact ⟨.nil, fun first isFirst => nomatch isFirst⟩
  | cons letter rest ih => exact (sheltered_escape mark letter).append ih

theorem getLast?_encode (text : List Char) : (encode text).getLast? = some (quoteFor text) := by
  dsimp only [encode]
  rw [List.getLast?_append]
  rfl

/-- No part of a quotation that begins behind a blank is a quotation. -/
theorem encode_ne_append (text other ahead : List Char) :
    encode text ≠ ahead ++ ' ' :: encode other := by
  intro same
  have mark := isMark_quoteFor text
  have marks : quoteFor text = quoteFor other := by
    have lasts := congrArg List.getLast? same
    rw [List.append_cons, List.getLast?_append, getLast?_encode, getLast?_encode] at lasts
    exact Option.some.inj lasts
  cases ahead with
  | nil =>
      have blank : quoteFor text = ' ' := (List.cons.inj same).1
      rw [blank] at mark
      cases mark
  | cons head ahead =>
      -- The opening and the closing mark are taken off; what is left is the inside.
      have inner : text.flatMap (escape (quoteFor text)) ++ [quoteFor text] =
          (ahead ++ ' ' :: quoteFor text :: other.flatMap (escape (quoteFor text))) ++
            [quoteFor text] := by
        simpa [encode, ← marks] using (List.cons.inj same).2
      have sheltered := (sheltered_escapes mark text).1
      rw [List.append_cancel_right inner, List.isChain_append] at sheltered
      have behind := (List.isChain_cons_cons.1 sheltered.2.1).1 rfl
      exact absurd behind (by decide)

end QuotedText

open QuotedText

theorem toList_quoted (text : String) : (quoted text).toList = encode text.toList :=
  String.toList_ofList

/-- What stands before the quotation at the end of a text is determined. -/
theorem eq_of_append_quoted {front other text name : String}
    (same : front ++ " " ++ quoted text = other ++ " " ++ quoted name) : front = other := by
  have letters := congrArg String.toList same
  simp only [String.toList_append, toList_quoted, List.append_assoc] at letters
  obtain ⟨between, longer, rest⟩ | ⟨between, longer, rest⟩ := List.append_eq_append_iff.1 letters
  · cases between with
    | nil => exact String.toList_inj.1 (by simpa using longer.symm)
    | cons blank between => exact absurd (List.cons.inj rest).2 (encode_ne_append _ _ _)
  · cases between with
    | nil => exact String.toList_inj.1 (by simpa using longer)
    | cons blank between => exact absurd (List.cons.inj rest).2 (encode_ne_append _ _ _)

/-- The text ends in a letter that is no quotation mark. -/
def EndsBare (text : String) : Prop :=
  ∃ letter ∈ text.toList.getLast?, isMark letter = false

theorem EndsBare.behind {text : String} (bare : EndsBare text) (front : String) :
    EndsBare (front ++ text) := by
  obtain ⟨letter, isLast, unmarked⟩ := bare
  refine ⟨letter, ?_, unmarked⟩
  rw [Option.mem_def] at isLast ⊢
  rw [String.toList_append, List.getLast?_append, isLast, Option.some_or]

theorem EndsBare.of_unmarked {letters : List Char} (unmarked : Unmarked letters)
    (inhabited : letters ≠ []) : EndsBare (String.ofList letters) := by
  rw [EndsBare, String.toList_ofList]
  exact ⟨letters.getLast inhabited, List.getLast?_eq_some_getLast inhabited,
    unmarked _ (List.getLast_mem inhabited)⟩

theorem not_endsBare_append_quoted (front text : String) : ¬ EndsBare (front ++ quoted text) := by
  rintro ⟨letter, isLast, unmarked⟩
  rw [String.toList_append, toList_quoted, List.getLast?_append, getLast?_encode] at isLast
  obtain rfl := Option.some.inj isLast
  rw [isMark_quoteFor] at unmarked
  cases unmarked

section Numbers

theorem unmarked_digits (number : Nat) : Unmarked (Nat.toDigits 10 number) := by
  intro letter member
  have digit := Nat.isDigit_of_mem_toDigits (by decide) (by decide) member
  cases marked : isMark letter with
  | false => rfl
  | true =>
      rw [isMark, Bool.or_eq_true, beq_iff_eq, beq_iff_eq] at marked
      rcases marked with rfl | rfl <;> cases digit

theorem unmarked_append {letters others : List Char} (unmarked : Unmarked letters)
    (unmarkedOthers : Unmarked others) : Unmarked (letters ++ others) :=
  List.forall_mem_append.2 ⟨unmarked, unmarkedOthers⟩

theorem unmarked_cons {letter : Char} {rest : List Char} (bare : isMark letter = false)
    (unmarked : Unmarked rest) : Unmarked (letter :: rest) :=
  List.forall_mem_cons.2 ⟨bare, unmarked⟩

theorem unmarked_replicate {letter : Char} (bare : isMark letter = false) (count : Nat) :
    Unmarked (List.replicate count letter) := by
  intro other member
  rwa [List.eq_of_mem_replicate member]

theorem unmarked_significant (decimal : Decimal) : Unmarked decimal.significant := by
  unfold Decimal.significant
  dsimp only
  split
  · exact unmarked_cons rfl fun letter member => nomatch member
  · intro letter member
    have kept := (List.dropWhile_sublist _).subset (List.mem_reverse.1 member)
    exact unmarked_digits _ letter (List.mem_reverse.1 kept)

theorem unmarked_positional {digits : List Char} (unmarked : Unmarked digits) (whole : Int) :
    Unmarked (DecimalLayout.positional digits whole) := by
  unfold DecimalLayout.positional
  split
  · refine unmarked_append ?_ unmarked
    exact unmarked_cons rfl (unmarked_cons rfl (unmarked_replicate rfl _))
  · have front : Unmarked (digits.take whole.toNat) :=
      fun letter member => unmarked letter (List.mem_of_mem_take member)
    refine unmarked_append (unmarked_append front (unmarked_replicate rfl _)) (unmarked_cons rfl ?_)
    split
    · exact unmarked_cons rfl fun letter member => nomatch member
    · exact fun letter member => unmarked letter (List.mem_of_mem_drop member)

theorem unmarked_scientific (layout : DecimalLayout) {digits : List Char}
    (unmarked : Unmarked digits) (leading : Int) :
    Unmarked (layout.scientific digits leading) := by
  have first : Unmarked (digits.take 1) :=
    fun letter member => unmarked letter (List.mem_of_mem_take member)
  have others : Unmarked (if digits.length = 1 then [] else '.' :: digits.drop 1) := by
    split
    · exact fun letter member => nomatch member
    · exact unmarked_cons rfl fun letter member => unmarked letter (List.mem_of_mem_drop member)
  have sign : Unmarked ['e', if leading < 0 then '-' else '+'] := by
    refine unmarked_cons rfl (unmarked_cons ?_ fun letter member => nomatch member)
    split <;> rfl
  exact unmarked_append (unmarked_append (unmarked_append (unmarked_append first others) sign)
    (unmarked_replicate rfl _)) (unmarked_digits _)

theorem unmarked_write (layout : DecimalLayout) (decimal : Decimal) :
    Unmarked (layout.write decimal) := by
  unfold DecimalLayout.write
  dsimp only
  split
  · exact unmarked_positional (unmarked_significant decimal) _
  · exact unmarked_scientific layout (unmarked_significant decimal) _

theorem write_ne_nil (layout : DecimalLayout) (decimal : Decimal) : layout.write decimal ≠ [] := by
  simp only [DecimalLayout.write, DecimalLayout.positional, DecimalLayout.scientific]
  split
  · split <;> simp
  · simp

theorem endsBare_floatText (number : Float) : EndsBare (floatText number) := by
  unfold floatText
  split
  · rename_i value _
    have unmarked := unmarked_write authoredLayout (Decimal.shortest value)
    dsimp only
    split
    · exact .of_unmarked (unmarked_cons rfl unmarked) (List.cons_ne_nil _ _)
    · exact .of_unmarked unmarked (write_ne_nil _ _)
  · split
    · exact ⟨'n', rfl, rfl⟩
    split <;> exact ⟨'f', rfl, rfl⟩

theorem endsBare_number (number : Int) : EndsBare (toString number) := by
  have digits (count : Nat) : EndsBare count.repr := by
    rw [Nat.repr_eq_ofList_toDigits]
    exact .of_unmarked (unmarked_digits count) Nat.toDigits_ne_nil
  rw [Int.toString_eq_repr, Int.repr_eq_if]
  split
  · exact digits _
  · exact (digits _).behind _

end Numbers

/-- In a message, a value ends in a quotation mark only if it is a text. -/
theorem endsBare_quotedForm {value : Value} (other : ∀ content, value ≠ .text content) :
    EndsBare value.quotedForm := by
  cases value with
  | text content => exact absurd rfl (other content)
  | list items =>
      rw [Value.quotedForm]
      exact EndsBare.behind ⟨']', rfl, rfl⟩ _
  | object fields =>
      rw [Value.quotedForm]
      exact EndsBare.behind ⟨'\x7d', rfl, rfl⟩ _
  | int number => simpa only [Value.quotedForm, Value.scalarText] using endsBare_number number
  | float number => simpa only [Value.quotedForm, Value.scalarText] using endsBare_floatText number
  | bool flag =>
      cases flag
      · exact ⟨'e', rfl, rfl⟩
      · exact ⟨'e', rfl, rfl⟩
  | null => exact ⟨'e', rfl, rfl⟩

end CreatureCards
