/-
# RecordStore.Number.Numeral — decimal numerals and the doubles they denote.

Two grammars write numbers: JSON, whose scanner admits only JSON's numerals, and the more lenient
texts that a field test on a number field may carry, where a plus sign, a bare point at either end
and the words for infinity and for no number are admitted too.  Both are read by the one function
`Numeral.ofChars?`, and `binary64?` adds the words.
-/
import RecordStore.Number.Binary64
import RecordStore.Number.Decimal

namespace RecordStore.Number

/-- A decimal numeral in its parts; `fraction` and `exponent` are absent when not written. -/
structure Numeral where
  negative : Bool
  whole : List Char
  fraction : Option (List Char)
  exponent : Option Int
deriving DecidableEq

namespace Numeral

/-! ## Reading -/

/-- A sign taken off the front of a text: whether it is a minus, and what follows. -/
def sign : List Char → Bool × List Char
  | '-' :: rest => (true, rest)
  | '+' :: rest => (false, rest)
  | all => (false, all)

/-- The exponent that follows its mark: a sign if need be and then digits to the end. -/
def exponentOfChars? (text : List Char) : Option Int :=
  let (negative, run) := sign text
  if run ≠ [] ∧ run.all Char.isDigit = true then
    some (if negative then -(Decimal.value run : Int) else Decimal.value run)
  else none

/-- What may follow the digits of a numeral: nothing, or a mark with its exponent. -/
def tailOfChars? : List Char → Option (Option Int)
  | [] => some none
  | c :: rest => if c = 'e' ∨ c = 'E' then (exponentOfChars? rest).map some else none

/-- The numeral that a text is, with at least one digit before or after its point. -/
def ofChars? (text : List Char) : Option Numeral :=
  let (negative, unsigned) := sign text
  let whole := unsigned.takeWhile Char.isDigit
  match unsigned.dropWhile Char.isDigit with
  | '.' :: rest =>
    let fraction := rest.takeWhile Char.isDigit
    if whole = [] ∧ fraction = [] then none
    else (tailOfChars? (rest.dropWhile Char.isDigit)).map (⟨negative, whole, some fraction, ·⟩)
  | rest =>
    if whole = [] then none
    else (tailOfChars? rest).map (⟨negative, whole, none, ·⟩)

/-! ## Values -/

/-- The double nearest to the number that a numeral writes; a minus sign is kept on zero. -/
def toBinary64 (n : Numeral) : Binary64 :=
  let fraction := n.fraction.getD []
  Binary64.ofParts n.negative (Binary64.decimalMagnitude (Decimal.value (n.whole ++ fraction))
    (n.exponent.getD 0 - fraction.length))

end Numeral

/-- The double that a text denotes: a numeral, or in any case a word for infinity or for no number,
with a sign if need be. -/
def binary64? (text : List Char) : Option Binary64 :=
  let (negative, unsigned) := Numeral.sign text
  let word := String.ofList (unsigned.map Char.toLower)
  if word = "inf" ∨ word = "infinity" then some (Binary64.ofParts negative Binary64.infinite)
  else if word = "nan" then some (Binary64.ofParts negative Binary64.nan.magnitude)
  else (Numeral.ofChars? text).map Numeral.toBinary64

end RecordStore.Number
