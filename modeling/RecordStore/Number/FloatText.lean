/-
# RecordStore.Number.FloatText — the text of a double.

`text` lays the shortest digits of a double out for reading.  Numbers of middling size are written
positionally with at least one digit after the point (`30.0`, `0.00001`), the others with an
exponent that always has a sign (`1e+16`, `1.5e-7`).  A negative zero keeps its sign.  The bounds
between the two ways of writing are the fields of one record, `Layout.standard`.
-/
import RecordStore.Number.Shortest
import RecordStore.Number.Decimal

namespace RecordStore.Number.FloatText

/-- The exponents of ten between which numbers are written positionally. -/
structure Layout where
  least : Int
  limit : Int

/-- Numbers are written positionally from `10 ^ (-5)` up to but not including `10 ^ 16`. -/
def Layout.standard : Layout := ⟨-5, 16⟩

/-- The digits of a significand with the point after the first `places + 1` of them. -/
def pointed (digits : List Char) (places : Int) : List Char :=
  if places < 0 then "0.".toList ++ List.replicate (places.natAbs - 1) '0' ++ digits
  else
    let cut := places.natAbs + 1
    if digits.length ≤ cut then digits ++ List.replicate (cut - digits.length) '0' ++ ".0".toList
    else digits.take cut ++ '.' :: digits.drop cut

/-- The digits of a significand with the point after the first of them, and the exponent. -/
def withExponent (digits : List Char) (exponent : Int) : List Char :=
  let significand := match digits with
    | first :: second :: rest => first :: '.' :: second :: rest
    | short => short
  significand ++ 'e' :: (if exponent < 0 then '-' else '+') :: Decimal.digits exponent.natAbs

/-- The text of a positive decimal number. -/
def ofScientific (layout : Layout) (s : Shortest.Scientific) : List Char :=
  let digits := Decimal.digits s.significand
  let leading := s.exponent + digits.length - 1
  if layout.least ≤ leading ∧ leading < layout.limit then pointed digits leading
  else withExponent digits leading

/-- The text of a double. -/
def chars (x : Binary64) : List Char :=
  if x.isNaN then "NaN".toList
  else
    let unsigned :=
      if x.magnitude = Binary64.infinite then "inf".toList
      else if x.magnitude = 0 then "0.0".toList
      else ofScientific .standard (Shortest.ofMagnitude x.magnitude)
    if x.negative then '-' :: unsigned else unsigned

/-! ## Both sides of each bound -/

/-- The last number of middling size on either side, and the first beyond it. -/
example :
    ofScientific .standard ⟨1, -5⟩ = "0.00001".toList ∧
      ofScientific .standard ⟨1, -6⟩ = "1e-6".toList ∧
      ofScientific .standard ⟨1, 15⟩ = "1000000000000000.0".toList ∧
      ofScientific .standard ⟨1, 16⟩ = "1e+16".toList ∧
      ofScientific .standard ⟨15, -8⟩ = "1.5e-7".toList := by decide

/-- Whole numbers keep a digit after the point, and a negative zero its sign. -/
example :
    chars (.ofInt 30) = "30.0".toList ∧ chars (.ofInt (-7)) = "-7.0".toList ∧
      chars (.ofParts true 0) = "-0.0".toList ∧
      chars (.ofInt (2 ^ 64)) = "1.8446744073709552e+19".toList := by decide +kernel

end RecordStore.Number.FloatText
