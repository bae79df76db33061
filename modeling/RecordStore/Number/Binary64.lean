/-
# RecordStore.Number.Binary64 — double precision numbers as bit patterns.

A `Binary64` is the 64-bit pattern of a double: a sign bit above a 63-bit magnitude.  Magnitudes
order as the numbers they stand for, the infinite one is `0x7FF * 2 ^ 52`, and those above it are
not numbers.  All arithmetic here is exact arithmetic on natural numbers; nothing depends on the
floating point unit of the machine that runs it.

* `scaled` reads a finite magnitude as `m * 2 ^ q` units of the smallest positive double.
* `nearestMagnitude` rounds a quotient to the nearest magnitude, a tie going to the even pattern.
  The patterns of consecutive magnitudes are consecutive numbers, so a significand that rounds up
  to the next power of two carries into the exponent by itself.
* `equal` is numeric equality: both zeros are equal, and what is not a number equals nothing.
-/
import RecordStore.Number.Decimal

namespace RecordStore.Number

/-- A double by its bit pattern. -/
structure Binary64 where
  bits : UInt64
deriving DecidableEq

namespace Binary64

/-! ## Patterns -/

/-- The magnitude pattern of infinity: every exponent bit set, no fraction bit. -/
def infinite : Nat := 0x7FF * 2 ^ 52

/-- The number with the given sign bit and magnitude pattern. -/
def ofParts (negative : Bool) (magnitude : Nat) : Binary64 :=
  ⟨UInt64.ofNat ((if negative then 2 ^ 63 else 0) + magnitude)⟩

/-- Whether the sign bit is set. -/
def negative (x : Binary64) : Bool := 2 ^ 63 ≤ x.bits.toNat

/-- The pattern without its sign bit. -/
def magnitude (x : Binary64) : Nat := x.bits.toNat % 2 ^ 63

/-- Whether the pattern stands for a real number. -/
def isFinite (x : Binary64) : Bool := x.magnitude < infinite

/-- Whether the pattern stands for no number at all, finite or infinite. -/
def isNaN (x : Binary64) : Bool := infinite < x.magnitude

/-- The pattern that is written for the result that is no number. -/
def nan : Binary64 := ofParts false (infinite + 2 ^ 51)

/-- Numeric equality. -/
def equal (x y : Binary64) : Bool :=
  !x.isNaN && (x == y || (x.magnitude == 0 && y.magnitude == 0))

/-! ## Values -/

/-- The significand `m` and the exponent `q` of a finite magnitude: its value is `m * 2 ^ q` units
of `2 ^ (-1074)`. -/
def scaled (magnitude : Nat) : Nat × Nat :=
  if magnitude < 2 ^ 52 then (magnitude, 0)
  else (2 ^ 52 + magnitude % 2 ^ 52, magnitude / 2 ^ 52 - 1)

/-- The quotient of `num` by `den` rounded to a whole number, a tie going to the even one. -/
def roundedQuotient (num den : Nat) : Nat :=
  let low := num / den
  let rest := 2 * (num % den)
  if rest < den ∨ (rest = den ∧ low % 2 = 0) then low else low + 1

/-- The magnitude nearest to `num / den`; infinity where that is beyond every finite one. -/
def nearestMagnitude (num den : Nat) : Nat :=
  let units := num * 2 ^ 1074
  let exponent := Nat.log2 (units / den) - 52
  min infinite (exponent * 2 ^ 52 + roundedQuotient units (den <<< exponent))

/-- The double nearest to a whole number. -/
def ofInt (n : Int) : Binary64 := ofParts (n < 0) (nearestMagnitude n.natAbs 1)

/-- The magnitude nearest to `significand * 10 ^ exponent`.  A significand of `k` digits puts the
value between the powers `k - 1 + exponent` and `k + exponent` of ten; beyond the reach of doubles
on either side the answer needs no division. -/
def decimalMagnitude (significand : Nat) (exponent : Int) : Nat :=
  let order : Int := (Nat.toDigits 10 significand).length + exponent
  if significand = 0 ∨ order ≤ -324 then 0
  else if 310 ≤ order then infinite
  else if exponent < 0 then nearestMagnitude significand (Decimal.powerOfTen exponent.natAbs)
  else nearestMagnitude (significand * Decimal.powerOfTen exponent.natAbs) 1

/-! ## Laws -/

theorem toNat_ofParts {negative : Bool} {magnitude : Nat} (h : magnitude < 2 ^ 63) :
    (ofParts negative magnitude).bits.toNat = (if negative then 2 ^ 63 else 0) + magnitude := by
  unfold ofParts
  rw [UInt64.toNat_ofNat']
  exact Nat.mod_eq_of_lt (by split <;> omega)

@[simp] theorem magnitude_ofParts {negative : Bool} {magnitude : Nat} (h : magnitude < 2 ^ 63) :
    (ofParts negative magnitude).magnitude = magnitude := by
  rw [Binary64.magnitude, toNat_ofParts h]
  split <;> omega

@[simp] theorem negative_ofParts {negative : Bool} {magnitude : Nat} (h : magnitude < 2 ^ 63) :
    (ofParts negative magnitude).negative = negative := by
  rw [Binary64.negative, toNat_ofParts h]
  cases negative with
  | false =>
    simp
    omega
  | true => simp

theorem nearestMagnitude_le (num den : Nat) : nearestMagnitude num den ≤ infinite :=
  Nat.min_le_left _ _

theorem equal_self {x : Binary64} (h : x.isNaN = false) : x.equal x = true := by
  simp [equal, h]

theorem isNaN_of_magnitude_eq_zero {x : Binary64} (h : x.magnitude = 0) : x.isNaN = false := by
  simp [isNaN, h]

/-- Two doubles are equal when they are one pattern of a number or both are zeros. -/
theorem equal_iff {x y : Binary64} :
    x.equal y = true ↔ (x.isNaN = false ∧ x = y) ∨ (x.magnitude = 0 ∧ y.magnitude = 0) := by
  simp only [equal, Bool.and_eq_true, Bool.not_eq_true', Bool.or_eq_true, beq_iff_eq]
  constructor
  · rintro ⟨hn, he | hz⟩
    · exact .inl ⟨hn, he⟩
    · exact .inr hz
  · rintro (⟨hn, he⟩ | hz)
    · exact ⟨hn, .inl he⟩
    · exact ⟨isNaN_of_magnitude_eq_zero hz.1, .inr hz⟩

theorem equal_comm (x y : Binary64) : x.equal y = y.equal x := by
  rw [Bool.eq_iff_iff, equal_iff, equal_iff]
  constructor <;> rintro (⟨hn, rfl⟩ | hz)
  · exact .inl ⟨hn, rfl⟩
  · exact .inr hz.symm
  · exact .inl ⟨hn, rfl⟩
  · exact .inr hz.symm

end Binary64

end RecordStore.Number
