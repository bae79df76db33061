/-
# RecordStore.Proofs.Number.Shortest — the shortest digits of a double are those of some number.

The search for the shortest digits looks at seventeen grids and stops at the first that has a point
for the double.  The finest of them always has one: its step is less than the width of the interval of
the reals that round to the double, so one of the two points next to the double lies in it
(`isSome_onGrid?`).  A point that is chosen is not zero, because the interval is above zero, and
taking zeros off its end does not make it so.  So the significand is positive
(`significand_ofMagnitude_pos`).
-/
import RecordStore.Number.Shortest

namespace RecordStore.Number

namespace Decimal

/-! ## Digits and powers of ten -/

theorem powerOfTen_succ (n : Nat) : powerOfTen (n + 1) = 10 * powerOfTen n :=
  Nat.mul_comm (powerOfTen n) 10

theorem powerOfTen_pos (n : Nat) : 0 < powerOfTen n := Nat.pow_pos (by decide)

theorem powerOfTen_add (m n : Nat) : powerOfTen (m + n) = powerOfTen m * powerOfTen n :=
  Nat.pow_add 10 m n

theorem lt_powerOfTen_length (n : Nat) : n < powerOfTen (digits n).length := by
  induction n using Nat.strongRecOn with
  | _ n ih =>
    by_cases h : n < 10
    · rw [digits_of_lt h]
      exact h
    · have hrest := ih (n / 10) (by omega)
      rw [digits_of_le (by omega), List.length_append, List.length_singleton, powerOfTen_succ]
      omega

theorem powerOfTen_length_le {n : Nat} (hn : 0 < n) : powerOfTen ((digits n).length - 1) ≤ n := by
  induction n using Nat.strongRecOn with
  | _ n ih =>
    by_cases h : n < 10
    · rw [digits_of_lt h]
      exact hn
    · have hrest := ih (n / 10) (by omega) (by omega)
      have hlength : 0 < (digits (n / 10)).length := List.length_pos_iff.mpr (digits_ne_nil _)
      rw [digits_of_le (by omega), List.length_append, List.length_singleton, Nat.add_sub_cancel,
        show (digits (n / 10)).length = (digits (n / 10)).length - 1 + 1 by omega, powerOfTen_succ]
      omega

end Decimal

namespace Shortest

open Decimal (powerOfTen powerOfTen_pos powerOfTen_add)

/-! ## The order of a fraction -/

/-- The scale of a grid: its step is `up / down`. -/
def up (exponent : Int) : Nat := if exponent < 0 then 1 else powerOfTen exponent.natAbs

/-- The denominator of the step of a grid. -/
def down (exponent : Int) : Nat := if exponent < 0 then powerOfTen exponent.natAbs else 1

theorem up_pos (exponent : Int) : 0 < up exponent := by
  unfold up
  split
  · decide
  · exact powerOfTen_pos _

theorem down_pos (exponent : Int) : 0 < down exponent := by
  unfold down
  split
  · exact powerOfTen_pos _
  · decide

/-- A fraction reaches the power of ten of its order. -/
theorem up_order_le {num den : Nat} (hnum : 0 < num) (hden : 0 < den) :
    up (order num den) * den ≤ num * down (order num den) := by
  unfold order
  split
  · next hle =>
    have hpos : 0 < num / den := Nat.div_pos hle hden
    have hpower := Decimal.powerOfTen_length_le hpos
    have hlength : 0 < (Decimal.digits (num / den)).length :=
      List.length_pos_iff.mpr (Decimal.digits_ne_nil _)
    have hcast : ((Nat.toDigits 10 (num / den)).length : Int) - 1 =
        (((Decimal.digits (num / den)).length - 1 : Nat) : Int) := by
      unfold Decimal.digits at hlength ⊢
      omega
    rw [hcast, up, down, if_neg (by omega), if_neg (by omega), Nat.mul_one, Int.natAbs_natCast]
    exact Nat.mul_le_of_le_div den _ num hpower
  · next hlt =>
    have hpower := Decimal.lt_powerOfTen_length ((den - 1) / num)
    have hbound := (Nat.div_lt_iff_lt_mul hnum).mp hpower
    unfold Decimal.digits at hbound
    rcases Nat.eq_zero_or_pos (Nat.toDigits 10 ((den - 1) / num)).length with hzero | hlength
    · exact absurd (List.length_eq_zero_iff.mp hzero) (Decimal.digits_ne_nil _)
    · rw [up, down, if_pos (by omega), if_pos (by omega), Int.natAbs_neg, Int.natAbs_natCast,
        Nat.one_mul, Nat.mul_comm]
      omega

/-- A grid that is finer by some powers of ten. -/
theorem up_sub_mul (exponent : Int) (n : Nat) :
    up (exponent - n) * powerOfTen n * down exponent = up exponent * down (exponent - n) := by
  unfold up down
  by_cases hneg : exponent < 0
  · rw [if_pos (by omega), if_pos hneg, if_pos hneg, if_pos (by omega),
      show (exponent - n).natAbs = n + exponent.natAbs by omega, powerOfTen_add, Nat.one_mul,
      Nat.one_mul]
  · by_cases hfine : exponent - n < 0
    · rw [if_pos hfine, if_neg hneg, if_neg hneg, if_pos hfine, ← powerOfTen_add,
        show exponent.natAbs + (exponent - n).natAbs = n by omega]
      omega
    · rw [if_neg hfine, if_neg hneg, if_neg hneg, if_neg hfine, ← powerOfTen_add,
        show (exponent - n).natAbs + n = exponent.natAbs by omega]

theorem up_order_sub_le {num den : Nat} (hnum : 0 < num) (hden : 0 < den) (n : Nat) :
    powerOfTen n * (up (order num den - n) * den) ≤ num * down (order num den - n) := by
  have hscale := up_sub_mul (order num den) n
  have horder := Nat.mul_le_mul_right (down (order num den - n)) (up_order_le hnum hden)
  apply Nat.le_of_mul_le_mul_right _ (down_pos (order num den))
  calc powerOfTen n * (up (order num den - n) * den) * down (order num den)
      = up (order num den - n) * powerOfTen n * down (order num den) * den := by ac_rfl
    _ = up (order num den) * den * down (order num den - n) := by rw [hscale]; ac_rfl
    _ ≤ num * down (order num den) * down (order num den - n) := horder
    _ = num * down (order num den - n) * down (order num den) := by ac_rfl

/-! ## Points for an interval -/

/-- The interval is above zero and has its double inside, and is wider than the last of seventeen
digits of the double. -/
structure Interval.Wide (i : Interval) : Prop where
  den_pos : 0 < i.den
  low_pos : 0 < i.low
  low_lt : i.low < i.exact
  lt_high : i.exact < i.high
  width : i.exact < powerOfTen 16 * (i.high - i.low)

variable {i : Interval} {exponent : Int}

theorem holds_of_between {num den : Nat} (hlow : i.low * den < num * i.den)
    (hhigh : num * i.den < i.high * den) : i.holds num den = true := by
  unfold Interval.holds
  split <;> simp <;> omega

theorem pos_of_holds (hi : i.Wide) {num den : Nat} (hden : 0 < den) (h : i.holds num den = true) :
    0 < num := by
  apply Nat.pos_of_ne_zero
  rintro rfl
  have hlow := Nat.mul_pos hi.low_pos hden
  unfold Interval.holds at h
  split at h <;> simp only [Bool.and_eq_true, decide_eq_true_eq, Nat.zero_mul] at h <;> omega

/-- The point below the double on a grid. -/
def lower (i : Interval) (exponent : Int) : Nat :=
  i.exact * down exponent / (up exponent * i.den)

theorem onGrid?_eq (i : Interval) (exponent : Int) :
    onGrid? i exponent =
      match i.holds (lower i exponent * up exponent) (down exponent),
        i.holds ((lower i exponent + 1) * up exponent) (down exponent) with
      | true, true => some (nearer (lower i exponent)
          (i.exact * down exponent % (up exponent * i.den)) (up exponent * i.den))
      | true, false => some (lower i exponent)
      | false, true => some (lower i exponent + 1)
      | false, false => none := rfl

/-- A grid of small steps has a point for the interval. -/
theorem isSome_onGrid? (hi : i.Wide)
    (hstep : powerOfTen 16 * (up exponent * i.den) ≤ i.exact * down exponent) :
    (onGrid? i exponent).isSome := by
  suffices h : i.holds (lower i exponent * up exponent) (down exponent) = true ∨
      i.holds ((lower i exponent + 1) * up exponent) (down exponent) = true by
    rw [onGrid?_eq]
    split <;> simp_all
  have hdown := down_pos exponent
  have hpos : 0 < up exponent * i.den := Nat.mul_pos (up_pos exponent) hi.den_pos
  -- the double lies between the two points
  have hbelow : lower i exponent * (up exponent * i.den) ≤ i.exact * down exponent :=
    Nat.div_mul_le_self _ _
  have habove : i.exact * down exponent < (lower i exponent + 1) * (up exponent * i.den) := by
    rw [Nat.mul_comm (lower i exponent + 1)]
    exact Nat.lt_mul_div_succ _ hpos
  have hlow := Nat.mul_lt_mul_of_pos_right hi.low_lt hdown
  have hhigh := Nat.mul_lt_mul_of_pos_right hi.lt_high hdown
  by_cases hfirst : i.low * down exponent < lower i exponent * (up exponent * i.den)
  · refine .inl (holds_of_between ?_ ?_)
    · rwa [Nat.mul_assoc]
    · rw [Nat.mul_assoc]
      omega
  · refine .inr (holds_of_between ?_ ?_)
    · rw [Nat.mul_assoc]
      omega
    · -- otherwise one step would cross the interval
      have hwidth := Nat.mul_lt_mul_of_pos_right hi.width hdown
      rw [Nat.mul_assoc, Nat.sub_mul] at hwidth
      have hcross : up exponent * i.den < i.high * down exponent - i.low * down exponent :=
        Nat.lt_of_mul_lt_mul_left (Nat.lt_of_le_of_lt hstep hwidth)
      rw [Nat.mul_assoc, Nat.succ_mul]
      omega

theorem pos_of_onGrid? (hi : i.Wide) {point : Nat} (h : onGrid? i exponent = some point) :
    0 < point := by
  rw [onGrid?_eq] at h
  have hfirst : i.holds (lower i exponent * up exponent) (down exponent) = true →
      0 < lower i exponent := by
    intro hholds
    exact Nat.pos_of_mul_pos_right (pos_of_holds hi (down_pos exponent) hholds)
  split at h
  · next hholds _ =>
    obtain rfl := Option.some.inj h
    have hpos := hfirst hholds
    unfold nearer
    split <;> omega
  · next hholds _ =>
    obtain rfl := Option.some.inj h
    exact hfirst hholds
  · obtain rfl := Option.some.inj h
    exact Nat.succ_pos _
  · cases h

/-! ## The search -/

theorem significand_strip_pos (limit : Nat) {s : Scientific} (h : 0 < s.significand) :
    0 < (strip limit s).significand := by
  induction limit generalizing s with
  | zero => exact h
  | succ limit ih =>
    rw [strip]
    split
    · next hzero =>
      apply ih
      show 0 < s.significand / 10
      omega
    · exact h

/-- A search that comes to a grid with a point finds a positive number. -/
theorem significand_search_pos (hi : i.Wide) (grids : Nat) {exponent : Int}
    (h : (onGrid? i (exponent - grids)).isSome) :
    0 < (search i (grids + 1) exponent).significand := by
  induction grids generalizing exponent with
  | zero =>
    rw [search]
    split
    · next point hpoint => exact significand_strip_pos 17 (pos_of_onGrid? hi hpoint)
    · next hnone =>
      rw [Int.natCast_zero, Int.sub_zero, hnone] at h
      cases h
  | succ grids ih =>
    rw [search]
    split
    · next point hpoint => exact significand_strip_pos 17 (pos_of_onGrid? hi hpoint)
    · apply ih
      rwa [show exponent - 1 - (grids : Int) = exponent - ((grids + 1 : Nat) : Int) by omega]

/-! ## The interval of a double -/

theorem scaled_bounds {magnitude : Nat} (h : 0 < magnitude) :
    0 < (Binary64.scaled magnitude).1 ∧ (Binary64.scaled magnitude).1 < 2 ^ 53 := by
  unfold Binary64.scaled
  split
  · next hsmall => exact ⟨h, by omega⟩
  · exact ⟨by show 0 < 2 ^ 52 + _; omega, by show 2 ^ 52 + _ < _; omega⟩

theorem wide_ofMagnitude {magnitude : Nat} (h : 0 < magnitude) :
    (Interval.ofMagnitude magnitude).Wide := by
  obtain ⟨hpos, hlt⟩ := scaled_bounds h
  unfold Interval.ofMagnitude
  generalize Binary64.scaled magnitude = parts at hpos hlt
  obtain ⟨m, q⟩ := parts
  simp only [Nat.shiftLeft_eq] at hpos hlt ⊢
  have hunit : 0 < 2 ^ q := Nat.pow_pos (by decide)
  generalize hbelow : (if m = 2 ^ 52 ∧ 0 < q then 1 else 2) = below
  -- below a power of two the interval is narrower, but the double is small too
  have hsmall : below = 1 ∧ m = 2 ^ 52 ∨ below = 2 := by
    split at hbelow
    · next hpower => exact .inl ⟨hbelow.symm, hpower.1⟩
    · exact .inr hbelow.symm
  generalize 2 ^ q = unit at hunit
  have hscale := Nat.two_pow_pos 1074
  generalize 2 ^ 1074 = scale at hscale
  refine ⟨Nat.mul_pos (by decide) hscale, Nat.mul_pos (by omega) hunit,
    Nat.mul_lt_mul_of_pos_right (by omega) hunit,
    Nat.mul_lt_mul_of_pos_right (by omega) hunit, ?_⟩
  have hfactor : 4 * m < powerOfTen 16 * (4 * m + 2 - (4 * m - below)) := by
    rw [show 4 * m + 2 - (4 * m - below) = 2 + below by omega,
      show powerOfTen 16 = 10000000000000000 by decide]
    omega
  rw [← Nat.sub_mul, ← Nat.mul_assoc]
  exact Nat.mul_lt_mul_of_pos_right hfactor hunit

/-- The shortest digits of a positive finite double are those of a positive number. -/
theorem significand_ofMagnitude_pos {magnitude : Nat} (h : 0 < magnitude) :
    0 < (ofMagnitude magnitude).significand := by
  have hwide := wide_ofMagnitude h
  apply significand_search_pos hwide
  apply isSome_onGrid? hwide
  exact up_order_sub_le (Nat.lt_trans hwide.low_pos hwide.low_lt) hwide.den_pos 16

end Shortest

end RecordStore.Number
