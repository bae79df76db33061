/-
# RecordStore.Proofs.Number.Nearest — what is left of a whole number in its double.

A double keeps 53 significant bits of a whole number.  `nearestInt` rounds to these within the whole
numbers, without a double, and two whole numbers have equal doubles exactly when they are rounded to
the same one (`equal_ofInt_iff_nearestInt`).

Magnitudes are compared by what they stand for, counted in the smallest positive double.  The count
grows with the magnitude, also from one exponent to the next, so it determines the magnitude.
-/
import RecordStore.Proofs.Number.Whole

namespace RecordStore.Number

namespace Binary64

/-! ## What magnitudes stand for -/

/-- What a finite magnitude stands for, as a multiple of the smallest positive double. -/
def units (magnitude : Nat) : Nat := (scaled magnitude).1 <<< (scaled magnitude).2

theorem units_of_lt {magnitude : Nat} (h : magnitude < 2 ^ 52) : units magnitude = magnitude := by
  rw [units, scaled, if_pos h, Nat.shiftLeft_zero]

/-- From `2 ^ 52` on, a magnitude is an exponent above the bits that follow a leading one. -/
theorem units_normal (exponent : Nat) {rest : Nat} (h : rest < 2 ^ 52) :
    units ((exponent + 1) * 2 ^ 52 + rest) = (2 ^ 52 + rest) <<< exponent := by
  have hlarge : ¬ (exponent + 1) * 2 ^ 52 + rest < 2 ^ 52 := by omega
  have hrest : ((exponent + 1) * 2 ^ 52 + rest) % 2 ^ 52 = rest := by omega
  have hexponent : ((exponent + 1) * 2 ^ 52 + rest) / 2 ^ 52 - 1 = exponent := by omega
  rw [units, scaled, if_neg hlarge, hrest, hexponent]

theorem shiftLeft_lt_shiftLeft {m n : Nat} (h : m < n) (k : Nat) : m <<< k < n <<< k := by
  rw [Nat.shiftLeft_eq, Nat.shiftLeft_eq]
  exact Nat.mul_lt_mul_of_pos_right h (Nat.two_pow_pos k)

theorem units_lt_succ (magnitude : Nat) : units magnitude < units (magnitude + 1) := by
  rcases Nat.lt_or_ge magnitude (2 ^ 52) with hsmall | hlarge
  · rw [units_of_lt hsmall]
    rcases Nat.lt_or_ge (magnitude + 1) (2 ^ 52) with hlt | hge
    · rw [units_of_lt hlt]
      exact Nat.lt_succ_self magnitude
    · have hfirst : magnitude + 1 = (0 + 1) * 2 ^ 52 + 0 := by omega
      rw [hfirst, units_normal 0 (Nat.two_pow_pos 52), Nat.shiftLeft_zero]
      omega
  · obtain ⟨exponent, rest, hrest, rfl⟩ :
        ∃ exponent rest, rest < 2 ^ 52 ∧ magnitude = (exponent + 1) * 2 ^ 52 + rest :=
      ⟨magnitude / 2 ^ 52 - 1, magnitude % 2 ^ 52, by omega, by omega⟩
    rw [units_normal exponent hrest]
    rcases Nat.lt_or_ge (rest + 1) (2 ^ 52) with hlt | hge
    · rw [Nat.add_assoc, units_normal exponent hlt]
      exact shiftLeft_lt_shiftLeft (by omega) exponent
    · -- the next magnitude is the first one of the next exponent
      have hnext : (exponent + 1) * 2 ^ 52 + rest + 1 = (exponent + 1 + 1) * 2 ^ 52 + 0 := by omega
      rw [hnext, units_normal (exponent + 1) (Nat.two_pow_pos 52), Nat.shiftLeft_succ_inside]
      exact shiftLeft_lt_shiftLeft (by omega) exponent

theorem units_lt {a b : Nat} (h : a < b) : units a < units b := by
  induction h with
  | refl => exact units_lt_succ a
  | step _ ih => exact Nat.lt_trans ih (units_lt_succ _)

theorem units_inj {a b : Nat} : units a = units b ↔ a = b := by
  constructor
  · intro h
    rcases Nat.lt_trichotomy a b with hlt | heq | hgt
    · exact absurd h (Nat.ne_of_lt (units_lt hlt))
    · exact heq
    · exact absurd h (Nat.ne_of_gt (units_lt hgt))
  · exact congrArg units

/-! ## Rounding whole numbers -/

/-- The whole number with 53 significant bits that is nearest to a number, a tie going to the one
whose last bit is zero. -/
def nearestWhole (n : Nat) : Nat :=
  roundedQuotient n (1 <<< (n.log2 - 52)) <<< (n.log2 - 52)

section NearestWhole

variable {m n : Nat}

theorem nearestWhole_of_lt (hn : n < 2 ^ 53) : nearestWhole n = n := by
  rcases Nat.eq_zero_or_pos n with rfl | hpos
  · decide
  · have hexponent : n.log2 - 52 = 0 := Nat.sub_eq_zero_of_le (log2_le_of_lt hpos hn)
    have hexact := roundedQuotient_mul n Nat.one_pos
    rw [Nat.mul_one] at hexact
    rw [nearestWhole, hexponent, Nat.shiftLeft_zero, Nat.shiftLeft_zero, hexact]

/-- A quotient is rounded as the fraction in lower terms is. -/
theorem roundedQuotient_mul_mul (num den : Nat) {factor : Nat} (h : 0 < factor) :
    roundedQuotient (num * factor) (den * factor) = roundedQuotient num den := by
  have hrest : 2 * (num % den * factor) = 2 * (num % den) * factor := (Nat.mul_assoc _ _ _).symm
  unfold roundedQuotient
  dsimp only
  rw [Nat.mul_div_mul_right _ _ h, Nat.mul_mod_mul_right, hrest]
  simp only [Nat.mul_lt_mul_right h, Nat.mul_right_cancel_iff h]

theorem roundedQuotient_le (num den : Nat) : roundedQuotient num den ≤ num / den + 1 := by
  unfold roundedQuotient
  dsimp only
  split <;> omega

/-- Rounding up may bring a significand to the next power of two, but not beyond it. -/
theorem significand_le_two_pow : significand n ≤ 2 ^ 53 := by
  have hlt : n <<< 1074 < 2 ^ 53 * 1 <<< (n.log2 + 1022) := by
    rw [Nat.one_shiftLeft, Nat.shiftLeft_eq, ← Nat.pow_add,
      show 53 + (n.log2 + 1022) = n.log2 + 1 + 1074 by omega, Nat.pow_add]
    exact Nat.mul_lt_mul_of_pos_right Nat.lt_log2_self (Nat.two_pow_pos 1074)
  have hquotient := (Nat.div_lt_iff_lt_mul (one_shiftLeft_pos _)).mpr hlt
  exact Nat.le_trans (roundedQuotient_le _ _) hquotient

/-- A number of 64 bits is far from the largest double. -/
theorem nearestMagnitude_of_word (h : 0 < n) (hn : n < 2 ^ 64) :
    nearestMagnitude n 1 = significand n + (n.log2 + 1022) * 2 ^ 52 := by
  have hlog : n.log2 < 64 := (Nat.log2_lt (Nat.ne_of_gt h)).mpr hn
  have hhigh := significand_le_two_pow (n := n)
  rw [nearestMagnitude_whole h]
  unfold infinite
  omega

theorem nearestMagnitude_lt_infinite (hn : n < 2 ^ 64) : nearestMagnitude n 1 < infinite := by
  rcases Nat.eq_zero_or_pos n with rfl | hpos
  · decide +kernel
  · have hlog : n.log2 < 64 := (Nat.log2_lt (Nat.ne_of_gt hpos)).mpr hn
    have hhigh := significand_le_two_pow (n := n)
    rw [nearestMagnitude_of_word hpos hn]
    unfold infinite
    omega

/-- The significand of a number stands for the number rounded. -/
theorem significand_shiftLeft (h : 0 < n) :
    significand n <<< (n.log2 + 1022) = nearestWhole n <<< 1074 := by
  rcases Nat.lt_or_ge n.log2 52 with hfew | hmany
  · have hn : n < 2 ^ 53 := (Nat.log2_lt (Nat.ne_of_gt h)).mp (by omega)
    rw [significand_of_lt h hn, nearestWhole_of_lt hn, ← Nat.shiftLeft_add,
      show 52 - n.log2 + (n.log2 + 1022) = 1074 by omega]
  · have hexponent : n.log2 + 1022 = n.log2 - 52 + 1074 := by omega
    have hquotient : significand n = roundedQuotient n (1 <<< (n.log2 - 52)) := by
      rw [significand, hexponent, Nat.shiftLeft_add, Nat.shiftLeft_eq n,
        Nat.shiftLeft_eq (1 <<< (n.log2 - 52)), roundedQuotient_mul_mul _ _ (Nat.two_pow_pos 1074)]
    rw [hquotient, nearestWhole, hexponent, Nat.shiftLeft_add]

/-- The magnitude nearest to a whole number stands for the number rounded. -/
theorem units_nearestMagnitude (hn : n < 2 ^ 64) :
    units (nearestMagnitude n 1) = nearestWhole n <<< 1074 := by
  rcases Nat.eq_zero_or_pos n with rfl | hpos
  · decide +kernel
  · have hlow := two_pow_le_significand hpos
    have hhigh := significand_le_two_pow (n := n)
    rw [← significand_shiftLeft hpos, nearestMagnitude_of_word hpos hn]
    generalize significand n = significand at hlow hhigh ⊢
    rcases Nat.lt_or_eq_of_le hhigh with hlt | rfl
    · have hnormal : significand + (n.log2 + 1022) * 2 ^ 52 =
          (n.log2 + 1022 + 1) * 2 ^ 52 + (significand - 2 ^ 52) := by omega
      rw [hnormal, units_normal _ (by omega), Nat.add_sub_cancel' hlow]
    · -- rounded up to the next power of two, which has the next exponent
      have hnormal : 2 ^ 53 + (n.log2 + 1022) * 2 ^ 52 = (n.log2 + 1023 + 1) * 2 ^ 52 + 0 := by omega
      rw [hnormal, units_normal _ (Nat.two_pow_pos 52), Nat.shiftLeft_succ_inside]

theorem nearestMagnitude_eq_iff (hm : m < 2 ^ 64) (hn : n < 2 ^ 64) :
    nearestMagnitude m 1 = nearestMagnitude n 1 ↔ nearestWhole m = nearestWhole n := by
  rw [← units_inj, units_nearestMagnitude hm, units_nearestMagnitude hn, Nat.shiftLeft_eq,
    Nat.shiftLeft_eq, Nat.mul_right_cancel_iff (Nat.two_pow_pos 1074)]

theorem nearestMagnitude_eq_zero_iff (hn : n < 2 ^ 64) :
    nearestMagnitude n 1 = 0 ↔ nearestWhole n = 0 := by
  have hzero : nearestMagnitude 0 1 = 0 := by decide +kernel
  have hwhole : nearestWhole 0 = 0 := nearestWhole_of_lt (Nat.two_pow_pos 53)
  have hiff := nearestMagnitude_eq_iff hn (Nat.two_pow_pos 64)
  rwa [hzero, hwhole] at hiff

end NearestWhole

/-- The whole number with 53 significant bits that is nearest to a number of either sign. -/
def nearestInt (n : Int) : Int :=
  if n < 0 then -(nearestWhole n.natAbs : Int) else nearestWhole n.natAbs

section NearestInt

variable {m n : Int}

theorem isFinite_ofInt (hn : n.natAbs < 2 ^ 64) : (ofInt n).isFinite = true := by
  rw [isFinite, ofInt, magnitude_ofParts (nearestMagnitude_lt_two_pow _ _), decide_eq_true_iff]
  exact nearestMagnitude_lt_infinite hn

/-- Whole numbers have equal doubles exactly when they are rounded to the same whole number. -/
theorem equal_ofInt_iff_nearestInt (hm : m.natAbs < 2 ^ 64) (hn : n.natAbs < 2 ^ 64) :
    (ofInt m).equal (ofInt n) = true ↔ nearestInt m = nearestInt n := by
  have hmagnitude : ∀ k : Int, (ofInt k).magnitude = nearestMagnitude k.natAbs 1 := fun k =>
    magnitude_ofParts (nearestMagnitude_lt_two_pow _ _)
  have hnegative : ∀ k : Int, (ofInt k).negative = decide (k < 0) := fun k =>
    negative_ofParts (nearestMagnitude_lt_two_pow _ _)
  rw [equal_iff, hmagnitude, hmagnitude, nearestMagnitude_eq_zero_iff hm,
    nearestMagnitude_eq_zero_iff hn]
  constructor
  · rintro (⟨-, hsame⟩ | ⟨hm0, hn0⟩)
    · have hwhole : nearestWhole m.natAbs = nearestWhole n.natAbs := by
        rw [← nearestMagnitude_eq_iff hm hn, ← hmagnitude, ← hmagnitude, hsame]
      have hsign : (m < 0) = (n < 0) := by
        have hbits := congrArg negative hsame
        rw [hnegative, hnegative] at hbits
        exact propext (decide_eq_decide.mp hbits)
      simp only [nearestInt, hwhole, hsign]
    · simp [nearestInt, hm0, hn0]
  · intro h
    have hwhole : nearestWhole m.natAbs = nearestWhole n.natAbs := by
      unfold nearestInt at h
      split at h <;> split at h <;> omega
    by_cases hsign : m < 0 ↔ n < 0
    · have hmagnitudes := (nearestMagnitude_eq_iff hm hn).mpr hwhole
      refine .inl ⟨isNaN_ofInt m, ?_⟩
      rw [ofInt, ofInt, hmagnitudes, decide_eq_decide.mpr hsign]
    · -- of two numbers with different signs, both are rounded to zero
      unfold nearestInt at h
      exact .inr (by split at h <;> split at h <;> omega)

end NearestInt

end Binary64

end RecordStore.Number
