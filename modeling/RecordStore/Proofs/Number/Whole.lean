/-
# RecordStore.Proofs.Number.Whole — whole numbers among the doubles.

Rounding keeps the order of whole numbers, and up to 53 bits it keeps them apart from all others: a
number that is nearest to the same double as one of 53 bits is this number (`equal_ofInt_iff`).
Beyond 53 bits two neighbours may have one double.

The magnitude of a number of 53 bits is exact.  That of a larger one is not known to the last bit, but
it lies above all magnitudes of fewer bits, and this is enough to tell the two apart.
-/
import RecordStore.Number.Binary64

namespace RecordStore.Number

namespace Binary64

/-! ## Magnitudes of whole numbers -/

section Magnitudes

variable {m n : Nat}

theorem log2_shiftLeft (h : 0 < n) (k : Nat) : (n <<< k).log2 = n.log2 + k := by
  rw [Nat.shiftLeft_eq, Nat.log2_eq_iff (Nat.ne_of_gt (Nat.mul_pos h (Nat.two_pow_pos k)))]
  constructor
  · rw [Nat.pow_add]
    exact Nat.mul_le_mul_right _ (Nat.log2_self_le (Nat.ne_of_gt h))
  · rw [Nat.add_right_comm, Nat.pow_add]
    exact Nat.mul_lt_mul_of_pos_right Nat.lt_log2_self (Nat.two_pow_pos k)

theorem one_shiftLeft_pos (k : Nat) : 0 < 1 <<< k := by
  rw [Nat.one_shiftLeft]
  exact Nat.two_pow_pos k

theorem div_le_roundedQuotient (num den : Nat) : num / den ≤ roundedQuotient num den := by
  unfold roundedQuotient
  dsimp only
  split <;> omega

theorem roundedQuotient_mul (quotient : Nat) {den : Nat} (h : 0 < den) :
    roundedQuotient (quotient * den) den = quotient := by
  unfold roundedQuotient
  dsimp only
  rw [Nat.mul_mod_left, Nat.mul_div_cancel _ h, if_pos (.inl h)]

/-- The significand of a positive number, which has 53 bits but for a carry. -/
def significand (n : Nat) : Nat := roundedQuotient (n <<< 1074) (1 <<< (n.log2 + 1022))

theorem nearestMagnitude_whole (h : 0 < n) :
    nearestMagnitude n 1 = min infinite (significand n + (n.log2 + 1022) * 2 ^ 52) := by
  have hexponent : (n <<< 1074).log2 - 52 = n.log2 + 1022 := by
    rw [log2_shiftLeft h]
    omega
  unfold nearestMagnitude significand
  dsimp only
  rw [← Nat.shiftLeft_eq n 1074, Nat.div_one, hexponent, Nat.add_comm]

theorem two_pow_le_significand (h : 0 < n) : 2 ^ 52 ≤ significand n := by
  have hlead : 2 ^ 52 * 1 <<< (n.log2 + 1022) ≤ n <<< 1074 := by
    rw [Nat.one_shiftLeft, Nat.shiftLeft_eq, ← Nat.pow_add,
      show 52 + (n.log2 + 1022) = n.log2 + 1074 by omega, Nat.pow_add]
    exact Nat.mul_le_mul_right _ (Nat.log2_self_le (Nat.ne_of_gt h))
  exact Nat.le_trans ((Nat.le_div_iff_mul_le (one_shiftLeft_pos _)).mpr hlead)
    (div_le_roundedQuotient _ _)

/-- The leading bit of a number carries into the exponent. -/
theorem le_nearestMagnitude (h : 0 < n) :
    min infinite ((n.log2 + 1023) * 2 ^ 52) ≤ nearestMagnitude n 1 := by
  have hlead := two_pow_le_significand h
  rw [nearestMagnitude_whole h]
  omega

theorem log2_le_of_lt (h : 0 < n) (hn : n < 2 ^ 53) : n.log2 ≤ 52 :=
  Nat.le_of_lt_succ ((Nat.log2_lt (Nat.ne_of_gt h)).mpr hn)

/-- A number of 53 bits is not rounded. -/
theorem significand_of_lt (h : 0 < n) (hn : n < 2 ^ 53) :
    significand n = n <<< (52 - n.log2) := by
  have hlog := log2_le_of_lt h hn
  have hunits : n <<< 1074 = n <<< (52 - n.log2) * 1 <<< (n.log2 + 1022) := by
    rw [Nat.one_shiftLeft, ← Nat.shiftLeft_eq, ← Nat.shiftLeft_add,
      show 52 - n.log2 + (n.log2 + 1022) = 1074 by omega]
  rw [significand, hunits, roundedQuotient_mul _ (one_shiftLeft_pos _)]

theorem nearestMagnitude_of_lt (h : 0 < n) (hn : n < 2 ^ 53) :
    nearestMagnitude n 1 = (n.log2 + 1022) * 2 ^ 52 + n <<< (52 - n.log2) ∧
      nearestMagnitude n 1 < (n.log2 + 1024) * 2 ^ 52 := by
  have hlog := log2_le_of_lt h hn
  have hbits : n <<< (52 - n.log2) < 2 ^ 53 := by
    have hlt := Nat.mul_lt_mul_of_pos_right (Nat.lt_log2_self (n := n))
      (Nat.two_pow_pos (52 - n.log2))
    rwa [← Nat.pow_add, show n.log2 + 1 + (52 - n.log2) = 53 by omega, ← Nat.shiftLeft_eq] at hlt
  rw [nearestMagnitude_whole h, significand_of_lt h hn]
  unfold infinite
  omega

/-- A number of 53 bits lies below every larger number, as a double too. -/
theorem nearestMagnitude_lt (hm : m < 2 ^ 53) (hmn : m < n) :
    nearestMagnitude m 1 < nearestMagnitude n 1 := by
  have hn : 0 < n := Nat.zero_lt_of_lt hmn
  have hlower := le_nearestMagnitude hn
  rcases Nat.eq_zero_or_pos m with rfl | hpos
  · have hzero : nearestMagnitude 0 1 = 0 := by decide +kernel
    rw [hzero]
    unfold infinite at hlower
    omega
  · obtain ⟨hexact, hbelow⟩ := nearestMagnitude_of_lt hpos hm
    have hlog := log2_le_of_lt hpos hm
    have hmono : m.log2 ≤ n.log2 := by
      rw [Nat.le_log2 (Nat.ne_of_gt hn)]
      exact Nat.le_trans (Nat.log2_self_le (Nat.ne_of_gt hpos)) (Nat.le_of_lt hmn)
    rcases Nat.lt_or_eq_of_le hmono with hlt | heq
    · -- the larger number has more bits
      unfold infinite at hlower
      omega
    · have hn' : n < 2 ^ 53 := by
        have hpow : 2 ^ (n.log2 + 1) ≤ 2 ^ 53 := Nat.pow_le_pow_right (by decide) (by omega)
        exact Nat.lt_of_lt_of_le Nat.lt_log2_self hpow
      rw [hexact, (nearestMagnitude_of_lt hn hn').1, heq, Nat.shiftLeft_eq, Nat.shiftLeft_eq]
      exact Nat.add_lt_add_left (Nat.mul_lt_mul_of_pos_right hmn (Nat.two_pow_pos _)) _

theorem nearestMagnitude_inj (hn : n < 2 ^ 53) (h : nearestMagnitude m 1 = nearestMagnitude n 1) :
    m = n := by
  rcases Nat.lt_trichotomy m n with hlt | heq | hgt
  · have := nearestMagnitude_lt (Nat.lt_trans hlt hn) hlt
    omega
  · exact heq
  · have := nearestMagnitude_lt hn hgt
    omega

end Magnitudes

/-! ## Doubles of whole numbers -/

theorem nearestMagnitude_lt_two_pow (num den : Nat) : nearestMagnitude num den < 2 ^ 63 :=
  Nat.lt_of_le_of_lt (nearestMagnitude_le num den) (by decide)

theorem isNaN_ofInt (n : Int) : (ofInt n).isNaN = false := by
  rw [isNaN, ofInt, magnitude_ofParts (nearestMagnitude_lt_two_pow _ _), decide_eq_false_iff_not]
  exact Nat.not_lt.mpr (nearestMagnitude_le _ _)

/-- A whole number of 53 bits shares its double with no other. -/
theorem equal_ofInt_iff {m n : Int} (hn : n.natAbs < 2 ^ 53) :
    (ofInt m).equal (ofInt n) = true ↔ m = n := by
  constructor
  · intro h
    have hmagnitude : m.natAbs = n.natAbs := by
      apply nearestMagnitude_inj hn
      have hequal : (ofInt m).magnitude = (ofInt n).magnitude := by
        rcases equal_iff.mp h with ⟨-, h⟩ | ⟨hm, hn⟩
        · rw [h]
        · rw [hm, hn]
      rwa [ofInt, ofInt, magnitude_ofParts (nearestMagnitude_lt_two_pow _ _),
        magnitude_ofParts (nearestMagnitude_lt_two_pow _ _)] at hequal
    rcases equal_iff.mp h with ⟨-, h⟩ | ⟨-, hzero⟩
    · have hsign : decide (m < 0) = decide (n < 0) := by
        have hequal := congrArg negative h
        rwa [ofInt, ofInt, negative_ofParts (nearestMagnitude_lt_two_pow _ _),
          negative_ofParts (nearestMagnitude_lt_two_pow _ _)] at hequal
      have := decide_eq_decide.mp hsign
      omega
    · -- two zeros
      have hnone : n.natAbs = 0 := by
        symm
        apply nearestMagnitude_inj hn
        rw [ofInt, magnitude_ofParts (nearestMagnitude_lt_two_pow _ _)] at hzero
        rw [hzero]
        decide +kernel
      omega
  · rintro rfl
    exact equal_self (isNaN_ofInt m)

/-- Doubles that equal one double equal each other. -/
theorem equal_of_equal {x y z : Binary64} (hy : x.equal y = true) (hz : x.equal z = true) :
    y.equal z = true := by
  rw [equal_iff] at *
  rcases hy with ⟨hn, rfl⟩ | ⟨hx, hy⟩
  · exact hz
  · rcases hz with ⟨-, rfl⟩ | ⟨-, hz⟩
    · exact .inr ⟨hy, hx⟩
    · exact .inr ⟨hy, hz⟩

end Binary64

end RecordStore.Number
