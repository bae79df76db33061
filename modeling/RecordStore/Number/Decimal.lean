/-
# RecordStore.Number.Decimal — whole numbers written in decimal digits.

Record keys are texts, and many of them write a whole number: generated keys always do, supplied
keys may.  This file holds the two directions.  `text` writes a number with its fewest digits;
`wordBelow?` reads a text as a number below a bound, and is more lenient than `text`: it admits
leading zeros and one leading plus sign.

The main statement is `wordBelow?_text`: every number below the bound is read back from its own
text.  Since the reader is lenient the converse fails, so two different texts may write the same
number.
-/

-- Powers are those of the core library, also where others are in scope.
attribute [default_instance 20000] instPowNat

namespace RecordStore.Number.Decimal

/-! ## Digits -/

/-- The number that one decimal digit stands for. -/
def digitValue (c : Char) : Nat := c.toNat - 48

/-- The number that a run of digits writes, most significant digit first. -/
def value (digits : List Char) : Nat :=
  digits.foldl (fun n c => 10 * n + digitValue c) 0

/-- The digits of `n`, most significant first; zero has the single digit `0`. -/
def digits (n : Nat) : List Char := Nat.toDigits 10 n

/-- The power of ten of an exponent. -/
def powerOfTen (exponent : Nat) : Nat := Nat.pow 10 exponent

/-- The decimal text of `n`. -/
def text (n : Nat) : String := String.ofList (digits n)

/-- A text without the plus sign it may start with. -/
def unsigned : List Char → List Char
  | '+' :: rest => rest
  | all => all

/-- The number below `bound` that a run of one or more digits writes. -/
def runBelow? (bound : Nat) (run : List Char) : Option Nat :=
  if run ≠ [] ∧ run.all Char.isDigit = true ∧ value run < bound then some (value run) else none

/-- The number below `bound` that `text` writes, in digits after at most one plus sign. -/
def wordBelow? (bound : Nat) (text : String) : Option Nat :=
  runBelow? bound (unsigned text.toList)

/-! ## Writing and reading back -/

theorem value_append_singleton (ds : List Char) (c : Char) :
    value (ds ++ [c]) = 10 * value ds + digitValue c := by
  simp [value]

theorem digitValue_digitChar {d : Nat} (h : d < 10) : digitValue d.digitChar = d :=
  (by decide : ∀ e ∈ List.range 10, digitValue e.digitChar = e) d (List.mem_range.mpr h)

theorem isDigit_digitChar {d : Nat} (h : d < 10) : d.digitChar.isDigit = true :=
  (by decide : ∀ e ∈ List.range 10, e.digitChar.isDigit = true) d (List.mem_range.mpr h)

/-- A number below ten has one digit. -/
theorem digits_of_lt {n : Nat} (h : n < 10) : digits n = [n.digitChar] :=
  Nat.toDigits_of_lt_base h

/-- A number of ten or more has the digits of its tenth part and then its last digit. -/
theorem digits_of_le {n : Nat} (h : 10 ≤ n) :
    digits n = digits (n / 10) ++ [(n % 10).digitChar] :=
  Nat.toDigits_of_base_le (by decide) h

theorem value_digits (n : Nat) : value (digits n) = n := by
  induction n using Nat.strongRecOn with
  | _ n ih =>
    by_cases h : n < 10
    · rw [digits_of_lt h]
      simpa [value] using digitValue_digitChar h
    · have hle : 10 ≤ n := by omega
      rw [digits_of_le hle, value_append_singleton, ih (n / 10) (by omega),
        digitValue_digitChar (by omega)]
      omega

theorem all_isDigit_digits (n : Nat) : (digits n).all Char.isDigit = true := by
  induction n using Nat.strongRecOn with
  | _ n ih =>
    by_cases h : n < 10
    · rw [digits_of_lt h]
      simpa using isDigit_digitChar h
    · rw [digits_of_le (by omega), List.all_append, ih (n / 10) (by omega)]
      simpa using isDigit_digitChar (d := n % 10) (by omega)

theorem digits_ne_nil (n : Nat) : digits n ≠ [] := by
  by_cases h : n < 10
  · simp [digits_of_lt h]
  · simp [digits_of_le (n := n) (by omega)]

/-- Different numbers have different texts. -/
theorem text_injective {m n : Nat} (h : text m = text n) : m = n := by
  have hd : digits m = digits n := String.ofList_injective h
  rw [← value_digits m, hd, value_digits]

theorem runBelow?_eq_some_iff {bound n : Nat} {run : List Char} :
    runBelow? bound run = some n ↔
      run ≠ [] ∧ run.all Char.isDigit = true ∧ value run < bound ∧ value run = n := by
  unfold runBelow?
  by_cases h : run ≠ [] ∧ run.all Char.isDigit = true ∧ value run < bound
  · rw [if_pos h, Option.some.injEq]
    exact ⟨fun hn => ⟨h.1, h.2.1, h.2.2, hn⟩, fun hn => hn.2.2.2⟩
  · rw [if_neg h]
    constructor
    · intro hn
      cases hn
    · intro hn
      exact absurd ⟨hn.1, hn.2.1, hn.2.2.1⟩ h

/-- A run of digits has no sign to take off. -/
theorem unsigned_of_all_isDigit {run : List Char} (h : run.all Char.isDigit = true) :
    unsigned run = run := by
  unfold unsigned
  split
  · simp [Char.isDigit] at h
  · rfl

/-- Every number below the bound is read back from its own text. -/
theorem wordBelow?_text {bound n : Nat} (h : n < bound) : wordBelow? bound (text n) = some n := by
  rw [wordBelow?, text, String.toList_ofList, unsigned_of_all_isDigit (all_isDigit_digits n),
    runBelow?_eq_some_iff]
  exact ⟨digits_ne_nil n, all_isDigit_digits n, by rwa [value_digits], value_digits n⟩

theorem lt_of_wordBelow? {bound n : Nat} {t : String} (h : wordBelow? bound t = some n) :
    n < bound := by
  obtain ⟨_, _, hb, rfl⟩ := runBelow?_eq_some_iff.mp h
  exact hb

end RecordStore.Number.Decimal
