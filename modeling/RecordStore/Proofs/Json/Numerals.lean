/-
# RecordStore.Proofs.Json.Numerals — numbers are written as numerals of JSON.

The scanner reads a number symbol by symbol and knows by its phase how the number may go on and
whether it may end.  A numeral is a text on which it comes from the beginning of a number to a phase
in which the number may end, with a minus sign in front if need be (`IsNumeral`).

Both kinds of numbers are written as numerals: whole numbers by their digits, and doubles by the
digits of a positive number with a point, an exponent or both (`isNumeral_chars`).  That the number is
positive matters: its digits do not begin with a zero, so the point may stand after any of them.
-/
import RecordStore.Json.Scanner
import RecordStore.Proofs.Number.Shortest

namespace RecordStore

open Number.Decimal (digits)

/-- The digits of a positive number begin with one that is not a zero. -/
theorem Number.Decimal.exists_digits_eq_cons {n : Nat} (h : 0 < n) :
    ∃ first rest, digits n = first :: rest ∧ first.isDigit = true ∧ first ≠ '0' ∧
      rest.all Char.isDigit = true := by
  induction n using Nat.strongRecOn with
  | _ n ih =>
    by_cases hsmall : n < 10
    · refine ⟨n.digitChar, [], digits_of_lt hsmall, isDigit_digitChar hsmall, ?_, rfl⟩
      intro hzero
      have hvalue := digitValue_digitChar hsmall
      rw [hzero] at hvalue
      exact Nat.ne_of_lt h hvalue
    · obtain ⟨first, rest, hdigits, hfirst, hne, hrest⟩ := ih (n / 10) (by omega) (by omega)
      refine ⟨first, rest ++ [(n % 10).digitChar], ?_, hfirst, hne, ?_⟩
      · rw [digits_of_le (by omega), hdigits, List.cons_append]
      · rw [List.all_append, hrest, Bool.true_and]
        simpa using isDigit_digitChar (d := n % 10) (by omega)

namespace Json

namespace NumberPhase

variable {p q r : NumberPhase} {text more : List Char}

/-- The phase after further symbols of a number, if the number goes on with all of them. -/
def after? (p : NumberPhase) (text : List Char) : Option NumberPhase := text.foldlM next? p

theorem after?_cons {c : Char} : p.after? (c :: text) = (p.next? c).bind (·.after? text) := rfl

theorem after?_append (h : p.after? text = some q) : p.after? (text ++ more) = q.after? more := by
  rw [after?, List.foldlM_append, ← after?, h]
  rfl

/-- A phase that digits do not change. -/
def TakesDigits (p : NumberPhase) : Prop := ∀ c : Char, c.isDigit = true → p.next? c = some p

theorem takesDigits_whole : whole.TakesDigits := fun _ hc => if_pos hc

theorem takesDigits_fraction : fraction.TakesDigits := fun _ hc => if_pos hc

theorem takesDigits_exponent : exponent.TakesDigits := fun _ hc => if_pos hc

theorem TakesDigits.after?_eq (hp : p.TakesDigits) (h : text.all Char.isDigit = true) :
    p.after? text = some p := by
  induction text with
  | nil => rfl
  | cons c rest ih =>
    rw [List.all_cons, Bool.and_eq_true] at h
    rw [after?_cons, hp c h.1]
    exact ih h.2

end NumberPhase

open NumberPhase

/-- A text that is a number of JSON: the number is whole at its end, and there may be a minus sign in
front of it. -/
def IsNumeral (lexeme : List Char) : Prop :=
  ∃ unsigned last, (lexeme = unsigned ∨ lexeme = '-' :: unsigned) ∧
    minus.after? unsigned = some last ∧ last.mayEnd = true

theorem IsNumeral.signed {lexeme : List Char} {last : NumberPhase}
    (h : minus.after? lexeme = some last) (hend : last.mayEnd = true) (negative : Bool) :
    IsNumeral (if negative then '-' :: lexeme else lexeme) := by
  refine ⟨lexeme, last, ?_, h, hend⟩
  cases negative
  · exact .inl rfl
  · exact .inr rfl

/-! ## Runs of digits -/

theorem next?_minus_of_ne_zero {c : Char} (h : c.isDigit = true) (hne : c ≠ '0') :
    minus.next? c = some whole := by
  rw [next?, if_neg hne, if_pos h]

/-- The digits of a positive number, up to any of them or to the last. -/
theorem after?_minus_take_digits {n : Nat} (h : 0 < n) (cut : Nat) :
    minus.after? ((digits n).take (cut + 1)) = some whole := by
  obtain ⟨first, rest, hdigits, hfirst, hne, hrest⟩ := Number.Decimal.exists_digits_eq_cons h
  have htake : (rest.take cut).all Char.isDigit = true := by
    rw [List.all_eq_true] at hrest ⊢
    exact fun c hc => hrest c (List.mem_of_mem_take hc)
  rw [hdigits, List.take_succ_cons, after?_cons, next?_minus_of_ne_zero hfirst hne]
  exact takesDigits_whole.after?_eq htake

theorem after?_minus_digits {n : Nat} (h : 0 < n) : minus.after? (digits n) = some whole := by
  have hall := after?_minus_take_digits h (digits n).length
  rwa [List.take_of_length_le (Nat.le_succ _)] at hall

theorem exists_after?_minus_digits (n : Nat) :
    ∃ last, minus.after? (digits n) = some last ∧ last.mayEnd = true := by
  rcases Nat.eq_zero_or_pos n with rfl | h
  · exact ⟨zero, rfl, rfl⟩
  · exact ⟨whole, after?_minus_digits h, rfl⟩

theorem next?_of_isDigit {c : Char} (h : c.isDigit = true) :
    point.next? c = some fraction ∧ markSign.next? c = some exponent :=
  ⟨if_pos h, if_pos h⟩

/-- One digit or more after the point. -/
theorem after?_point {text : List Char} (hne : text ≠ []) (h : text.all Char.isDigit = true) :
    point.after? text = some fraction := by
  cases text with
  | nil => exact absurd rfl hne
  | cons c rest =>
    rw [List.all_cons, Bool.and_eq_true] at h
    rw [after?_cons, (next?_of_isDigit h.1).1]
    exact takesDigits_fraction.after?_eq h.2

/-- One digit or more after the sign of an exponent. -/
theorem after?_markSign_digits (n : Nat) : markSign.after? (digits n) = some exponent := by
  have hall := Number.Decimal.all_isDigit_digits n
  cases h : digits n with
  | nil => exact absurd h (Number.Decimal.digits_ne_nil n)
  | cons c rest =>
    rw [h, List.all_cons, Bool.and_eq_true] at hall
    rw [after?_cons, (next?_of_isDigit hall.1).2]
    exact takesDigits_exponent.after?_eq hall.2

theorem all_isDigit_zeros (n : Nat) : (List.replicate n '0').all Char.isDigit = true := by
  simp

/-! ## Doubles -/

open Number.FloatText

/-- The digits of a positive number with a point are a fraction. -/
theorem after?_minus_pointed {n : Nat} (h : 0 < n) (places : Int) :
    minus.after? (pointed (digits n) places) = some fraction := by
  have hall := Number.Decimal.all_isDigit_digits n
  unfold pointed
  dsimp only
  split
  · -- the point stands before the digits
    have hzero : minus.after? "0.".toList = some point := rfl
    rw [List.append_assoc, after?_append hzero]
    apply after?_point
    · simp [Number.Decimal.digits_ne_nil n]
    · rw [List.all_append, all_isDigit_zeros, hall]
      rfl
  · split
    · -- behind them, and behind zeros if need be
      rw [List.append_assoc, after?_append (after?_minus_digits h),
        after?_append (takesDigits_whole.after?_eq (all_isDigit_zeros _))]
      rfl
    · next hlong =>
      -- between two of them
      rw [after?_append (after?_minus_take_digits h _), after?_cons]
      apply after?_point
      · intro hnil
        have hlength := congrArg List.length hnil
        rw [List.length_drop, List.length_nil] at hlength
        omega
      · rw [List.all_eq_true] at hall ⊢
        exact fun c hc => hall c (List.mem_of_mem_drop hc)

/-- The digits of a positive number with an exponent end in the exponent. -/
theorem after?_minus_withExponent {n : Nat} (h : 0 < n) (power : Int) :
    minus.after? (withExponent (digits n) power) = some exponent := by
  have hmark : ∀ p, p = whole ∨ p = fraction →
      p.after? ('e' :: (if power < 0 then '-' else '+') :: digits power.natAbs) =
        some exponent := by
    intro p hp
    rcases hp with rfl | rfl <;> split <;> exact after?_markSign_digits power.natAbs
  unfold withExponent
  obtain ⟨first, rest, hdigits, hfirst, hne, hrest⟩ := Number.Decimal.exists_digits_eq_cons h
  have hbegin := next?_minus_of_ne_zero hfirst hne
  rw [hdigits]
  cases rest with
  | nil =>
    show minus.after? ([first] ++ _) = _
    rw [after?_append (q := whole) (by rw [after?_cons, hbegin]; rfl)]
    exact hmark whole (.inl rfl)
  | cons second rest =>
    show minus.after? ((first :: '.' :: second :: rest) ++ _) = _
    have hpoint : minus.after? (first :: '.' :: second :: rest) = some fraction := by
      rw [after?_cons, hbegin]
      exact after?_point (List.cons_ne_nil _ _) hrest
    rw [after?_append hpoint]
    exact hmark fraction (.inr rfl)

theorem exists_after?_minus_ofScientific (layout : Layout) {s : Number.Shortest.Scientific}
    (h : 0 < s.significand) :
    ∃ last, minus.after? (ofScientific layout s) = some last ∧ last.mayEnd = true := by
  unfold ofScientific
  dsimp only
  split
  · exact ⟨fraction, after?_minus_pointed h _, rfl⟩
  · exact ⟨exponent, after?_minus_withExponent h _, rfl⟩

/-! ## Numbers -/

/-- Every number is written as a numeral. -/
theorem isNumeral_chars (n : Json.Number) : IsNumeral n.chars := by
  cases n with
  | integer n fits =>
    obtain ⟨last, hlast, hend⟩ := exists_after?_minus_digits n.natAbs
    have hsigned := IsNumeral.signed hlast hend (n < 0)
    simpa [Number.chars] using hsigned
  | float x finite =>
    have hfinite : x.magnitude < RecordStore.Number.Binary64.infinite := of_decide_eq_true finite
    have hnumber : x.isNaN = false := decide_eq_false (Nat.not_lt_of_lt hfinite)
    show IsNumeral (RecordStore.Number.FloatText.chars x)
    unfold RecordStore.Number.FloatText.chars
    rw [if_neg (by simp [hnumber]), if_neg (Nat.ne_of_lt hfinite)]
    by_cases hzero : x.magnitude = 0
    · rw [if_pos hzero]
      have hpoint : minus.after? "0.0".toList = some fraction := rfl
      exact .signed hpoint rfl x.negative
    · rw [if_neg hzero]
      obtain ⟨last, hlast, hend⟩ := exists_after?_minus_ofScientific .standard
        (RecordStore.Number.Shortest.significand_ofMagnitude_pos (Nat.pos_of_ne_zero hzero))
      exact .signed hlast hend x.negative

end Json

end RecordStore
