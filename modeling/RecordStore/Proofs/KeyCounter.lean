/-
# RecordStore.Proofs.KeyCounter — the keys that one counter issues.

A counter is asked for keys, and is moved past keys that callers use, in any order.  A key is the
text of the word that the counter stands at, so all that is to be said of keys is said of words: each
call leaves the counter where it was or takes it up (`le_after`), a key that is issued and a number
that is moved past are left behind (`lt_after_of_issue`, `lt_after_of_moved`).  By induction over the
calls nothing that was left behind comes back (`next_le_of_le`), and the laws of the issued keys
follow (`issued_keys_keep_ahead`).

The word of a counter wraps when a key is issued at the largest word.  Calls that do so are left out
(`NeverWraps`).
-/
import RecordStore.Proofs.Store.Headroom

namespace RecordStore.KeyCounter

open Number (Decimal.text)

variable {c : KeyCounter} {call : Call} {calls : List Call} {n : UInt64} {i j : Nat}

/-! ## Answers -/

/-- What a counter answers to a call. -/
inductive Answer where
  | issued (key : String)
  | moved
  | refused
deriving DecidableEq

/-- The answer to a call. -/
def answer (c : KeyCounter) : Call → Answer
  | .issue => .issued c.issue.1
  | .advancePast key => if (c.advancePast? key).isSome then .moved else .refused

/-- The answers to calls, one after another. -/
def answers (c : KeyCounter) : List Call → List Answer
  | [] => []
  | call :: rest => c.answer call :: answers (c.after call) rest

/-- No key is issued while the counter stands at the largest word. -/
def NeverWraps (c : KeyCounter) (calls : List Call) : Prop :=
  ∀ i, calls[i]? = some .issue → (c.run (calls.take i)).HasHeadroom

/-- Each call is answered by the counter as the calls before have left it. -/
theorem getElem?_answers (c : KeyCounter) (calls : List Call) (i : Nat) :
    (c.answers calls)[i]? = calls[i]?.map (c.run (calls.take i)).answer := by
  induction calls generalizing c i with
  | nil => rfl
  | cons call rest ih =>
    cases i with
    | zero => rfl
    | succ i =>
      simp only [answers, List.getElem?_cons_succ, List.take_succ_cons]
      exact ih (c.after call) i

theorem run_take_succ (h : calls[i]? = some call) :
    c.run (calls.take (i + 1)) = (c.run (calls.take i)).after call := by
  simp only [run, List.take_add_one, h, Option.toList_some, List.foldl_append, List.foldl_cons,
    List.foldl_nil]

/-! ## One call -/

theorem answer_eq_moved_iff :
    c.answer (.advancePast n) = .moved ↔ ∃ d, c.advancePast? n = some d := by
  simp [answer, Option.isSome_iff_exists]

theorem answer_eq_refused_iff :
    c.answer (.advancePast n) = .refused ↔ c.advancePast? n = none := by
  simp [answer]

theorem moved_or_refused (c : KeyCounter) (n : UInt64) :
    c.answer (.advancePast n) = .moved ∨ c.answer (.advancePast n) = .refused := by
  simp only [answer]
  split <;> simp

theorem lt_after_of_issue (h : c.HasHeadroom) :
    c.next.toNat < (c.after .issue).next.toNat := by
  have hstep : (c.after .issue).next.toNat = c.next.toNat + 1 := hasHeadroom_iff_steps.mp h
  omega

/-- A counter that was moved past a number stands above it, and not below where it stood. -/
theorem next_after_of_moved (h : c.answer (.advancePast n) = .moved) :
    (c.after (.advancePast n)).next.toNat = max c.next.toNat (n.toNat + 1) := by
  obtain ⟨d, hd⟩ := answer_eq_moved_iff.mp h
  simp only [after, hd, Option.getD_some]
  exact toNat_next_of_advancePast? hd

theorem lt_after_of_moved (h : c.answer (.advancePast n) = .moved) :
    n.toNat < (c.after (.advancePast n)).next.toNat := by
  have hnext := next_after_of_moved h
  omega

/-- A number that is refused leaves the counter as it is. -/
theorem after_of_refused (h : c.answer (.advancePast n) = .refused) :
    c.after (.advancePast n) = c := by
  simp only [after, answer_eq_refused_iff.mp h, Option.getD_none]

/-- No call takes the counter back. -/
theorem le_after (h : call = .issue → c.HasHeadroom) :
    c.next.toNat ≤ (c.after call).next.toNat := by
  cases call with
  | issue => exact Nat.le_of_lt (lt_after_of_issue (h rfl))
  | advancePast n =>
    rcases moved_or_refused c n with hmoved | hrefused
    · have hnext := next_after_of_moved hmoved
      omega
    · have hsame := after_of_refused hrefused
      simp [hsame]

/-! ## Calls one after another -/

theorem next_le_succ (h : c.NeverWraps calls) (i : Nat) :
    (c.run (calls.take i)).next.toNat ≤ (c.run (calls.take (i + 1))).next.toNat := by
  cases hcall : calls[i]? with
  | none =>
    -- the calls have ended before
    simp [List.take_add_one, hcall]
  | some call =>
    rw [run_take_succ hcall]
    apply le_after
    rintro rfl
    exact h i hcall

/-- Along calls the counter never goes back. -/
theorem next_le_of_le (h : c.NeverWraps calls) (hij : i ≤ j) :
    (c.run (calls.take i)).next.toNat ≤ (c.run (calls.take j)).next.toNat := by
  induction hij with
  | refl => exact Nat.le_refl _
  | step _ ih => exact Nat.le_trans ih (next_le_succ h _)

/-- An issued key is the text of the word that the counter stands at, and was asked for. -/
theorem issued_iff {key : String} :
    (c.answers calls)[i]? = some (.issued key) ↔
      calls[i]? = some .issue ∧ key = Decimal.text (c.run (calls.take i)).next.toNat := by
  rw [getElem?_answers]
  cases hcall : calls[i]? with
  | none => simp
  | some call =>
    cases call with
    | issue => simp [answer, issue, eq_comm]
    | advancePast n =>
      simp only [Option.map_some, answer]
      split <;> simp

/-- What the counter has left behind with one call is below every key that it issues later. -/
theorem lt_of_issued_later {key : String} (h : c.NeverWraps calls) (hij : i < j)
    (hbehind : n.toNat < (c.run (calls.take (i + 1))).next.toNat)
    (hkey : (c.answers calls)[j]? = some (.issued key)) :
    ∃ m : UInt64, key = Decimal.text m.toNat ∧ n < m := by
  obtain ⟨-, hkey⟩ := issued_iff.mp hkey
  refine ⟨_, hkey, UInt64.lt_iff_toNat_lt.mpr ?_⟩
  exact Nat.lt_of_lt_of_le hbehind (next_le_of_le h hij)

/-- Of calls that never let the counter wrap: the counter never goes back; each issued key is the text
of the word that the counter stands at, and of two issued keys the later writes the larger number; a
number that was moved past is below every number issued later; and a number is refused exactly if it
is one of the two largest words, and then nothing changes. -/
theorem issued_keys_keep_ahead (c : KeyCounter) (calls : List Call) (h : c.NeverWraps calls) :
    (∀ i j : Nat, i ≤ j → (c.run (calls.take i)).next ≤ (c.run (calls.take j)).next) ∧
    (∀ i : Nat, calls[i]? = some .issue → (c.answers calls)[i]? =
      some (.issued (Decimal.text (c.run (calls.take i)).next.toNat))) ∧
    (∀ (i j : Nat) (first second : String), i < j → (c.answers calls)[i]? = some (.issued first) →
      (c.answers calls)[j]? = some (.issued second) →
      ∃ m n : UInt64, first = Decimal.text m.toNat ∧ second = Decimal.text n.toNat ∧ m < n) ∧
    (∀ (i : Nat) (n : UInt64), calls[i]? = some (.advancePast n) →
      ((c.answers calls)[i]? = some .moved → ∀ (j : Nat) (key : String), i < j →
        (c.answers calls)[j]? = some (.issued key) →
        ∃ m : UInt64, key = Decimal.text m.toNat ∧ n < m) ∧
      ((c.answers calls)[i]? = some .moved ∨ (c.answers calls)[i]? = some .refused) ∧
      ((c.answers calls)[i]? = some .refused ↔ 2 ^ 64 - 2 ≤ n.toNat) ∧
      ((c.answers calls)[i]? = some .refused →
        c.run (calls.take (i + 1)) = c.run (calls.take i))) := by
  refine ⟨?forward, ?text, ?increasing, ?past⟩
  case forward =>
    intro i j hij
    exact UInt64.le_iff_toNat_le.mpr (next_le_of_le h hij)
  case text =>
    intro i hcall
    exact issued_iff.mpr ⟨hcall, rfl⟩
  case increasing =>
    intro i j first second hij hfirst hsecond
    obtain ⟨hcall, hfirst⟩ := issued_iff.mp hfirst
    have hbehind := lt_after_of_issue (h i hcall)
    rw [← run_take_succ hcall] at hbehind
    obtain ⟨n, hn, hlt⟩ := lt_of_issued_later h hij hbehind hsecond
    exact ⟨_, n, hfirst, hn, hlt⟩
  case past =>
    intro i n hcall
    have hanswer : (c.answers calls)[i]? =
        some ((c.run (calls.take i)).answer (.advancePast n)) := by
      rw [getElem?_answers, hcall, Option.map_some]
    rw [hanswer, run_take_succ hcall]
    simp only [Option.some.injEq]
    refine ⟨?later, moved_or_refused _ n, ?limit, after_of_refused⟩
    case later =>
      intro hmoved j key hij hkey
      have hbehind := lt_after_of_moved hmoved
      rw [← run_take_succ hcall] at hbehind
      exact lt_of_issued_later h hij hbehind hkey
    case limit => rw [answer_eq_refused_iff, advancePast?_eq_none_iff]

/-- A key, a number behind the counter, one far ahead, a key, two refusals, and the last key before
the largest word. -/
def callsToTheLimit : List Call :=
  [.issue, .advancePast 0, .advancePast 18446744073709551612, .issue,
    .advancePast 18446744073709551614, .advancePast 18446744073709551615, .issue]

theorem callsToTheLimit_keep_ahead :
    zero.NeverWraps callsToTheLimit ∧
    zero.answers callsToTheLimit = [.issued "0", .moved, .moved, .issued "18446744073709551613",
      .refused, .refused, .issued "18446744073709551614"] ∧
    (∀ i j : Nat, i ≤ j →
      (zero.run (callsToTheLimit.take i)).next ≤ (zero.run (callsToTheLimit.take j)).next) ∧
    ∃ m : UInt64, "18446744073709551614" = Decimal.text m.toNat ∧ 18446744073709551612 < m := by
  have hnever : zero.NeverWraps callsToTheLimit := by
    have hbelow : ∀ i < 7, (zero.run (callsToTheLimit.take i)).HasHeadroom := by decide +kernel
    intro i hcall
    exact hbelow i (List.getElem?_eq_some_iff.mp hcall).1
  have hanswers : zero.answers callsToTheLimit = [.issued "0", .moved, .moved,
      .issued "18446744073709551613", .refused, .refused, .issued "18446744073709551614"] := by
    decide +kernel
  obtain ⟨hforward, -, -, hpast⟩ := issued_keys_keep_ahead zero callsToTheLimit hnever
  obtain ⟨hlater, -⟩ := hpast 2 18446744073709551612 rfl
  refine ⟨hnever, hanswers, hforward, ?_⟩
  rw [hanswers] at hlater
  exact hlater rfl 6 _ (by decide) rfl

end RecordStore.KeyCounter
