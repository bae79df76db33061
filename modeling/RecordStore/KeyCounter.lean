/-
# RecordStore.KeyCounter — the source of generated keys.

One 64-bit counter serves every partition, so generated keys form a single series of numbers.
`issue` hands out the counter as a decimal text and steps it.  `advancePast?` moves the counter
beyond a number that a caller has used as a key, and refuses when no key could follow that number.

The counter word wraps when a key is issued at the largest word.  `advancePast?` never brings it
there; only issuing keys one after another can.
-/
import RecordStore.Number.Decimal

namespace RecordStore

/-- A counter whose word is the number of the next generated key. -/
structure KeyCounter where
  next : UInt64
deriving DecidableEq

namespace KeyCounter

/-- A counter whose first key is `0`. -/
def zero : KeyCounter := ⟨0⟩

/-- The key that the counter stands for now, and the counter after it was handed out. -/
def issue (c : KeyCounter) : String × KeyCounter :=
  (Number.Decimal.text c.next.toNat, ⟨c.next + 1⟩)

/-- The counter moved, if need be, so that every key it will issue is above `key`; nothing when
`key` leaves no room for a key and a further step. -/
def advancePast? (c : KeyCounter) (key : UInt64) : Option KeyCounter :=
  if key.toNat + 1 < 2 ^ 64 - 1 then some ⟨max c.next (key + 1)⟩ else none

/-- The number that a key text writes, when it is one that a counter could reach. -/
def number? (key : String) : Option UInt64 :=
  (Number.Decimal.wordBelow? (2 ^ 64) key).map UInt64.ofNat

/-! ## Laws -/

theorem number?_issue (c : KeyCounter) : number? c.issue.1 = some c.next := by
  simp only [number?, issue, Number.Decimal.wordBelow?_text c.next.toNat_lt, Option.map_some,
    UInt64.ofNat_toNat]

/-- A key is issued by one step of the counter, unless the counter stands at the largest word. -/
theorem toNat_next_issue {c : KeyCounter} (h : c.next.toNat + 1 < 2 ^ 64) :
    c.issue.2.next.toNat = c.next.toNat + 1 := by
  show (c.next + 1).toNat = c.next.toNat + 1
  rw [UInt64.toNat_add]
  exact Nat.mod_eq_of_lt h

theorem advancePast?_eq_none_iff {c : KeyCounter} {key : UInt64} :
    c.advancePast? key = none ↔ 2 ^ 64 - 2 ≤ key.toNat := by
  unfold advancePast?
  split <;> simp <;> omega

/-- A successful advance leaves the counter at the larger of its old word and the word after the
key. -/
theorem toNat_next_of_advancePast? {c d : KeyCounter} {key : UInt64}
    (h : c.advancePast? key = some d) : d.next.toNat = max c.next.toNat (key.toNat + 1) := by
  unfold advancePast? at h
  split at h
  · rename_i hk
    cases h
    have hs : (key + 1).toNat = key.toNat + 1 := by
      rw [UInt64.toNat_add]
      exact Nat.mod_eq_of_lt (by simp; omega)
    show (if c.next ≤ key + 1 then key + 1 else c.next).toNat = _
    simp only [UInt64.le_iff_toNat_le, hs]
    split <;> omega
  · cases h

end KeyCounter

instance lawfulOrderMaxWord : Std.LawfulOrderMax UInt64 where
  max_eq_or a b := by
    show (if a ≤ b then b else a) = a ∨ (if a ≤ b then b else a) = b
    split <;> simp
  max_le_iff a b c := by
    show (if a ≤ b then b else a) ≤ c ↔ _
    simp only [UInt64.le_iff_toNat_le]
    split <;> omega

end RecordStore
