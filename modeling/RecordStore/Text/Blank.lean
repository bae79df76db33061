/-
# RecordStore.Text.Blank — blank characters and trimming.

Bearer tokens and texts tested against number fields are trimmed before use.  A blank is a
character with the Unicode property White_Space, which has twenty-five members; `trim` takes the
blanks off both ends of a text and leaves those inside alone.
-/

namespace RecordStore.Text

/-- Whether `c` has the property White_Space. -/
def isBlank (c : Char) : Bool :=
  let n := c.toNat
  (9 ≤ n && n ≤ 13) || n == 0x20 || n == 0x85 || n == 0xA0 || n == 0x1680 ||
    (0x2000 ≤ n && n ≤ 0x200A) || n == 0x2028 || n == 0x2029 || n == 0x202F || n == 0x205F ||
    n == 0x3000

/-- A text without the blanks at its two ends. -/
def trim (text : List Char) : List Char :=
  ((text.dropWhile isBlank).reverse.dropWhile isBlank).reverse

/-- Every character that counts as whitespace among the ASCII ones is blank. -/
theorem isBlank_of_isWhitespace {c : Char} (h : c.isWhitespace = true) : isBlank c = true := by
  simp only [Char.isWhitespace, Bool.or_eq_true, decide_eq_true_eq] at h
  rcases h with ((h | h) | h) | h <;> subst h <;> decide

/-- A text that neither starts nor ends with a blank is its own trimmed form. -/
theorem trim_eq_self {text : List Char} (hs : ∀ c ∈ text.head?, isBlank c = false)
    (he : ∀ c ∈ text.getLast?, isBlank c = false) : trim text = text := by
  have drop : ∀ l : List Char, (∀ c ∈ l.head?, isBlank c = false) → l.dropWhile isBlank = l := by
    intro l hl
    cases l with
    | nil => rfl
    | cons c rest => simp [hl c (by simp)]
  rw [trim, drop text hs, drop text.reverse (by simpa using he), List.reverse_reverse]

end RecordStore.Text
