/-
# RecordStore.Json.Basic — JSON documents as they are written.

A `Json` keeps what a document says: the members of its objects in the order they stand in, a name
possibly more than once.  Replies are written in this form, because the order of their fields is
part of the format.  What the store holds is `RecordStore.Value`, a document in canonical form.

A number is a whole number of 64 bits, signed or unsigned, or a finite double.  The two are
different numbers even where they denote the same quantity: `7` is not `7.0`.  Two doubles are the
same number when they are numerically equal, so `0.0` and `-0.0` are.
-/
import RecordStore.Number.FloatText
import RecordStore.Number.Numeral

namespace RecordStore

namespace Json

/-! ## Numbers -/

/-- Whether a whole number fits in 64 bits, with a sign or without one. -/
def FitsWord (n : Int) : Prop := -2 ^ 63 ≤ n ∧ n < 2 ^ 64

instance (n : Int) : Decidable (FitsWord n) := inferInstanceAs (Decidable (_ ∧ _))

/-- The number of a JSON document. -/
inductive Number where
  | integer (n : Int) (fits : FitsWord n)
  | float (x : Number.Binary64) (finite : x.isFinite = true)
deriving DecidableEq

namespace Number

/-- The number that a numeral stands for.  One without fraction and exponent that fits in a word is
a whole number; any other is a double, `-0` among them.  There is none beyond the finite doubles. -/
def ofNumeral? (n : RecordStore.Number.Numeral) : Option Json.Number :=
  let whole : Int := RecordStore.Number.Decimal.value n.whole
  let signed := if n.negative then -whole else whole
  if h : (n.fraction = none ∧ n.exponent = none ∧ ¬(n.negative = true ∧ whole = 0)) ∧
      FitsWord signed then
    some (.integer signed h.2)
  else
    let x := n.toBinary64
    if hx : x.isFinite = true then some (.float x hx) else none

/-- The number that a run of characters writes. -/
def ofLexeme? (lexeme : List Char) : Option Json.Number :=
  (RecordStore.Number.Numeral.ofChars? lexeme).bind ofNumeral?

/-- The whole number of a word. -/
def ofWord (n : UInt64) : Json.Number :=
  .integer n.toNat ⟨by omega, by exact_mod_cast n.toNat_lt⟩

/-- The text of a number. -/
def chars : Json.Number → List Char
  | .integer n _ =>
    if n < 0 then '-' :: RecordStore.Number.Decimal.digits n.natAbs
    else RecordStore.Number.Decimal.digits n.natAbs
  | .float x _ => RecordStore.Number.FloatText.chars x

/-- The text of a number, as a string. -/
def text (n : Json.Number) : String := String.ofList n.chars

/-- The double nearest to a number. -/
def toBinary64 : Json.Number → RecordStore.Number.Binary64
  | .integer n _ => .ofInt n
  | .float x _ => x

/-- Equality of numbers: never between a whole number and a double. -/
def same : Json.Number → Json.Number → Bool
  | .integer m _, .integer n _ => m == n
  | .float x _, .float y _ => x.equal y
  | _, _ => false

end Number

end Json

/-! ## Documents -/

/-- A JSON document as it is written. -/
inductive Json where
  | null
  | bool (b : Bool)
  | number (n : Json.Number)
  | text (s : String)
  | array (items : List Json)
  | object (members : List (String × Json))

instance : Inhabited Json := ⟨.null⟩

namespace Json

/-- The six shapes of a document. -/
inductive Shape where
  | null | bool | number | text | array | object
deriving DecidableEq

/-- The name of a shape in messages. -/
def Shape.name : Shape → String
  | .null => "Null"
  | .bool => "Bool"
  | .number => "Number"
  | .text => "String"
  | .array => "Array"
  | .object => "Object"

/-- The shape of a document. -/
def shape : Json → Shape
  | .null => .null
  | .bool _ => .bool
  | .number _ => .number
  | .text _ => .text
  | .array _ => .array
  | .object _ => .object

mutual

/-- Equality of documents up to numeric equality of their doubles. -/
def same : Json → Json → Bool
  | .null, .null => true
  | .bool a, .bool b => a == b
  | .number a, .number b => a.same b
  | .text a, .text b => a == b
  | .array a, .array b => sameItems a b
  | .object a, .object b => sameMembers a b
  | _, _ => false

/-- Equality of two lists of items, place by place. -/
def sameItems : List Json → List Json → Bool
  | [], [] => true
  | a :: as, b :: bs => same a b && sameItems as bs
  | _, _ => false

/-- Equality of two lists of members, place by place. -/
def sameMembers : List (String × Json) → List (String × Json) → Bool
  | [], [] => true
  | (m, a) :: as, (n, b) :: bs => m == n && same a b && sameMembers as bs
  | _, _ => false

end

/-! ## Deciding equality -/

mutual

/-- Whether two documents are the same text for text and number for number. -/
def beq : Json → Json → Bool
  | .null, .null => true
  | .bool a, .bool b => a == b
  | .number a, .number b => a == b
  | .text a, .text b => a == b
  | .array a, .array b => beqItems a b
  | .object a, .object b => beqMembers a b
  | _, _ => false

/-- Whether two lists of items are the same. -/
def beqItems : List Json → List Json → Bool
  | [], [] => true
  | a :: as, b :: bs => beq a b && beqItems as bs
  | _, _ => false

/-- Whether two lists of members are the same. -/
def beqMembers : List (String × Json) → List (String × Json) → Bool
  | [], [] => true
  | (m, a) :: as, (n, b) :: bs => m == n && beq a b && beqMembers as bs
  | _, _ => false

end

mutual

theorem beq_iff : ∀ v w : Json, v.beq w = true ↔ v = w
  | .null, w => by cases w <;> simp [beq]
  | .bool a, w => by cases w <;> simp [beq]
  | .number a, w => by cases w <;> simp [beq]
  | .text a, w => by cases w <;> simp [beq]
  | .array a, w => by cases w <;> simp [beq, beqItems_iff a]
  | .object a, w => by cases w <;> simp [beq, beqMembers_iff a]

theorem beqItems_iff : ∀ l k : List Json, beqItems l k = true ↔ l = k
  | [], k => by cases k <;> simp [beqItems]
  | a :: as, k => by cases k <;> simp [beqItems, beq_iff a, beqItems_iff as]

theorem beqMembers_iff : ∀ l k : List (String × Json), beqMembers l k = true ↔ l = k
  | [], k => by cases k <;> simp [beqMembers]
  | (m, a) :: as, k => by
    cases k <;> simp [beqMembers, beq_iff a, beqMembers_iff as, Prod.ext_iff]

end

instance : DecidableEq Json := fun v w => decidable_of_iff _ (beq_iff v w)

end Json

end RecordStore
