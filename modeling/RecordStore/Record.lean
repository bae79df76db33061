/-
# RecordStore.Record — records and their keys.

A record maps field names to values.  What is stored of a record is its projection onto a list of
names: exactly these fields, `null` where the record has none.

The key of a record is the text of its key field.  A string is its own text and a number has the
text in which it would be written; an absent field and `null` stand for no key at all, and nothing
else can be a key.
-/
import RecordStore.Error
import RecordStore.Json.Token
import RecordStore.Value

namespace RecordStore

/-- A record: field names and their values. -/
structure Record where
  fields : NameMap Value
deriving DecidableEq

/-- The key that the value of a key field stands for, if it stands for one. -/
def keyOfValue : Option Value → Except Error (Option String)
  | none => .ok none
  | some v =>
    match v.json with
    | .null => .ok none
    | .text s => .ok (some s)
    | .number n => .ok (some n.text)
    | other => .error (.invalidRecord (.keyShape other.shape))

namespace Record

@[ext]
theorem ext_get? {r s : Record} (h : ∀ name, r.fields.get? name = s.fields.get? name) : r = s := by
  cases r
  cases s
  exact congrArg Record.mk (NameMap.ext_get? h)

/-- The record without fields. -/
def empty : Record := ⟨NameMap.empty⟩

/-- The record that an object is. -/
def ofValue (v : Value) : Except Error Record :=
  match v.fields? with
  | some fields => .ok ⟨fields⟩
  | none => .error (.invalidRecord (.notObject v.shape))

/-- A record as an object. -/
def toValue (r : Record) : Value := .object r.fields

/-- The value of a field, if the record has it. -/
def get? (r : Record) (field : String) : Option Value := r.fields.get? field

/-- Whether the record has a field. -/
def contains (r : Record) (field : String) : Bool := r.fields.contains field

/-- The record with a field set to a value. -/
def insert (r : Record) (field : String) (value : Value) : Record :=
  ⟨r.fields.insert field value⟩

/-- The number of fields. -/
def size (r : Record) : Nat := r.fields.size

/-- The record with exactly the fields of a list of names, `null` where it lacks one. -/
def project (r : Record) (names : List String) : Record :=
  ⟨.ofList (names.map fun name => (name, (r.get? name).getD .null))⟩

/-- The key that a field holds. -/
def key (r : Record) (field : String) : Except Error (Option String) := keyOfValue (r.get? field)

/-- Equality of records up to numeric equality of their doubles. -/
def same (r s : Record) : Bool := r.toValue.same s.toValue

/-! ## Laws -/

theorem get?_insert (r : Record) (field other : String) (value : Value) :
    (r.insert field value).get? other = if other = field then some value else r.get? other :=
  NameMap.get?_insert _ _ _ _

/-- A projection has a field exactly when its name is listed, with the record's value or `null`. -/
theorem get?_project (r : Record) (names : List String) (name : String) :
    (r.project names).get? name =
      if name ∈ names then some ((r.get? name).getD .null) else none := by
  induction names with
  | nil => rfl
  | cons first rest ih =>
    simp only [project, get?, List.map_cons, NameMap.get?_ofList_cons] at ih ⊢
    by_cases hn : name = first
    · subst hn
      rw [ih]
      by_cases hm : name ∈ rest <;> simp [hm]
    · simp [hn, ih]

theorem ofValue_toValue (r : Record) : ofValue r.toValue = .ok r := by
  simp [ofValue, toValue]

end Record

end RecordStore
