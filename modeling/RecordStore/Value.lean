/-
# RecordStore.Value — the values that records hold.

A `Value` is a JSON document in canonical form: every object in it lists its members by strictly
ascending name, so each name once.  `Value.ofJson` brings any document into this form, the last of
several members with one name counting, and leaves a canonical document as it is
(`ofJson_json`).
-/
import RecordStore.Json.Basic
import RecordStore.NameMap

namespace RecordStore

namespace Json

/-! ## Canonical form -/

/-- Every object in a document lists its members by strictly ascending name. -/
inductive Canonical : Json → Prop where
  | null : Canonical .null
  | bool (b : Bool) : Canonical (.bool b)
  | number (n : Json.Number) : Canonical (.number n)
  | text (s : String) : Canonical (.text s)
  | array {items : List Json} (each : ∀ item ∈ items, Canonical item) : Canonical (.array items)
  | object {members : List (String × Json)}
      (ascending : members.Pairwise (fun a b => a.1 < b.1))
      (each : ∀ member ∈ members, Canonical member.2) : Canonical (.object members)

theorem Canonical.of_mem_array {items : List Json} (h : Canonical (.array items)) :
    ∀ item ∈ items, Canonical item := by
  cases h with
  | array each => exact each

theorem Canonical.of_mem_object {members : List (String × Json)} (h : Canonical (.object members)) :
    ∀ member ∈ members, Canonical member.2 := by
  cases h with
  | object _ each => exact each

theorem Canonical.ascending_object {members : List (String × Json)}
    (h : Canonical (.object members)) : members.Pairwise (fun a b => a.1 < b.1) := by
  cases h with
  | object ascending _ => exact ascending

mutual

/-- The canonical form of a document. -/
def canonicalForm : Json → Json
  | .array items => .array (canonicalItems items)
  | .object members => .object (canonicalMembers members).entries
  | leaf => leaf

/-- The canonical forms of a list of items. -/
def canonicalItems : List Json → List Json
  | [] => []
  | item :: rest => canonicalForm item :: canonicalItems rest

/-- The members of an object as a map, in which the last member of each name counts. -/
def canonicalMembers : List (String × Json) → NameMap Json
  | [] => NameMap.empty
  | (name, value) :: rest => (canonicalMembers rest).insertNew name (canonicalForm value)

end

end Json

/-- A JSON document in canonical form. -/
structure Value where
  json : Json
  canonical : json.Canonical

namespace Value

@[ext]
theorem ext {v w : Value} (h : v.json = w.json) : v = w := by
  cases v
  cases w
  cases h
  rfl

instance : DecidableEq Value := fun v w =>
  decidable_of_iff (v.json = w.json) ⟨ext, congrArg json⟩

/-! ## Leaves -/

/-- The value `null`. -/
def null : Value := ⟨.null, .null⟩

/-- A truth value. -/
def bool (b : Bool) : Value := ⟨.bool b, .bool b⟩

/-- A number. -/
def number (n : Json.Number) : Value := ⟨.number n, .number n⟩

/-- A string. -/
def text (s : String) : Value := ⟨.text s, .text s⟩

instance : Inhabited Value := ⟨null⟩

/-- A list of values as one value. -/
def array (items : List Value) : Value :=
  ⟨.array (items.map Value.json), .array fun item h => by
    obtain ⟨v, _, rfl⟩ := List.mem_map.mp h
    exact v.canonical⟩

/-- A map of values as one value. -/
def object (fields : NameMap Value) : Value :=
  ⟨.object (fields.map fun _ v => v.json).entries,
    .object (fields.map fun _ v => v.json).ascending fun member h => by
      obtain ⟨e, _, rfl⟩ := List.mem_map.mp h
      exact e.2.canonical⟩

/-- The items of a value that is an array. -/
def items? : Value → Option (List Value)
  | ⟨.array items, h⟩ => some (items.attach.map fun item => ⟨item.1, h.of_mem_array _ item.2⟩)
  | _ => none

/-- The fields of a value that is an object. -/
def fields? : Value → Option (NameMap Value)
  | ⟨.object members, h⟩ =>
    some ⟨members.attach.map fun m => (m.1.1, ⟨m.1.2, h.of_mem_object _ m.2⟩), by
      have hp : (members.attach.map Subtype.val).Pairwise (fun a b => a.1 < b.1) := by
        rw [List.attach_map_subtype_val]
        exact h.ascending_object
      exact List.pairwise_map.mpr ((List.pairwise_map.mp hp).imp id)⟩
  | _ => none

/-- The shape of a value. -/
def shape (v : Value) : Json.Shape := v.json.shape

/-- Whether a value is `null`. -/
def isNull (v : Value) : Bool := v.json.shape = .null

/-- Equality of values up to numeric equality of their doubles. -/
def same (v w : Value) : Bool := v.json.same w.json

@[simp] theorem fields?_object (fields : NameMap Value) :
    (object fields).fields? = some fields := by
  obtain ⟨l, hl⟩ := fields
  simp only [object, fields?, NameMap.map, Option.some.injEq, NameMap.mk.injEq]
  have hinj : ∀ a b : String × Value, (a.1, a.2.json) = (b.1, b.2.json) → a = b := fun a b h =>
    Prod.ext (Prod.mk.inj h).1 (Value.ext (Prod.mk.inj h).2)
  rw [← List.map_inj_right hinj, List.map_map]
  exact List.attach_map_subtype_val _

@[simp] theorem items?_array (items : List Value) : (array items).items? = some items := by
  simp only [array, items?, Option.some.injEq]
  rw [← List.map_inj_right (fun a b => Value.ext), List.map_map]
  exact List.attach_map_subtype_val _

end Value

/-! ## Bringing a document into canonical form -/

namespace Json

mutual

theorem canonical_canonicalForm : ∀ v : Json, (canonicalForm v).Canonical
  | .null => .null
  | .bool b => .bool b
  | .number n => .number n
  | .text s => .text s
  | .array items => .array (canonical_canonicalItems items)
  | .object members => .object (canonicalMembers members).ascending
      (canonical_canonicalMembers members)

theorem canonical_canonicalItems : ∀ (l : List Json), ∀ v ∈ canonicalItems l, v.Canonical
  | [] => fun v h => nomatch h
  | item :: rest => fun v h => by
    rcases List.mem_cons.mp h with rfl | h
    · exact canonical_canonicalForm item
    · exact canonical_canonicalItems rest v h

theorem canonical_canonicalMembers :
    ∀ (l : List (String × Json)), ∀ m ∈ (canonicalMembers l).entries, m.2.Canonical
  | [] => fun m h => nomatch h
  | (name, value) :: rest => fun m h => by
    rcases NameMap.mem_of_mem_placeNew h with h | h
    · rw [h]
      exact canonical_canonicalForm value
    · exact canonical_canonicalMembers rest m h

end

end Json

/-- The canonical form of a document as a value. -/
def Value.ofJson (v : Json) : Value := ⟨v.canonicalForm, Json.canonical_canonicalForm v⟩

namespace Json

/-- A name before all others goes to the front. -/
theorem entries_insertNew_of_forall_lt {m : NameMap Json} {name : String} {value : Json}
    (h : ∀ e ∈ m.entries, name < e.1) :
    (m.insertNew name value).entries = (name, value) :: m.entries := by
  obtain ⟨l, hl⟩ := m
  cases l with
  | nil => rfl
  | cons e rest => simp [NameMap.insertNew, NameMap.placeNew, h e List.mem_cons_self]

mutual

theorem canonicalForm_of_canonical : ∀ v : Json, v.Canonical → canonicalForm v = v
  | .null, _ => rfl
  | .bool _, _ => rfl
  | .number _, _ => rfl
  | .text _, _ => rfl
  | .array items, h => congrArg Json.array (canonicalItems_of_canonical items h.of_mem_array)
  | .object members, h => congrArg Json.object
      (entries_canonicalMembers members h.ascending_object h.of_mem_object)

theorem canonicalItems_of_canonical :
    ∀ l : List Json, (∀ v ∈ l, v.Canonical) → canonicalItems l = l
  | [], _ => rfl
  | item :: rest, h => by
    rw [canonicalItems, canonicalForm_of_canonical item (h item List.mem_cons_self),
      canonicalItems_of_canonical rest fun v hv => h v (List.mem_cons_of_mem _ hv)]

theorem entries_canonicalMembers :
    ∀ l : List (String × Json), l.Pairwise (fun a b => a.1 < b.1) → (∀ m ∈ l, m.2.Canonical) →
      (canonicalMembers l).entries = l
  | [], _, _ => rfl
  | (name, value) :: rest, ha, hc => by
    obtain ⟨hhead, htail⟩ := List.pairwise_cons.mp ha
    have ih := entries_canonicalMembers rest htail fun m hm => hc m (List.mem_cons_of_mem _ hm)
    rw [canonicalMembers, entries_insertNew_of_forall_lt (by rw [ih]; exact hhead), ih,
      canonicalForm_of_canonical value (hc _ List.mem_cons_self)]

end

end Json

/-- A canonical document is its own canonical form. -/
theorem Value.ofJson_json (v : Value) : Value.ofJson v.json = v :=
  Value.ext (Json.canonicalForm_of_canonical v.json v.canonical)

end RecordStore
