/-
# RecordStore.Schema.Basic — the entity types that a store knows.

A schema maps names to valid entity types, each under its own name.  Registering a type replaces
the type of the same name; a type that is not valid is refused and leaves the schema as it was.

Several types may store their records in one partition.  Where one of them has to be chosen, it is
the one with the least name.
-/
import RecordStore.Error

namespace RecordStore

/-- A schema: valid entity types by name. -/
structure Schema where
  types : NameMap EntityType
  valid : ∀ name t, types.get? name = some t → t.name = name ∧ t.Valid

namespace Schema

/-- The schema without types. -/
def empty : Schema := ⟨NameMap.empty, fun _ _ h => nomatch h⟩

/-- The fault of a type whose key field is not declared to be of kind `key`. -/
def keyFault (t : EntityType) : RecordFault :=
  match t.fields.get? t.keyField with
  | some kind => .keyFieldKind t.keyField t.name kind
  | none => .keyFieldUndeclared t.keyField t.name

/-- The schema with a valid type, in the place of any earlier one of its name. -/
def add (s : Schema) (t : EntityType) (h : t.Valid) : Schema :=
  ⟨s.types.insert t.name t, fun name u hu => by
    rw [NameMap.get?_insert] at hu
    split at hu
    · rename_i hname
      cases hu
      exact ⟨hname.symm, h⟩
    · exact s.valid name u hu⟩

/-- The schema with a type, in the place of any earlier one of its name, if the type is valid. -/
def register (s : Schema) (t : EntityType) : Except Error Schema :=
  if h : t.Valid then .ok (s.add t h) else .error (.invalidRecord (keyFault t))

/-- The schema of a list of types, registered one after another. -/
def ofTypes (types : List EntityType) : Except Error Schema := types.foldlM register empty

/-- The types in ascending order of their names. -/
def toList (s : Schema) : List EntityType := s.types.values

/-- The type of a name. -/
def resolve (s : Schema) (name : String) : Except Error EntityType :=
  match s.types.get? name with
  | some t => .ok t
  | none => .error (.unknownType name)

/-- The type whose records are stored in a partition. -/
def typeOfPartition? (s : Schema) (partition : String) : Option EntityType :=
  s.toList.find? fun t => t.partition = partition

/-- Whether some type stores its records in a partition. -/
def hasPartition (s : Schema) (partition : String) : Bool := (s.typeOfPartition? partition).isSome

end Schema

/-- The kind of a declared field of a type. -/
def EntityType.kind (t : EntityType) (field : String) : Except Error FieldKind :=
  match t.fields.get? field with
  | some kind => .ok kind
  | none => .error (.unknownField field t.name)

namespace Schema

/-! ## Laws -/

theorem resolve_eq_ok_iff {s : Schema} {name : String} {t : EntityType} :
    s.resolve name = .ok t ↔ s.types.get? name = some t := by
  unfold resolve
  split <;> simp_all

theorem resolve_eq_error_iff {s : Schema} {name : String} {cause : Error} :
    s.resolve name = .error cause ↔ s.types.get? name = none ∧ cause = .unknownType name := by
  unfold resolve
  cases s.types.get? name with
  | some t => simp
  | none => simp [eq_comm]

theorem register_eq_ok_iff {s s' : Schema} {t : EntityType} :
    s.register t = .ok s' ↔ t.Valid ∧ s'.types = s.types.insert t.name t := by
  unfold register
  split
  · rename_i h
    rw [Except.ok.injEq]
    constructor
    · rintro rfl
      exact ⟨h, rfl⟩
    · rintro ⟨_, hs⟩
      cases s'
      cases hs
      rfl
  · rename_i h
    simp [h]

theorem mem_toList_iff {s : Schema} {t : EntityType} :
    t ∈ s.toList ↔ s.types.get? t.name = some t := by
  unfold toList NameMap.values
  constructor
  · intro h
    obtain ⟨⟨name, u⟩, he, rfl⟩ := List.mem_map.mp h
    have hu := NameMap.mem_entries_iff.mp he
    rwa [(s.valid name u hu).1]
  · intro h
    exact List.mem_map.mpr ⟨(t.name, t), NameMap.mem_entries_iff.mpr h, rfl⟩

end Schema

end RecordStore
