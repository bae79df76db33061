/-
# RecordStore.EntityType — what the entities of one kind look like.

An entity type names the partition in which its records are stored, the field that holds their
key, and the kind of every field that is persisted, the key field among them.  The kind of a field
decides how a criterion may test it.  A type is `Valid` when its key field is declared to be of
kind `key`; only valid types enter a schema.
-/
import RecordStore.NameMap

namespace RecordStore

/-- The kinds of fields: a record key or a reference to one, a string, a number, a list. -/
inductive FieldKind where
  | key | string | number | array
deriving DecidableEq

namespace FieldKind

/-- The name of a kind. -/
def name : FieldKind → String
  | key => "Key"
  | string => "String"
  | number => "Number"
  | array => "Array"

/-- Every kind, in the order in which messages list them. -/
def all : List FieldKind := [key, string, number, array]

/-- The kind that a name stands for. -/
def ofName? (name : String) : Option FieldKind := all.find? fun kind => kind.name = name

theorem ofName?_name (kind : FieldKind) : ofName? kind.name = some kind := by
  cases kind <;> decide

end FieldKind

/-- An entity type. -/
structure EntityType where
  name : String
  partition : String
  keyField : String
  fields : NameMap FieldKind
deriving DecidableEq

namespace EntityType

/-- A type whose only field is its key. -/
def keyed (name partition keyField : String) : EntityType :=
  ⟨name, partition, keyField, NameMap.empty.insert keyField .key⟩

/-- A type with one more declared field; an earlier declaration of the field is replaced. -/
def withField (t : EntityType) (field : String) (kind : FieldKind) : EntityType :=
  { t with fields := t.fields.insert field kind }

/-- A type without the declaration of a field. -/
def withoutField (t : EntityType) (field : String) : EntityType :=
  { t with fields := t.fields.erase field }

/-- The names of the declared fields in ascending order. -/
def fieldNames (t : EntityType) : List String := t.fields.names

/-- The key field of a valid type is declared to be of kind `key`. -/
def Valid (t : EntityType) : Prop := t.fields.get? t.keyField = some .key

instance (t : EntityType) : Decidable t.Valid := inferInstanceAs (Decidable (_ = _))

theorem valid_keyed (name partition keyField : String) : (keyed name partition keyField).Valid :=
  NameMap.get?_insert_self _ _ _

/-- Declaring another field than the key field keeps a type valid. -/
theorem Valid.withField {t : EntityType} (h : t.Valid) {field : String} (kind : FieldKind)
    (hf : t.keyField ≠ field) : (t.withField field kind).Valid := by
  unfold Valid EntityType.withField at *
  rw [NameMap.get?_insert, if_neg hf, h]

end EntityType

end RecordStore
