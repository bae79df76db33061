/-
# RecordStore.Entity — records bound to a type.

An entity is a record with the name of its type, its key field and the fields that are persisted.
These are taken from the type when the entity is made and stay with it; the data may hold any
fields.
-/
import RecordStore.Record
import RecordStore.Schema.Basic

namespace RecordStore

/-- A record bound to a type. -/
structure Entity where
  typeName : String
  keyField : String
  properties : List String
  data : Record

namespace Entity

/-- The entity of a type with some data. -/
def ofType (t : EntityType) (data : Record) : Entity :=
  ⟨t.name, t.keyField, t.fieldNames, data⟩

/-- The entity of the type of a name with some data. -/
def ofTypeNamed (s : Schema) (name : String) (data : Record) : Except Error Entity :=
  (s.resolve name).map fun t => ofType t data

/-- The key that the entity has, if it has one. -/
def key (e : Entity) : Except Error (Option String) := e.data.key e.keyField

/-- The entity with a key. -/
def setKey (e : Entity) (key : String) : Entity :=
  { e with data := e.data.insert e.keyField (.text key) }

/-- What is stored of the entity. -/
def persisted (e : Entity) : Record := e.data.project e.properties

theorem key_setKey (e : Entity) (key : String) : (e.setKey key).key = .ok (some key) := by
  simp [Entity.key, setKey, Record.key, Record.get?_insert, keyOfValue, Value.text]

end Entity

end RecordStore
