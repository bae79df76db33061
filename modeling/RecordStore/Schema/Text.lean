/-
# RecordStore.Schema.Text — reading and writing schemas.

The text of a schema is an array of entity types.  A type is an object with the members `name`,
`partition`, `keyField` and `fields`, or an array of these four in this order; other members are
skipped.  A field kind is written by its name, or as an object with the name as its only member
and `null` as its value.

A member that repeats an earlier one is reported where its name stands, before its value is read;
a member that is missing, where the object ends.
-/
import RecordStore.Json.Reader
import RecordStore.Json.Token
import RecordStore.Schema.Basic

namespace RecordStore

open Json (Tree Fault Ending)

/-! ## Field kinds -/

namespace FieldKind

/-- The kind of a name. -/
def ofName (name : String) : Except Fault FieldKind :=
  match ofName? name with
  | some kind => .ok kind
  | none => .error (.unknownVariant name (all.map FieldKind.name))

/-- The value that goes with the name of a kind in an object. -/
def readUnit : Tree → Except Fault Unit
  | .null => .ok ()
  | tree => .error (Json.mismatch .unit tree)

/-- A field kind. -/
def read : Tree → Except Fault FieldKind
  | .text (some name) => ofName name
  | .object ((name, value) :: rest) ending => do
    let name ← Json.readName name
    let kind ← ofName name
    readUnit value
    if rest.isEmpty then Json.readEnding ending else .error .unreadable
    return kind
  | _ => .error .unreadable

end FieldKind

/-! ## Entity types -/

namespace EntityType

/-- The members of an entity type that have been read. -/
structure Draft where
  name : Option String
  partition : Option String
  keyField : Option String
  fields : Option (NameMap FieldKind)

/-- The draft without members. -/
def Draft.blank : Draft := ⟨none, none, none, none⟩

/-- The draft after one more member. -/
def Draft.take (d : Draft) (name : String) (tree : Tree) : Except Fault Draft := do
  if name = "name" then
    let value ← Json.once name d.name (Json.readText tree)
    return { d with name := value }
  else if name = "partition" then
    let value ← Json.once name d.partition (Json.readText tree)
    return { d with partition := value }
  else if name = "keyField" then
    let value ← Json.once name d.keyField (Json.readText tree)
    return { d with keyField := value }
  else if name = "fields" then
    let value ← Json.once name d.fields (Json.readMap FieldKind.read tree)
    return { d with fields := value }
  else
    Json.skip tree
    return d

/-- The entity type that a draft describes. -/
def Draft.complete (d : Draft) : Except Fault EntityType := do
  let name ← Json.required "name" d.name
  let partition ← Json.required "partition" d.partition
  let keyField ← Json.required "keyField" d.keyField
  let fields ← Json.required "fields" d.fields
  return ⟨name, partition, keyField, fields⟩

/-- The item at a place in the array form of an entity type. -/
def itemAt (items : List Tree) (ending : Ending) (place : Nat) : Except Fault Tree := do
  match ← Json.itemAt? items ending place with
  | some tree => return tree
  | none => .error (.wrongLength place "EntityType" 4)

/-- An entity type in the form of an array. -/
def readItems (items : List Tree) (ending : Ending) : Except Fault EntityType := do
  let name ← Json.readText (← itemAt items ending 0)
  let partition ← Json.readText (← itemAt items ending 1)
  let keyField ← Json.readText (← itemAt items ending 2)
  let fields ← Json.readMap FieldKind.read (← itemAt items ending 3)
  Json.readItemsEnd items ending 4
  return ⟨name, partition, keyField, fields⟩

/-- An entity type. -/
def read : Tree → Except Fault EntityType
  | .object members ending => do
    let draft ← Json.takeMembers Draft.take .blank members
    Json.readEnding ending
    draft.complete
  | .array items ending => readItems items ending
  | tree => .error (Json.mismatch (.structured "EntityType") tree)

/-- An entity type as an object. -/
def toJson (t : EntityType) : Json :=
  .object [("name", .text t.name), ("partition", .text t.partition),
    ("keyField", .text t.keyField),
    ("fields", .object (t.fields.map fun _ kind => Json.text kind.name).entries)]

end EntityType

/-! ## Schemas -/

namespace Schema

/-- The entity types that a text lists, or the first problem of the text. -/
def typesOfDocument (d : Json.Document) : Except Fault (List EntityType) := do
  let types ← Json.readSequence EntityType.read d.tree
  Json.readEnd d
  return types

/-- The schema that a string writes.  The whole text is read before any type is registered. -/
def ofText (text : String) : Except Error Schema := do
  let types ← (typesOfDocument (.ofString text)).mapError fun fault =>
    Error.invalidRecord (.malformedSchema fault)
  ofTypes types

end Schema

end RecordStore
