/-
# RecordStore.Store — the store.

A store holds records by partition and answers for the types of its schema.  Every operation that
can be refused gives a new store only when it succeeds, so a refused operation changes nothing.

* `put` stores what an entity persists.  An entity without a key gets the next generated one; a
  key that writes a number moves the counter past that number, so that no generated key ever meets
  a key that is in use.
* `load` stores a whole dataset or nothing of it.  Each record is cut to the fields of its
  partition's type, and takes the key of the dataset as its own when it has none.
* `reset` is `load` into the store without its records; the counter goes on from where it was.
-/
import RecordStore.Dataset.Basic
import RecordStore.Entity
import RecordStore.Partition
import RecordStore.Predicate

namespace RecordStore

/-- A store: records by partition, the types they follow, and the source of generated keys. -/
structure Store where
  schema : Schema
  counter : KeyCounter
  partitions : NameMap Partition

namespace Store

/-- The store of a schema without records. -/
def empty (schema : Schema) : Store where
  schema := schema
  counter := .zero
  partitions := .ofList (schema.toList.map fun t => (t.partition, Partition.empty))

/-- The partition of a name, without records if there is none. -/
def partition (s : Store) (name : String) : Partition := (s.partitions.get? name).getD .empty

/-- The store with a partition replaced. -/
def setPartition (s : Store) (name : String) (p : Partition) : Store :=
  { s with partitions := s.partitions.insert name p }

@[simp] theorem schema_setPartition (s : Store) (name : String) (p : Partition) :
    (s.setPartition name p).schema = s.schema := rfl

@[simp] theorem counter_setPartition (s : Store) (name : String) (p : Partition) :
    (s.setPartition name p).counter = s.counter := rfl

theorem partition_setPartition (s : Store) (name other : String) (p : Partition) :
    (s.setPartition name p).partition other = if other = name then p else s.partition other := by
  by_cases h : other = name <;> simp [setPartition, partition, NameMap.get?_insert, h]

theorem setPartition_setPartition (s : Store) (name : String) (p q : Partition) :
    (s.setPartition name p).setPartition name q = s.setPartition name q := by
  refine congrArg (Store.mk s.schema s.counter) (NameMap.ext_get? fun other => ?_)
  rw [setPartition, NameMap.get?_insert, NameMap.get?_insert, NameMap.get?_insert]
  split <;> rfl

theorem partition_empty (schema : Schema) (name : String) :
    (empty schema).partition name = .empty := by
  suffices h : ∀ types : List EntityType,
      ((NameMap.ofList (types.map fun t => (t.partition, Partition.empty))).get? name).getD .empty
        = .empty from h schema.toList
  intro types
  induction types with
  | nil => rfl
  | cons t rest ih =>
    rw [List.map_cons, NameMap.get?_ofList_cons]
    by_cases h : name = t.partition
    · -- the first entry is kept or replaced by one that is without records too
      subst h
      simpa using ih
    · rwa [if_neg h]

/-! ## Reading -/

/-- The records of a type that a criterion admits, in visiting order. -/
def query (s : Store) (typeName : String) (c : Option Criterion) : Except Error (List Record) := do
  let t ← s.schema.resolve typeName
  let predicate ← Predicate.ofCriterion? t c
  return (s.partition t.partition).records.filter predicate.matchesRecord

/-- The record of a type under a key. -/
def get (s : Store) (typeName key : String) : Except Error (Option Record) := do
  let t ← s.schema.resolve typeName
  return (s.partition t.partition).get? key

/-- The number of records of a type. -/
def count (s : Store) (typeName : String) : Except Error Nat := do
  let t ← s.schema.resolve typeName
  return (s.partition t.partition).size

/-! ## Writing entities -/

/-- What storing an entity gives: its key, the entity with this key, and the store. -/
structure Saved where
  key : String
  entity : Entity
  store : Store

/-- The counter after a caller has used a key. -/
def claimKey (counter : KeyCounter) (key : String) : Except Error KeyCounter :=
  match KeyCounter.number? key with
  | none => .ok counter
  | some number =>
    match counter.advancePast? number with
    | some counter => .ok counter
    | none => .error (.invalidRecord (.keyTooLarge key))

/-- The key under which an entity is to be stored, the entity with this key, and the counter after
that. -/
def assignKey (counter : KeyCounter) (e : Entity) :
    Except Error (String × Entity × KeyCounter) := do
  match ← e.key with
  | some key => return (key, e, ← claimKey counter key)
  | none =>
    let (key, counter) := counter.issue
    return (key, e.setKey key, counter)

/-- Stores an entity under its key, in the partition of its type. -/
def put (s : Store) (e : Entity) : Except Error Saved := do
  let t ← s.schema.resolve e.typeName
  let (key, e, counter) ← assignKey s.counter e
  let p := (s.partition t.partition).insert key e.persisted
  return ⟨key, e, { s with counter := counter }.setPartition t.partition p⟩

/-- Removes the record of a type under a key, if there is one. -/
def remove (s : Store) (typeName key : String) : Except Error Store := do
  let t ← s.schema.resolve typeName
  return match s.partitions.get? t.partition with
    | some p => s.setPartition t.partition (p.erase key)
    | none => s

/-- Removes the record that an entity was stored as; an entity without a key was never stored. -/
def removeEntity (s : Store) (e : Entity) : Except Error Store := do
  match ← e.key with
  | some key => s.remove e.typeName key
  | none =>
    let _ ← s.schema.resolve e.typeName
    return s

/-! ## Whole datasets -/

/-- The record that is stored for a record of a dataset: its projection onto the fields of the type,
with the dataset's key in its key field where that is `null`. -/
def loadedRecord (t : EntityType) (key : String) (r : Record) : Record :=
  let stored := r.project t.fieldNames
  match stored.get? t.keyField with
  | some v => if v.isNull then stored.insert t.keyField (.text key) else stored
  | none => stored

/-- A partition with records of a dataset added. -/
def loadRecords (t : EntityType) (records : NameMap Record) (p : Partition) : Partition :=
  records.entries.foldl (fun p e => p.insert e.1 (loadedRecord t e.1 e.2)) p

/-- The store with one partition of a dataset added. -/
def loadPartition (s : Store) (name : String) (records : NameMap Record) : Store :=
  match s.schema.typeOfPartition? name with
  | some t => s.setPartition name (loadRecords t records (s.partition name))
  | none => s

/-- The counter after the keys of a dataset are in use. -/
def claimKeys (counter : KeyCounter) (d : Dataset) : Except Error KeyCounter :=
  match d.largestKey? with
  | none => .ok counter
  | some largest =>
    match counter.advancePast? largest with
    | some counter => .ok counter
    | none => .error (.invalidDataset (.keyTooLarge largest))

/-- Stores every record of a dataset. -/
def load (s : Store) (d : Dataset) : Except Error Store :=
  match d.partitions.names.find? fun name => !s.schema.hasPartition name with
  | some unknown => .error (.invalidDataset (.unstoredPartition unknown))
  | none => do
    let counter ← claimKeys s.counter d
    return d.partitions.entries.foldl (fun s e => s.loadPartition e.1 e.2)
      { s with counter := counter }

/-- The store of a schema with the records of a dataset. -/
def withDataset (schema : Schema) (d : Dataset) : Except Error Store := (empty schema).load d

/-- The store without its records. -/
def cleared (s : Store) : Store :=
  { s with partitions := s.partitions.map fun _ _ => .empty }

theorem partition_cleared (s : Store) (name : String) : s.cleared.partition name = .empty := by
  cases h : s.partitions.get? name <;> simp [cleared, partition, NameMap.get?_map, h]

/-- The store with the records of a dataset in the place of its own. -/
def reset (s : Store) (d : Dataset) : Except Error Store := s.cleared.load d

/-- The records of the store as a dataset. -/
def toDataset (s : Store) : Dataset :=
  s.partitions.entries.foldl
    (fun d p => p.2.entries.foldl (fun d e => d.insert p.1 e.1 e.2) d) .empty

end Store

end RecordStore
