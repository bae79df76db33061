/-
# RecordStore.Proofs.Store.Tables — a store that keeps its partitions as tables.

A store that is to find a record without a search keeps each partition as a `Partition.Table`: the
records by key, and beside them the keys in visiting order.  Here are the operations of such a store.
They ask the tables what the operations of `Store` ask the partitions, and change the two parts of a
table as the table sees fit.

A store of tables is `InStep` with a store when the two have one schema and one counter, and have a
table in step with a partition, or neither, under every name.  Every operation keeps this, and is
refused by both for the same cause or by neither (`perform_alike`); so does a run (`inStep_run`).
Stores in step give the same answers and the same dataset, so what is proved of runs of stores is so of
runs of stores of tables (`run_answers_as_store`).
-/
import RecordStore.Proofs.Partition
import RecordStore.Proofs.Store.CanonicalImage

namespace RecordStore

open RecordStore.Partition (Table)

/-- A store: tables by partition, the types they follow, and the source of generated keys. -/
structure TableStore where
  schema : Schema
  counter : KeyCounter
  tables : NameMap Table

namespace TableStore

/-- The store of a schema without records. -/
def empty (schema : Schema) : TableStore where
  schema := schema
  counter := .zero
  tables := .ofList (schema.toList.map fun t => (t.partition, Table.empty))

/-- The table of a name, without records if there is none. -/
def table (ts : TableStore) (name : String) : Table := (ts.tables.get? name).getD .empty

/-- The store with a table replaced. -/
def setTable (ts : TableStore) (name : String) (t : Table) : TableStore :=
  { ts with tables := ts.tables.insert name t }

/-! ## Operations -/

/-- The records of a type that a criterion admits, in visiting order. -/
def query (ts : TableStore) (typeName : String) (c : Option Criterion) :
    Except Error (List Record) := do
  let t ← ts.schema.resolve typeName
  let predicate ← Predicate.ofCriterion? t c
  return match ts.tables.get? t.partition with
    | some table => (table.entries.map Prod.snd).filter predicate.matchesRecord
    | none => []

/-- The record of a type under a key. -/
def get (ts : TableStore) (typeName key : String) : Except Error (Option Record) := do
  let t ← ts.schema.resolve typeName
  return match ts.tables.get? t.partition with
    | some table => table.get? key
    | none => none

/-- The number of records of a type. -/
def count (ts : TableStore) (typeName : String) : Except Error Nat := do
  let t ← ts.schema.resolve typeName
  return match ts.tables.get? t.partition with
    | some table => table.size
    | none => 0

/-- What storing an entity gives: its key, the entity with this key, and the store. -/
structure Saved where
  key : String
  entity : Entity
  store : TableStore

/-- Stores an entity under its key, in the table of its type. -/
def put (ts : TableStore) (e : Entity) : Except Error Saved := do
  let t ← ts.schema.resolve e.typeName
  let (key, e, counter) ← Store.assignKey ts.counter e
  let table := (ts.table t.partition).insert key e.persisted
  return ⟨key, e, { ts with counter := counter }.setTable t.partition table⟩

/-- Removes the record of a type under a key, if there is one. -/
def remove (ts : TableStore) (typeName key : String) : Except Error TableStore := do
  let t ← ts.schema.resolve typeName
  return match ts.tables.get? t.partition with
    | some table => ts.setTable t.partition (table.remove key).2
    | none => ts

/-- Removes the record that an entity was stored as; an entity without a key was never stored. -/
def removeEntity (ts : TableStore) (e : Entity) : Except Error TableStore := do
  match ← e.key with
  | some key => ts.remove e.typeName key
  | none =>
    let _ ← ts.schema.resolve e.typeName
    return ts

/-- A table with records of a dataset added. -/
def loadRecords (t : EntityType) (records : NameMap Record) (table : Table) : Table :=
  records.entries.foldl (fun table e => table.insert e.1 (Store.loadedRecord t e.1 e.2)) table

/-- The store with one partition of a dataset added. -/
def loadPartition (ts : TableStore) (name : String) (records : NameMap Record) : TableStore :=
  match ts.schema.typeOfPartition? name with
  | some t => ts.setTable name (loadRecords t records (ts.table name))
  | none => ts

/-- Stores every record of a dataset. -/
def load (ts : TableStore) (d : Dataset) : Except Error TableStore :=
  match d.partitions.names.find? fun name => !ts.schema.hasPartition name with
  | some unknown => .error (.invalidDataset (.unstoredPartition unknown))
  | none => do
    let counter ← Store.claimKeys ts.counter d
    return d.partitions.entries.foldl (fun ts e => ts.loadPartition e.1 e.2)
      { ts with counter := counter }

/-- The store without its records. -/
def cleared (ts : TableStore) : TableStore :=
  { ts with tables := ts.tables.map fun _ _ => .empty }

/-- The store with the records of a dataset in the place of its own. -/
def reset (ts : TableStore) (d : Dataset) : Except Error TableStore := ts.cleared.load d

/-- The records of the store as a dataset. -/
def toDataset (ts : TableStore) : Dataset :=
  ts.tables.entries.foldl
    (fun d t => t.2.entries.foldl (fun d e => d.insert t.1 e.1 e.2) d) .empty

/-- The store that a successful operation gives. -/
def perform (ts : TableStore) : Operation → Except Error TableStore
  | .put e => (ts.put e).map Saved.store
  | .remove typeName key => ts.remove typeName key
  | .removeEntity e => ts.removeEntity e
  | .load d => ts.load d
  | .reset d => ts.reset d

/-- The store after an operation, which is the same store when the operation is refused. -/
def after (ts : TableStore) (op : Operation) : TableStore :=
  match ts.perform op with
  | .ok ts' => ts'
  | .error _ => ts

/-- The store after a run of operations. -/
def run (ts : TableStore) (ops : List Operation) : TableStore := ops.foldl after ts

/-! ## Stores in step -/

/-- A store of tables has the schema and the counter of a store, and a table in step with each of its
partitions. -/
structure InStep (ts : TableStore) (s : Store) : Prop where
  schema : ts.schema = s.schema
  counter : ts.counter = s.counter
  tables : ∀ name, Option.Rel Table.InStep (ts.tables.get? name) (s.partitions.get? name)

/-- Two stores in step have stored an entity under one key. -/
structure Saved.InStep (a : Saved) (b : Store.Saved) : Prop where
  key : a.key = b.key
  entity : a.entity = b.entity
  store : a.store.InStep b.store

variable {ts : TableStore} {s : Store}

/-- Under a name there is a table in step with a partition, or neither. -/
theorem InStep.table_cases (h : ts.InStep s) (name : String) :
    (∃ t p, ts.tables.get? name = some t ∧ s.partitions.get? name = some p ∧ t.InStep p) ∨
      (ts.tables.get? name = none ∧ s.partitions.get? name = none) := by
  have hname := h.tables name
  generalize ts.tables.get? name = found at hname
  generalize s.partitions.get? name = found' at hname
  cases hname with
  | some hstep => exact .inl ⟨_, _, rfl, rfl, hstep⟩
  | none => exact .inr ⟨rfl, rfl⟩

theorem InStep.table (h : ts.InStep s) (name : String) :
    (ts.table name).InStep (s.partition name) :=
  Entries.rel_getD (h.tables name) Table.inStep_empty

theorem InStep.withCounter (h : ts.InStep s) (counter : KeyCounter) :
    InStep { ts with counter := counter } { s with counter := counter } :=
  ⟨h.schema, rfl, h.tables⟩

theorem InStep.setTable (h : ts.InStep s) (name : String) {t : Table} {p : Partition}
    (hstep : t.InStep p) : (ts.setTable name t).InStep (s.setPartition name p) := by
  refine ⟨h.schema, h.counter, fun other => ?_⟩
  show Option.Rel _ ((ts.tables.insert name t).get? other) ((s.partitions.insert name p).get? other)
  rw [NameMap.get?_insert, NameMap.get?_insert]
  split
  · exact .some hstep
  · exact h.tables other

theorem inStep_empty (schema : Schema) : (empty schema).InStep (.empty schema) := by
  refine ⟨rfl, rfl, ?_⟩
  show ∀ name, Option.Rel _
    ((NameMap.ofList (schema.toList.map fun t => (t.partition, Table.empty))).get? name)
    ((NameMap.ofList (schema.toList.map fun t => (t.partition, Partition.empty))).get? name)
  generalize schema.toList = types
  induction types with
  | nil => exact fun _ => .none
  | cons t rest ih =>
    intro name
    rw [List.map_cons, List.map_cons, NameMap.get?_ofList_cons, NameMap.get?_ofList_cons]
    split
    · -- a later type of the same partition may have made the table already
      exact .some (Entries.rel_getD (ih t.partition) Table.inStep_empty)
    · exact ih name

theorem InStep.cleared (h : ts.InStep s) : ts.cleared.InStep s.cleared := by
  refine ⟨h.schema, h.counter, fun name => ?_⟩
  show Option.Rel _ ((ts.tables.map _).get? name) ((s.partitions.map _).get? name)
  rw [NameMap.get?_map, NameMap.get?_map]
  obtain ⟨t, p, ht, hp, _⟩ | ⟨ht, hp⟩ := h.table_cases name
  · rw [ht, hp]
    exact .some Table.inStep_empty
  · rw [ht, hp]
    exact .none

/-! ## Operations keep stores in step -/

open Outcome (Alike)

theorem InStep.resolve_alike (h : ts.InStep s) (typeName : String) :
    Alike Eq (ts.schema.resolve typeName) (s.schema.resolve typeName) :=
  .of_eq (congrArg (fun schema : Schema => schema.resolve typeName) h.schema)

theorem put_alike (h : ts.InStep s) (e : Entity) : Alike Saved.InStep (ts.put e) (s.put e) := by
  rw [put, Store.put]
  apply (h.resolve_alike e.typeName).bind
  rintro t _ rfl
  apply (Alike.of_eq (congrArg (Store.assignKey · e) h.counter)).bind
  rintro ⟨key, e, counter⟩ _ rfl
  -- where there is no table yet, the record goes into an empty one on both sides
  have hstep := Table.inStep_insert (h.table t.partition) key e.persisted
  exact .given ⟨rfl, rfl, (h.withCounter counter).setTable t.partition hstep⟩

theorem remove_alike (h : ts.InStep s) (typeName key : String) :
    Alike InStep (ts.remove typeName key) (s.remove typeName key) := by
  rw [remove, Store.remove]
  apply (h.resolve_alike typeName).bind
  rintro t _ rfl
  obtain ⟨table, p, ht, hp, hstep⟩ | ⟨ht, hp⟩ := h.table_cases t.partition
  · rw [ht, hp]
    exact .given (h.setTable t.partition (Table.inStep_remove hstep key))
  · rw [ht, hp]
    exact .given h

theorem removeEntity_alike (h : ts.InStep s) (e : Entity) :
    Alike InStep (ts.removeEntity e) (s.removeEntity e) := by
  rw [removeEntity, Store.removeEntity]
  apply (Alike.refl Eq.refl e.key).bind
  rintro found _ rfl
  cases found with
  | some key => exact remove_alike h e.typeName key
  | none =>
    apply (h.resolve_alike e.typeName).bind
    intro _ _ _
    exact .given h

/-- Records of a dataset go into a table and into a partition one after another. -/
theorem inStep_loadRecords (t : EntityType) (records : NameMap Record) {table : Table}
    {p : Partition} (hstep : table.InStep p) :
    (loadRecords t records table).InStep (Store.loadRecords t records p) := by
  rw [loadRecords, Store.loadRecords]
  generalize records.entries = l
  induction l generalizing table p with
  | nil => exact hstep
  | cons e rest ih => exact ih (Table.inStep_insert hstep e.1 _)

theorem InStep.loadPartition (h : ts.InStep s) (name : String) (records : NameMap Record) :
    (ts.loadPartition name records).InStep (s.loadPartition name records) := by
  rw [TableStore.loadPartition, Store.loadPartition, h.schema]
  cases s.schema.typeOfPartition? name with
  | some t => exact h.setTable name (inStep_loadRecords t records (h.table name))
  | none => exact h

theorem InStep.loadPartitions (h : ts.InStep s) (l : List (String × NameMap Record)) :
    (l.foldl (fun ts e => ts.loadPartition e.1 e.2) ts).InStep
      (l.foldl (fun s e => s.loadPartition e.1 e.2) s) := by
  induction l generalizing ts s with
  | nil => exact h
  | cons e rest ih => exact ih (h.loadPartition e.1 e.2)

theorem load_alike (h : ts.InStep s) (d : Dataset) : Alike InStep (ts.load d) (s.load d) := by
  have hfind : (d.partitions.names.find? fun name => !ts.schema.hasPartition name) =
      d.partitions.names.find? fun name => !s.schema.hasPartition name := by rw [h.schema]
  rw [load, Store.load, hfind]
  cases d.partitions.names.find? fun name => !s.schema.hasPartition name with
  | some unknown => exact .refused _
  | none =>
    apply (Alike.of_eq (congrArg (Store.claimKeys · d) h.counter)).bind
    rintro counter _ rfl
    exact .given ((h.withCounter counter).loadPartitions d.partitions.entries)

/-- An operation is refused by both of two stores in step for the same cause, or leaves both in
step. -/
theorem perform_alike (h : ts.InStep s) (op : Operation) :
    Alike InStep (ts.perform op) (s.perform op) := by
  cases op with
  | put e => exact (put_alike h e).map fun _ _ hsaved => hsaved.store
  | remove typeName key => exact remove_alike h typeName key
  | removeEntity e => exact removeEntity_alike h e
  | load d => exact load_alike h d
  | reset d =>
    -- a reset that is refused is refused by the load into the cleared stores
    exact load_alike h.cleared d

theorem inStep_after (h : ts.InStep s) (op : Operation) : (ts.after op).InStep (s.after op) := by
  rw [after, Store.after]
  obtain ⟨cause, hts, hs⟩ | ⟨ts', s', hts, hs, hstep⟩ := (perform_alike h op).eq_error_or_eq_ok
  · rw [hts, hs]
    exact h
  · rw [hts, hs]
    exact hstep

theorem inStep_run (h : ts.InStep s) (ops : List Operation) : (ts.run ops).InStep (s.run ops) := by
  induction ops generalizing ts s with
  | nil => exact h
  | cons op ops ih => exact ih (inStep_after h op)

/-! ## Answers of stores in step -/

/-- What is read of a table, or in its absence, is what is read of the partition. -/
theorem InStep.read_eq (h : ts.InStep s) (name : String) {α : Type} {ofTable : Table → α}
    {ofPartition : Partition → α} (hread : ∀ t p, t.InStep p → ofTable t = ofPartition p)
    {absent : α} (habsent : absent = ofPartition .empty) :
    (match ts.tables.get? name with
      | some t => ofTable t
      | none => absent) = ofPartition (s.partition name) := by
  rw [Store.partition]
  obtain ⟨t, p, ht, hp, hstep⟩ | ⟨ht, hp⟩ := h.table_cases name
  · rw [ht, hp]
    exact hread t p hstep
  · rw [ht, hp]
    exact habsent

theorem InStep.query_eq (h : ts.InStep s) (typeName : String) (c : Option Criterion) :
    ts.query typeName c = s.query typeName c := by
  rw [query, Store.query, h.schema]
  refine congrArg _ (funext fun t => congrArg _ (funext fun predicate => congrArg Except.ok ?_))
  have hread : ∀ (table : Table) (p : Partition), table.InStep p →
      (table.entries.map Prod.snd).filter predicate.matchesRecord =
        p.records.filter predicate.matchesRecord := by
    intro table p hstep
    rw [hstep.entries_eq]
    rfl
  exact h.read_eq t.partition hread rfl

theorem InStep.get_eq (h : ts.InStep s) (typeName key : String) :
    ts.get typeName key = s.get typeName key := by
  rw [get, Store.get, h.schema]
  refine congrArg _ (funext fun t => congrArg Except.ok ?_)
  exact h.read_eq t.partition (fun _ _ hstep => hstep.lookup key) rfl

theorem InStep.count_eq (h : ts.InStep s) (typeName : String) :
    ts.count typeName = s.count typeName := by
  rw [count, Store.count, h.schema]
  refine congrArg _ (funext fun t => congrArg Except.ok ?_)
  exact h.read_eq t.partition (fun _ _ hstep => hstep.size_eq) rfl

theorem InStep.toDataset_eq (h : ts.InStep s) : ts.toDataset = s.toDataset := by
  have hentries := (Entries.forall₂_iff_get? ts.tables.ascending s.partitions.ascending).mpr h.tables
  -- both go through the same names in the same order
  rw [toDataset, Store.toDataset]
  generalize Dataset.empty = d
  generalize ts.tables.entries = l at hentries
  generalize s.partitions.entries = l' at hentries
  induction hentries generalizing d with
  | nil => rfl
  | cons hentry _ ih =>
    obtain ⟨hname, hstep⟩ := hentry
    rw [List.foldl_cons, List.foldl_cons, hname, hstep.entries_eq]
    exact ih _

/-- After any run from a store without records, every table has each of its keys once in its order and
no others, the next operation is refused as a store would refuse it or keeps in step with what the
store does, and queries, look-ups, counts and the dataset are those of the store. -/
theorem run_answers_as_store (schema : Schema) (ops : List Operation) :
    (∀ name t, ((empty schema).run ops).tables.get? name = some t →
      t.order.Nodup ∧ ∀ key, key ∈ t.order ↔ t.contains key = true) ∧
    (∀ e, Alike Saved.InStep (((empty schema).run ops).put e)
      (((Store.empty schema).run ops).put e)) ∧
    (∀ op, Alike InStep (((empty schema).run ops).perform op)
      (((Store.empty schema).run ops).perform op)) ∧
    (∀ typeName c, ((empty schema).run ops).query typeName c =
      ((Store.empty schema).run ops).query typeName c) ∧
    (∀ typeName key, ((empty schema).run ops).get typeName key =
      ((Store.empty schema).run ops).get typeName key) ∧
    (∀ typeName, ((empty schema).run ops).count typeName =
      ((Store.empty schema).run ops).count typeName) ∧
    ((empty schema).run ops).toDataset = ((Store.empty schema).run ops).toDataset := by
  have h : ((empty schema).run ops).InStep ((Store.empty schema).run ops) :=
    inStep_run (inStep_empty schema) ops
  refine ⟨?order, put_alike h, perform_alike h, h.query_eq, h.get_eq, h.count_eq, h.toDataset_eq⟩
  case order =>
    intro name t ht
    obtain ⟨t', p, ht', _, hstep⟩ | ⟨hnone, _⟩ := h.table_cases name
    · obtain rfl := Option.some.inj (ht.symm.trans ht')
      exact ⟨hstep.order ▸ p.keys_nodup, fun key => hstep.mem_order_iff⟩
    · cases ht.symm.trans hnone

end TableStore

end RecordStore
