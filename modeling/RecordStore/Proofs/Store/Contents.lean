/-
# RecordStore.Proofs.Store.Contents — what holds of every record that a run leaves in a store.

Records come into a store by being written, so what every write satisfies holds of every record
(`forall_records_run`).  There are two ways of writing, putting an entity and adding a dataset, and
both store the same form of the record that they are supplied with: its projection onto the fields
of its type, with the key filled in where it is missing (`persisted_eq_loadedRecord`).  So in runs
that put only entities of the schema's own types every record is the stored form of one that an
operation has supplied (`exists_supplied_run`).  Two facts are derived over schemas in which every
partition belongs to one type:

* a record has the fields that its type declares, no others, and is never without a key
  (`hasShape_run`);
* as long as no dataset is loaded, the key field of a record holds the key under which the record
  is stored, as a string or as a number (`holdsKey_run`).

A dataset may list a record under another key than the one in its key field, so the second does not
outlast a load.
-/
import RecordStore.Catalog
import RecordStore.Proofs.Record
import RecordStore.Proofs.Store.Run

namespace RecordStore

/-! ## Schemas without shared partitions -/

namespace Schema

/-- No two types store their records in one partition. -/
def Unshared (s : Schema) : Prop :=
  ∀ t ∈ s.toList, ∀ u ∈ s.toList, t.partition = u.partition → t = u

instance (s : Schema) : Decidable s.Unshared :=
  inferInstanceAs (Decidable (∀ t ∈ s.toList, ∀ u ∈ s.toList, t.partition = u.partition → t = u))

theorem builtIn_unshared : Catalog.builtIn.Unshared := by decide

variable {s : Schema} {t : EntityType}

theorem name_of_resolve {name : String} (h : s.resolve name = .ok t) : t.name = name :=
  (s.valid name t (resolve_eq_ok_iff.mp h)).1

theorem mem_toList_of_resolve {name : String} (h : s.resolve name = .ok t) : t ∈ s.toList := by
  rw [mem_toList_iff, name_of_resolve h]
  exact resolve_eq_ok_iff.mp h

theorem valid_of_mem_toList (h : t ∈ s.toList) : t.Valid :=
  (s.valid t.name t (mem_toList_iff.mp h)).2

theorem mem_toList_of_typeOfPartition? {partition : String}
    (h : s.typeOfPartition? partition = some t) : t ∈ s.toList :=
  List.mem_of_find?_eq_some h

theorem partition_of_typeOfPartition? {partition : String}
    (h : s.typeOfPartition? partition = some t) : t.partition = partition := by
  simpa using List.find?_some h

/-- A partition is used exactly when a type names it. -/
theorem hasPartition_iff {partition : String} :
    s.hasPartition partition = true ↔ ∃ t ∈ s.toList, t.partition = partition := by
  rw [hasPartition, typeOfPartition?, List.find?_isSome]
  simp only [decide_eq_true_iff]

/-- Where partitions are not shared, the type of a partition is the one that names it. -/
theorem Unshared.typeOfPartition?_of_mem (hs : s.Unshared) (ht : t ∈ s.toList) :
    s.typeOfPartition? t.partition = some t := by
  cases hfind : s.typeOfPartition? t.partition with
  | none =>
    have hnone := List.find?_eq_none.mp hfind t ht
    simp at hnone
  | some u =>
    have hu : u ∈ s.toList := mem_toList_of_typeOfPartition? hfind
    rw [hs u hu t ht (partition_of_typeOfPartition? hfind)]

end Schema

/-- The key field of a valid type is among its fields. -/
theorem EntityType.Valid.keyField_mem {t : EntityType} (h : t.Valid) :
    t.keyField ∈ t.fieldNames :=
  NameMap.mem_names_of_get? h

/-! ## Keys of entities -/

/-- The text of a value that is a key: a string is its own, and a number has the one in which it is
written. -/
inductive Value.KeyText : Value → String → Prop where
  | text (s : String) : KeyText (.text s) s
  | number (n : Json.Number) : KeyText (.number n) n.text

theorem Value.isNull_iff {v : Value} : v.isNull = true ↔ v = .null := by
  obtain ⟨j, hj⟩ := v
  cases j <;> simp [isNull, Json.shape, null]

/-- Nothing and `null` stand for no key. -/
theorem keyOfValue_eq_none_iff {found : Option Value} :
    keyOfValue found = .ok none ↔ found = none ∨ found = some .null := by
  cases found with
  | none => simp [keyOfValue]
  | some v =>
    obtain ⟨j, hj⟩ := v
    cases j <;> simp [keyOfValue, Value.null]

theorem keyOfValue_eq_some_iff {found : Option Value} {key : String} :
    keyOfValue found = .ok (some key) ↔ ∃ v, found = some v ∧ v.KeyText key := by
  constructor
  · intro h
    cases found with
    | none => cases h
    | some v =>
      refine ⟨v, rfl, ?_⟩
      obtain ⟨j, hj⟩ := v
      cases j with
      | text s =>
        cases h
        exact .text key
      | number n =>
        cases h
        exact .number n
      | null => cases h
      | bool b => cases h
      | array items => cases h
      | object members => cases h
  · rintro ⟨v, rfl, h⟩
    cases h <;> rfl

/-- What is neither a string nor a number nor `null` is no key and does not stand for the lack of
one. -/
theorem keyOfValue_eq_error_iff {found : Option Value} {cause : Error} :
    keyOfValue found = .error cause ↔
      ∃ v, found = some v ∧ (v.shape = .bool ∨ v.shape = .array ∨ v.shape = .object) ∧
        cause = .invalidRecord (.keyShape v.shape) := by
  cases found with
  | none => simp [keyOfValue]
  | some v =>
    obtain ⟨j, hj⟩ := v
    cases j <;> simp [keyOfValue, Value.shape, Json.shape, eq_comm]

theorem Entity.ofTypeNamed_eq_ok_iff {s : Schema} {name : String} {data : Record} {e : Entity} :
    ofTypeNamed s name data = .ok e ↔ ∃ t, s.resolve name = .ok t ∧ e = ofType t data := by
  unfold ofTypeNamed
  cases s.resolve name <;> simp [Except.map, eq_comm]

/-! ## The form in which records are stored -/

namespace Record

variable {r : Record} {t : EntityType}

/-- Whether a record has nothing in a field, or `null`. -/
def lacks (r : Record) (field : String) : Bool := (r.get? field).all Value.isNull

/-- The record with a key in a field where it had nothing. -/
def filled (r : Record) (field key : String) : Record :=
  if r.lacks field then r.insert field (.text key) else r

theorem lacks_eq_true_iff {field : String} :
    r.lacks field = true ↔ r.get? field = none ∨ r.get? field = some .null := by
  unfold lacks
  cases r.get? field <;> simp [Value.isNull_iff]

theorem key_eq_none_iff {field : String} : r.key field = .ok none ↔ r.lacks field = true :=
  keyOfValue_eq_none_iff.trans lacks_eq_true_iff.symm

theorem get?_filled (field key other : String) :
    (r.filled field key).get? other =
      if other = field ∧ r.lacks field then some (.text key) else r.get? other := by
  unfold filled
  cases r.lacks field <;> simp [get?_insert]

/-- A projection lacks just those of its fields that the record lacks. -/
theorem lacks_project {names : List String} {field : String} (hfield : field ∈ names) :
    (r.project names).lacks field = r.lacks field := by
  unfold lacks
  rw [get?_project, if_pos hfield]
  cases r.get? field <;> rfl

/-- A key may be filled in before the projection or after it. -/
theorem project_filled {names : List String} {field : String} (hfield : field ∈ names)
    (key : String) :
    (r.filled field key).project names = (r.project names).filled field key := by
  apply ext_get?
  intro other
  show ((r.filled field key).project names).get? other =
    ((r.project names).filled field key).get? other
  rw [get?_project, get?_filled, get?_filled, get?_project, lacks_project hfield]
  by_cases hother : other = field ∧ r.lacks field
  · simp [hother, hfield]
  · simp [hother]

/-- What is stored for a record of a dataset is its projection, with the key of the dataset filled
in. -/
theorem loadedRecord_eq_filled (ht : t.Valid) (key : String) :
    Store.loadedRecord t key r = (r.project t.fieldNames).filled t.keyField key := by
  obtain ⟨v, hv⟩ := (get?_project_isSome_iff (r := r) t.fieldNames t.keyField).mpr ht.keyField_mem
  simp [Store.loadedRecord, filled, lacks, hv]

/-- The stored form holds the key under which it is stored, unless the record came with another. -/
theorem key_loadedRecord (ht : t.Valid) {key : String}
    (hkey : r.key t.keyField = .ok none ∨ r.key t.keyField = .ok (some key)) :
    (Store.loadedRecord t key r).key t.keyField = .ok (some key) := by
  have hstored : (Store.loadedRecord t key r).get? t.keyField =
      if r.lacks t.keyField then some (.text key)
      else some ((r.get? t.keyField).getD .null) := by
    rw [loadedRecord_eq_filled ht, get?_filled, lacks_project ht.keyField_mem, get?_project,
      if_pos ht.keyField_mem]
    simp
  rw [Record.key, hstored]
  rcases hkey with hnone | hown
  · rw [if_pos (key_eq_none_iff.mp hnone)]
    rfl
  · obtain ⟨v, hv, htext⟩ := keyOfValue_eq_some_iff.mp hown
    have hkeyed : ¬ r.lacks t.keyField = true := by
      intro hlacks
      cases hown.symm.trans (key_eq_none_iff.mpr hlacks)
    rw [if_neg hkeyed, hv]
    exact keyOfValue_eq_some_iff.mpr ⟨v, rfl, htext⟩

/-- Apart from the key, the stored form has the values of the record, and `null` where it has
none. -/
theorem get?_loadedRecord_of_ne (ht : t.Valid) {key field : String} (hfield : field ∈ t.fieldNames)
    (hne : field ≠ t.keyField) :
    (Store.loadedRecord t key r).get? field = some ((r.get? field).getD .null) := by
  rw [loadedRecord_eq_filled ht, get?_filled, if_neg (fun h => hne h.1), get?_project,
    if_pos hfield]

/-! ### Shape -/

/-- A record has the declared fields of a type and no others, and a key. -/
structure HasShape (r : Record) (t : EntityType) : Prop where
  fields : ∀ field, (∃ v, r.get? field = some v) ↔ field ∈ t.fieldNames
  keyed : r.get? t.keyField ≠ some .null

theorem hasShape_loadedRecord (ht : t.Valid) (key : String) :
    (Store.loadedRecord t key r).HasShape t where
  fields := by
    intro field
    rw [loadedRecord_eq_filled ht, get?_filled]
    split
    · rename_i hfield
      simp [hfield.1, ht.keyField_mem]
    · exact get?_project_isSome_iff t.fieldNames field
  keyed := by
    intro hnull
    rw [loadedRecord_eq_filled ht, get?_filled] at hnull
    split at hnull
    · cases hnull
    · rename_i hkey
      exact hkey ⟨rfl, lacks_eq_true_iff.mpr (.inr hnull)⟩

/-- A record that has the shape of a type is its own projection. -/
theorem HasShape.project_eq (h : r.HasShape t) : r.project t.fieldNames = r :=
  project_eq_self_iff.mpr h.fields

/-- A record that has the shape of a type is stored from a dataset as it is. -/
theorem HasShape.loadedRecord_eq (h : r.HasShape t) (ht : t.Valid) (key : String) :
    Store.loadedRecord t key r = r := by
  have hkeyed : r.lacks t.keyField = false := by
    rw [Bool.eq_false_iff]
    intro hlacks
    obtain ⟨v, hv⟩ := (h.fields t.keyField).mpr ht.keyField_mem
    rcases lacks_eq_true_iff.mp hlacks with hnone | hnull
    · cases hnone.symm.trans hv
    · exact h.keyed hnull
  rw [loadedRecord_eq_filled ht, h.project_eq, filled, hkeyed]
  rfl

end Record

/-! ## Operations on entities of a schema -/

namespace Operation

/-- The operation puts no other entities than those of the types of a schema. -/
def IsTyped (schema : Schema) : Operation → Prop
  | .put e => ∃ typeName data, Entity.ofTypeNamed schema typeName data = .ok e
  | _ => True

/-- The operation is about one entity or one key, not about a whole dataset. -/
def IsSingle : Operation → Prop
  | .load _ => False
  | .reset _ => False
  | _ => True

/-- The record that an operation supplies for a key of a type.  The data of an entity are supplied
for the key that they hold, or, without one, for any key that they may be given. -/
inductive Supplies : Operation → EntityType → String → Record → Prop where
  | put {t : EntityType} {data : Record} {key : String}
      (hkey : data.key t.keyField = .ok none ∨ data.key t.keyField = .ok (some key)) :
      Supplies (.put (.ofType t data)) t key data
  | load {d : Dataset} {t : EntityType} {key : String} {r : Record}
      (h : d.get? t.partition key = some r) : Supplies (.load d) t key r
  | reset {d : Dataset} {t : EntityType} {key : String} {r : Record}
      (h : d.get? t.partition key = some r) : Supplies (.reset d) t key r

end Operation

namespace Store

/-- An entity is left as it was by being put, but for its key, which is filled in where it had none. -/
theorem entity_of_put {s : Store} {e : Entity} {saved : Saved} (h : s.put e = .ok saved) :
    saved.entity = { e with data := e.data.filled e.keyField saved.key } := by
  obtain ⟨_, counter, _, hassign, _⟩ := put_eq_ok_iff.mp h
  rcases assignKey_eq_ok_iff.mp hassign with ⟨hkey, hentity, _⟩ | ⟨hkey, _, hentity, _⟩
  · have hkeyed : e.data.lacks e.keyField = false := by
      rw [Bool.eq_false_iff]
      intro hlacks
      cases hkey.symm.trans (Record.key_eq_none_iff.mpr hlacks)
    rw [hentity, Record.filled, hkeyed]
    rfl
  · have hlacks : e.data.lacks e.keyField = true := Record.key_eq_none_iff.mp hkey
    rw [hentity, Record.filled, hlacks]
    rfl

/-- An entity is stored in the form in which a dataset with its data under its key would be. -/
theorem persisted_eq_loadedRecord {s : Store} {t : EntityType} {data : Record} {saved : Saved}
    (ht : t.Valid) (h : s.put (.ofType t data) = .ok saved) :
    saved.entity.persisted = loadedRecord t saved.key data := by
  rw [entity_of_put h, Record.loadedRecord_eq_filled ht]
  exact Record.project_filled ht.keyField_mem saved.key

/-- What a typed operation writes is the stored form of a record that it supplies. -/
theorem exists_supplied_of_writes {s : Store} {op : Operation} {name key : String} {r : Record}
    (hop : op.IsTyped s.schema) (hw : Writes s op name key r) :
    ∃ t ∈ s.schema.toList, t.partition = name ∧
      ∃ given, op.Supplies t key given ∧ r = loadedRecord t key given := by
  cases hw with
  | @put e t saved ht hput =>
    obtain ⟨typeName, data, he⟩ := hop
    obtain ⟨u, hu, rfl⟩ := Entity.ofTypeNamed_eq_ok_iff.mp he
    -- the name in an entity is that of the type it was made of, so both look-ups find this type
    have hname : s.schema.resolve u.name = .ok u := by
      rw [Schema.name_of_resolve hu]
      exact hu
    obtain rfl : u = t := Except.ok.inj (hname.symm.trans ht)
    have hmem : u ∈ s.schema.toList := Schema.mem_toList_of_resolve hu
    have hkey : data.key u.keyField = .ok none ∨ data.key u.keyField = .ok (some saved.key) := by
      obtain ⟨_, counter, _, hassign, _⟩ := put_eq_ok_iff.mp hput
      rcases assignKey_eq_ok_iff.mp hassign with ⟨hown, _⟩ | ⟨hnone, _⟩
      · exact .inr hown
      · exact .inl hnone
    exact ⟨u, hmem, rfl, data, .put hkey,
      persisted_eq_loadedRecord (Schema.valid_of_mem_toList hmem) hput⟩
  | @load d s' t name key given _ ht hgiven =>
    obtain rfl := Schema.partition_of_typeOfPartition? ht
    exact ⟨t, Schema.mem_toList_of_typeOfPartition? ht, rfl, given, .load hgiven, rfl⟩
  | @reset d s' t name key given _ ht hgiven =>
    obtain rfl := Schema.partition_of_typeOfPartition? ht
    exact ⟨t, Schema.mem_toList_of_typeOfPartition? ht, rfl, given, .reset hgiven, rfl⟩

/-! ## Records are what was written -/

theorem forall_records_after {s : Store} {op : Operation}
    {P : (name key : String) → Record → Prop}
    (hwrites : ∀ name key r, Writes s op name key r → P name key r)
    (hs : ∀ name key r, (s.partition name).get? key = some r → P name key r) (name key : String)
    (r : Record) (hr : ((s.after op).partition name).get? key = some r) : P name key r := by
  rcases ((updated_after s op name).lookup key r).mp hr with hw | ⟨_, _, hold⟩
  · exact hwrites name key r hw
  · exact hs name key r hold

/-- What holds of the records of a store and of all that a run writes holds of the records after the
run. -/
theorem forall_records_run (ops : List Operation) {s : Store}
    {P : (name key : String) → Record → Prop}
    (hwrites : ∀ op ∈ ops, ∀ s' : Store, s'.schema = s.schema → ∀ name key r,
      Writes s' op name key r → P name key r)
    (hs : ∀ name key r, (s.partition name).get? key = some r → P name key r) (name key : String)
    (r : Record) (hr : ((s.run ops).partition name).get? key = some r) : P name key r := by
  induction ops generalizing s with
  | nil => exact hs name key r hr
  | cons op ops ih =>
    have hafter := forall_records_after (hwrites op List.mem_cons_self s rfl) hs
    have hrest : ∀ op' ∈ ops, ∀ s' : Store, s'.schema = (s.after op).schema → ∀ name key r,
        Writes s' op' name key r → P name key r := by
      intro op' hop s' hschema
      exact hwrites op' (List.mem_cons_of_mem op hop) s' (hschema.trans (schema_after s op))
    exact ih hrest hafter hr

/-- A store without records has none that could fail to satisfy something. -/
theorem forall_records_empty (schema : Schema) {P : (name key : String) → Record → Prop}
    (name key : String) (r : Record) (hr : ((empty schema).partition name).get? key = some r) :
    P name key r := by
  rw [partition_empty] at hr
  cases hr

variable {schema : Schema} {ops : List Operation}

/-- Every record that a typed run leaves is the stored form of a record that an operation of the run
has supplied for its key, in the partition of a type. -/
theorem exists_supplied_run (htyped : ∀ op ∈ ops, op.IsTyped schema) (name key : String)
    (r : Record) (hr : (((empty schema).run ops).partition name).get? key = some r) :
    ∃ t ∈ schema.toList, t.partition = name ∧
      ∃ op ∈ ops, ∃ given, op.Supplies t key given ∧ r = loadedRecord t key given := by
  refine forall_records_run ops
    (P := fun name key r => ∃ t ∈ schema.toList, t.partition = name ∧
      ∃ op ∈ ops, ∃ given, op.Supplies t key given ∧ r = loadedRecord t key given) ?_
    (forall_records_empty schema) name key r hr
  intro op hop s hschema name key r hw
  have hop' := htyped op hop
  rw [show (empty schema).schema = schema from rfl] at hschema
  subst hschema
  obtain ⟨t, ht, hname, given, hgiven, hr⟩ := exists_supplied_of_writes hop' hw
  exact ⟨t, ht, hname, op, hop, given, hgiven, hr⟩

/-- Every record that a typed run leaves is in the partition of a type, and has its shape. -/
theorem hasShape_run (hunshared : schema.Unshared) (htyped : ∀ op ∈ ops, op.IsTyped schema)
    (name key : String) (r : Record)
    (hr : (((empty schema).run ops).partition name).get? key = some r) :
    ∃ t, schema.typeOfPartition? name = some t ∧ r.HasShape t := by
  obtain ⟨t, ht, rfl, _, _, given, _, rfl⟩ := exists_supplied_run htyped name key r hr
  exact ⟨t, hunshared.typeOfPartition?_of_mem ht,
    Record.hasShape_loadedRecord (Schema.valid_of_mem_toList ht) key⟩

/-- Every record that a typed run without datasets leaves holds the key under which it is stored. -/
theorem holdsKey_run (hunshared : schema.Unshared)
    (hops : ∀ op ∈ ops, op.IsTyped schema ∧ op.IsSingle) {t : EntityType} (ht : t ∈ schema.toList)
    {key : String} {r : Record}
    (hr : (((empty schema).run ops).partition t.partition).get? key = some r) :
    r.key t.keyField = .ok (some key) := by
  obtain ⟨u, hu, hpartition, op, hop, given, hgiven, rfl⟩ :=
    exists_supplied_run (fun op hop => (hops op hop).1) _ _ _ hr
  obtain rfl := hunshared u hu t ht hpartition
  cases hgiven with
  | put hkey => exact Record.key_loadedRecord (Schema.valid_of_mem_toList hu) hkey
  | load _ => exact absurd (hops _ hop).2 id
  | reset _ => exact absurd (hops _ hop).2 id

end Store

end RecordStore
