/-
# RecordStore.Proofs.Store.Undeclared — fields that a type does not declare do not matter.

A caller may give a record any fields, and a dataset may list them.  What is stored is cut to the
fields that the type declares, and these include the key field.  So two records that agree on them
(`Record.AgreeOn`) are the same to a store, on both ways by which records come into it:

* two entities are put under the same key, with the same store after it, or are refused for the same
  cause (`put_ofType_alike`); what is given back still has the undeclared fields;
* a dataset is loaded as the dataset of its stored forms would be (`load_asStored`), and datasets
  that differ in undeclared fields alone have the same stored forms (`asStored_eq`).

Two outcomes are compared by `Outcome.Alike`, step by step.
-/
import RecordStore.Proofs.Store.Contents

namespace RecordStore

/-! ## Records -/

namespace Record

variable {r r' : Record} {names : List String} {field : String}

/-- Two records have the same in every field of a list of names. -/
def AgreeOn (names : List String) (r r' : Record) : Prop :=
  ∀ name ∈ names, r.get? name = r'.get? name

theorem AgreeOn.refl (names : List String) (r : Record) : AgreeOn names r r := fun _ _ => rfl

/-- A projection onto these names does not tell them apart. -/
theorem AgreeOn.project_eq (h : AgreeOn names r r') : r.project names = r'.project names := by
  refine project_eq_project_iff.mpr ⟨fun _ => Iff.rfl, fun name hname => ?_⟩
  rw [h name hname]

theorem AgreeOn.key_eq (h : AgreeOn names r r') (hfield : field ∈ names) :
    r.key field = r'.key field := by
  rw [key, key, h field hfield]

theorem AgreeOn.insert (h : AgreeOn names r r') (field : String) (v : Value) :
    AgreeOn names (r.insert field v) (r'.insert field v) := by
  intro name hname
  rw [get?_insert, get?_insert, h name hname]

/-- Fields of other names may be set to anything. -/
theorem AgreeOn.insert_other (h : AgreeOn names r r') (hfield : field ∉ names) (v v' : Value) :
    AgreeOn names (r.insert field v) (r'.insert field v') := by
  intro name hname
  have hne : name ≠ field := fun heq => hfield (heq ▸ hname)
  rw [get?_insert, get?_insert, if_neg hne, if_neg hne, h name hname]

theorem AgreeOn.loadedRecord_eq {t : EntityType} (h : AgreeOn t.fieldNames r r') (key : String) :
    Store.loadedRecord t key r = Store.loadedRecord t key r' := by
  rw [Store.loadedRecord, Store.loadedRecord, h.project_eq]

end Record

/-! ## Entities -/

namespace Store

variable {s : Store} {t : EntityType} {data data' : Record}

/-- An entity of a type is put under its own key or a generated one, whichever data it has besides. -/
theorem assignKey_ofType_alike (ht : t.Valid) (h : Record.AgreeOn t.fieldNames data data')
    (counter : KeyCounter) :
    Outcome.Alike
      (fun a a' => a.1 = a'.1 ∧ a.2.2 = a'.2.2 ∧ ∃ d d', a.2.1 = .ofType t d ∧
        a'.2.1 = .ofType t d' ∧ Record.AgreeOn t.fieldNames d d')
      (assignKey counter (.ofType t data)) (assignKey counter (.ofType t data')) := by
  have hkey : (Entity.ofType t data).key = (Entity.ofType t data').key := h.key_eq ht.keyField_mem
  unfold assignKey
  rw [hkey]
  apply (Outcome.Alike.refl Eq.refl (Entity.ofType t data').key).bind
  rintro found _ rfl
  cases found with
  | some key =>
    apply (Outcome.Alike.refl Eq.refl (claimKey counter key)).bind
    rintro counter _ rfl
    exact .given ⟨rfl, rfl, data, data', rfl, rfl, h⟩
  | none =>
    -- the generated key is filled in on both sides, so they agree on the key field as before
    exact .given ⟨rfl, rfl, _, _, rfl, rfl, h.insert t.keyField (.text counter.issue.1)⟩

/-- What two puts gave is the same but for undeclared fields of what is given back. -/
structure Saved.Alike (t : EntityType) (saved saved' : Saved) : Prop where
  key : saved.key = saved'.key
  data : Record.AgreeOn t.fieldNames saved.entity.data saved'.entity.data
  store : saved.store = saved'.store

/-- Two entities of a type that agree on its fields are put alike. -/
theorem put_ofType_alike (s : Store) (ht : t.Valid)
    (h : Record.AgreeOn t.fieldNames data data') :
    Outcome.Alike (Saved.Alike t) (s.put (.ofType t data)) (s.put (.ofType t data')) := by
  unfold put
  apply (Outcome.Alike.refl Eq.refl (s.schema.resolve t.name)).bind
  rintro u _ rfl
  apply (assignKey_ofType_alike ht h s.counter).bind
  rintro ⟨key, e, counter⟩ ⟨_, e', _⟩ ⟨rfl, rfl, d, d', rfl, rfl, hagree⟩
  have hpersisted : (Entity.ofType t d).persisted = (Entity.ofType t d').persisted :=
    hagree.project_eq
  refine .given ⟨rfl, hagree, ?_⟩
  show Store.setPartition _ _ _ = Store.setPartition _ _ _
  rw [hpersisted]

end Store

/-! ## Datasets -/

namespace Dataset

/-- Two datasets have the same keys in the same partitions, and records that agree on all fields
which a type of their partition declares. -/
structure AgreeOnDeclared (schema : Schema) (d d' : Dataset) : Prop where
  partitions : ∀ name, d.partitions.contains name = d'.partitions.contains name
  records : ∀ name key, Option.Rel
    (fun r r' => ∀ t ∈ schema.toList, t.partition = name → Record.AgreeOn t.fieldNames r r')
    (d.get? name key) (d'.get? name key)

/-- The form in which a record is stored from a dataset.  In a partition that no type uses nothing is
stored. -/
def storedForm (schema : Schema) (name key : String) (r : Record) : Record :=
  match schema.typeOfPartition? name with
  | some t => Store.loadedRecord t key r
  | none => .empty

/-- The dataset of the stored forms. -/
def asStored (schema : Schema) (d : Dataset) : Dataset :=
  ⟨d.partitions.map fun name records => records.map (storedForm schema name)⟩

variable {schema : Schema} {d d' : Dataset}

theorem agreeOnDeclared_empty (schema : Schema) : empty.AgreeOnDeclared schema empty :=
  ⟨fun _ => rfl, fun _ _ => .none⟩

theorem AgreeOnDeclared.insert (h : d.AgreeOnDeclared schema d') {name : String} {r r' : Record}
    (hr : ∀ t ∈ schema.toList, t.partition = name → Record.AgreeOn t.fieldNames r r')
    (key : String) : (d.insert name key r).AgreeOnDeclared schema (d'.insert name key r') where
  partitions := by
    intro other
    show (d.partitions.insert name _).contains other = (d'.partitions.insert name _).contains other
    rw [Bool.eq_iff_iff, NameMap.contains_insert_iff, NameMap.contains_insert_iff, h.partitions]
  records := by
    intro other k
    rw [get?_insert, get?_insert]
    split
    · rename_i hplace
      rw [hplace.1]
      exact .some hr
    · exact h.records other k

theorem get?_asStored (name key : String) :
    (d.asStored schema).get? name key = (d.get? name key).map (storedForm schema name key) := by
  rw [get?, asStored, NameMap.get?_map, get?]
  cases d.partitions.get? name with
  | none => rfl
  | some records => exact NameMap.get?_map (storedForm schema name) records key

/-- A dataset is determined by its partitions and the records that it has in them. -/
theorem ext_get? (hpartitions : ∀ name, d.partitions.contains name = d'.partitions.contains name)
    (hrecords : ∀ name key, d.get? name key = d'.get? name key) : d = d' := by
  suffices heq : d.partitions = d'.partitions from congrArg Dataset.mk heq
  apply NameMap.ext_get?
  intro name
  have hsome : (d.partitions.get? name).isSome = (d'.partitions.get? name).isSome :=
    hpartitions name
  have hname := hrecords name
  unfold get? at hname
  cases hp : d.partitions.get? name with
  | none =>
    rw [hp] at hsome
    exact (Option.isNone_iff_eq_none.mp (by simpa using hsome.symm)).symm
  | some records =>
    rw [hp] at hsome
    obtain ⟨records', hp'⟩ := Option.isSome_iff_exists.mp hsome.symm
    rw [hp, hp'] at hname
    rw [hp']
    exact congrArg some (NameMap.ext_get? hname)

theorem contains_asStored (name : String) :
    (d.asStored schema).partitions.contains name = d.partitions.contains name :=
  NameMap.contains_map _ _ _

/-- Undeclared fields have no part in stored forms. -/
theorem asStored_eq (h : d.AgreeOnDeclared schema d') : d.asStored schema = d'.asStored schema := by
  apply ext_get?
  · intro name
    rw [contains_asStored, contains_asStored, h.partitions]
  · intro name key
    have hrecords := h.records name key
    rw [get?_asStored, get?_asStored]
    generalize d.get? name key = found, d'.get? name key = found' at hrecords
    cases hrecords with
    | none => rfl
    | some hagree =>
      refine congrArg some ?_
      unfold storedForm
      split
      · rename_i t ht
        apply Record.AgreeOn.loadedRecord_eq
        exact hagree t (Schema.mem_toList_of_typeOfPartition? ht)
          (Schema.partition_of_typeOfPartition? ht)
      · rfl

theorem numericKeys_asStored : (d.asStored schema).numericKeys = d.numericKeys := by
  show ((d.partitions.entries.map fun e => (e.1, e.2.map (storedForm schema e.1))).map
    Prod.snd).flatMap (fun records => records.names.filterMap KeyCounter.number?) = _
  rw [List.map_map, List.flatMap_map, numericKeys, NameMap.values, List.flatMap_map]
  simp only [Function.comp_apply, NameMap.names_map]

end Dataset

namespace Store

variable {schema : Schema} {d d' : Dataset}

/-- The stored form of a record is stored as it is. -/
theorem loadedRecord_loadedRecord {t : EntityType} (ht : t.Valid) (key : String) (r : Record) :
    loadedRecord t key (loadedRecord t key r) = loadedRecord t key r :=
  (Record.hasShape_loadedRecord ht key).loadedRecord_eq ht key

theorem loadPartition_storedForm (s : Store) (name : String) (records : NameMap Record) :
    s.loadPartition name (records.map (Dataset.storedForm s.schema name)) =
      s.loadPartition name records := by
  unfold loadPartition
  split
  · rename_i t ht
    have hvalid : t.Valid :=
      Schema.valid_of_mem_toList (Schema.mem_toList_of_typeOfPartition? ht)
    have hform : Dataset.storedForm s.schema name = loadedRecord t := by
      funext key r
      rw [Dataset.storedForm, ht]
    simp only [loadRecords, NameMap.map, List.foldl_map, hform, loadedRecord_loadedRecord hvalid]
  · rfl

theorem foldl_loadPartition_storedForm (l : List (String × NameMap Record)) (s : Store) :
    (l.map fun e => (e.1, e.2.map (Dataset.storedForm s.schema e.1))).foldl
        (fun s e => s.loadPartition e.1 e.2) s =
      l.foldl (fun s e => s.loadPartition e.1 e.2) s := by
  induction l generalizing s with
  | nil => rfl
  | cons e rest ih =>
    have hrest := ih (s.loadPartition e.1 e.2)
    rw [schema_loadPartition] at hrest
    rw [List.map_cons, List.foldl_cons, List.foldl_cons, loadPartition_storedForm]
    exact hrest

/-- Loading a dataset is loading the stored forms of its records. -/
theorem load_asStored (s : Store) (d : Dataset) : s.load (d.asStored s.schema) = s.load d := by
  have hnames : (d.asStored s.schema).partitions.names = d.partitions.names :=
    NameMap.names_map _ _
  have hclaim : claimKeys s.counter (d.asStored s.schema) = claimKeys s.counter d := by
    rw [claimKeys, claimKeys, Dataset.largestKey?, Dataset.numericKeys_asStored]
    rfl
  have hrecords : ∀ counter, ({ s with counter := counter } : Store).withRecords
      (d.asStored s.schema) = ({ s with counter := counter } : Store).withRecords d :=
    fun counter => foldl_loadPartition_storedForm d.partitions.entries _
  unfold load
  rw [hnames, hclaim]
  split
  · rfl
  · exact congrArg (claimKeys s.counter d >>= ·) (funext fun counter =>
      congrArg Except.ok (hrecords counter))

/-- Datasets that agree on all declared fields are loaded alike. -/
theorem load_eq_of_agreeOnDeclared (s : Store) (h : d.AgreeOnDeclared s.schema d') :
    s.load d = s.load d' := by
  calc s.load d = s.load (d.asStored s.schema) := (load_asStored s d).symm
    _ = s.load (d'.asStored s.schema) := by rw [Dataset.asStored_eq h]
    _ = s.load d' := load_asStored s d'

end Store

end RecordStore
